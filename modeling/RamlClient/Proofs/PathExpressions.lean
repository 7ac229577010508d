import Mathlib.Data.List.Nodup
import RamlClient.Client.Operations
import RamlClient.Proofs.FormatStrings
import RamlClient.Proofs.UriPieces
/-!
# Expressions for paths

The path of a resource with parameters is formatted: percent signs are doubled, and each parameter
between braces is replaced by a verb. Reading the format string and filling in values gives the path
with the values in place of the parameters, as long as no name of a parameter has a percent sign.
One that has is not found again once percent signs are doubled, and its verb is missing.
-/

namespace RamlClient.Client

open Api Go

/-! ### Replacements in pieces -/

/-- Characters that belong to a replaced text are skipped. -/
theorem replaceWhenFrom_skip (old new cs rest : List Char) :
    Text.replaceWhenFrom old new (fun _ => true) cs.length (cs ++ rest) =
      Text.replaceWhenFrom old new (fun _ => true) 0 rest := by
  induction cs with
  | nil => rfl
  | cons c r ih => exact ih

/-- A text without the first character of what is replaced stays as it is. -/
theorem replaceWhenFrom_append {first : Char} {old new cs : List Char} (h : ∀ c ∈ cs, c ≠ first)
    (rest : List Char) :
    Text.replaceWhenFrom (first :: old) new (fun _ => true) 0 (cs ++ rest) =
      cs ++ Text.replaceWhenFrom (first :: old) new (fun _ => true) 0 rest := by
  induction cs with
  | nil => rfl
  | cons c r ih =>
    obtain ⟨hc, hr⟩ := List.forall_mem_cons.1 h
    have hprefix : (first :: old).isPrefixOf (c :: (r ++ rest)) = false := by
      rw [List.isPrefixOf_cons_cons, beq_false_of_ne hc.symm, Bool.false_and]
    rw [List.cons_append, Text.replaceWhenFrom, hprefix, Bool.false_and, if_neg Bool.false_ne_true,
      ih hr]
    rfl

/-- Doubling percent signs doubles each one of them. -/
theorem replaceAll_percent (s : String) :
    (Text.replaceAll "%" "%%" s).toList = s.toList.flatMap doubledChar := by
  rw [Text.replaceAll, String.toList_ofList, Text.replaceWhen]
  induction s.toList with
  | nil => rfl
  | cons c r ih =>
    by_cases hc : c = '%'
    · subst hc
      simpa [Text.replaceWhenFrom, doubledChar] using ih
    · simpa [Text.replaceWhenFrom, doubledChar, hc, Ne.symm hc] using ih

/-- Texts without braces before closing braces are the same if one is the beginning of the other. -/
theorem eq_of_isPrefixOf {m n rest : List Char} (hm : ∀ c ∈ m, isNoBrace c = true)
    (hn : ∀ c ∈ n, isNoBrace c = true)
    (h : (n ++ ['\x7d']).isPrefixOf (m ++ '\x7d' :: rest) = true) :
    n = m := by
  induction n generalizing m with
  | nil =>
    cases m with
    | nil => rfl
    | cons c r =>
      have hc := (isNoBrace_iff.1 (hm c List.mem_cons_self)).2
      simp [hc.symm] at h
  | cons d n ih =>
    cases m with
    | nil =>
      have hd := (isNoBrace_iff.1 (hn d List.mem_cons_self)).2
      simp [hd] at h
    | cons c m =>
      simp only [List.cons_append, List.isPrefixOf_cons_cons, Bool.and_eq_true, beq_iff_eq] at h
      rw [h.1, ih (fun c hc => hm c (List.mem_cons_of_mem _ hc))
        (fun c hc => hn c (List.mem_cons_of_mem _ hc)) h.2]

/-- Characters are written as they are. -/
theorem flatMap_written_chars (cs : List Char) :
    (cs.map UriPiece.char).flatMap UriPiece.written = cs := by
  induction cs with
  | nil => rfl
  | cons c r ih =>
    rw [List.map_cons, List.flatMap_cons, ih]
    rfl

/-- Pieces with the characters of a text in place of a name between braces. -/
def replaceHole (name new : List Char) (ps : List UriPiece) : List UriPiece :=
  ps.flatMap fun p => if p = .hole name then new.map .char else [p]

/-- A name between braces is replaced wherever it is a piece, and nowhere else. -/
theorem replaceAll_hole {name new : List Char} {ps : List UriPiece}
    (hname : ∀ c ∈ name, isNoBrace c = true) (h : ∀ p ∈ ps, p.Plain) :
    Text.replaceWhen ('\x7b' :: (name ++ ['\x7d'])) new (fun _ => true)
      (ps.flatMap UriPiece.written) = (replaceHole name new ps).flatMap UriPiece.written := by
  unfold Text.replaceWhen
  induction ps with
  | nil => rfl
  | cons p rest ih =>
    obtain ⟨hp, hrest⟩ := List.forall_mem_cons.1 h
    have ih := ih hrest
    have hcons : replaceHole name new (p :: rest) =
        (if p = .hole name then new.map .char else [p]) ++ replaceHole name new rest :=
          List.flatMap_cons
    rw [hcons, List.flatMap_cons, List.flatMap_append, ← ih]
    cases p with
    | char c =>
      have hc : ∀ d ∈ [c], d ≠ '\x7b' := by simpa using (isNoBrace_iff.1 hp).1
      rw [if_neg (by simp)]
      exact replaceWhenFrom_append hc _
    | hole n =>
      by_cases hn : n = name
      · subst hn
        rw [if_pos rfl, flatMap_written_chars]
        have hskip := replaceWhenFrom_skip ('\x7b' :: (n ++ ['\x7d'])) new (n ++ ['\x7d'])
          (rest.flatMap UriPiece.written)
        rw [← hskip]
        simp [UriPiece.written, Text.replaceWhenFrom]
      · have hprefix : ('\x7b' :: (name ++ ['\x7d'])).isPrefixOf
            ('\x7b' :: (n ++ ['\x7d'] ++ rest.flatMap UriPiece.written)) = false := by
          refine Bool.eq_false_iff.2 fun hprefix => hn ?_
          rw [List.isPrefixOf_cons_cons, beq_self_eq_true, Bool.true_and,
            List.append_assoc] at hprefix
          exact (eq_of_isPrefixOf hp.2 hname hprefix).symm
        rw [if_neg (by simpa using hn), UriPiece.written, List.cons_append, Text.replaceWhenFrom,
          hprefix, Bool.false_and, if_neg Bool.false_ne_true, replaceWhenFrom_append
            (ne_open_of_name hp.2)]
        simp [UriPiece.written]

/-- A piece after a replacement is a new character or was there before. -/
theorem mem_replaceHole {name new : List Char} {ps : List UriPiece} {q : UriPiece} :
    q ∈ replaceHole name new ps → (∃ c ∈ new, q = .char c) ∨ q ∈ ps := by
  intro hq
  obtain ⟨p, hp, hq⟩ := List.mem_flatMap.1 hq
  split at hq
  · obtain ⟨c, hc, rfl⟩ := List.mem_map.1 hq
    exact .inl ⟨c, hc, rfl⟩
  · rw [List.mem_singleton.1 hq]
    exact .inr hp

/-! ### The format string of a path -/

/-- The letter of the verb for a parameter of a path. -/
def pathLetter (d : TypeDescriptor) : Char :=
  if d.kind ∈ ["integer", "number", "uint"] then 'd'
  else if d.kind = "boolean" then 't'
  else if d.kind = "string" then 's'
  else 'v'

/-- A verb is a percent sign and a letter. -/
theorem pathVerb_eq (d : TypeDescriptor) : pathVerb d = String.ofList ['%', pathLetter d] := by
  unfold pathVerb pathLetter
  split
  · rfl
  split
  · rfl
  split <;> rfl

/-- The letters of verbs are among those that are read. -/
theorem pathLetter_mem (d : TypeDescriptor) : pathLetter d ∈ verbLetters := by
  unfold pathLetter
  split
  · decide
  split
  · decide
  split <;> decide

/-- The pieces of a path with percent signs doubled. -/
def doubledPieces (ps : List UriPiece) : List UriPiece :=
  ps.flatMap fun
    | .char c => (doubledChar c).map .char
    | .hole name => [.hole (name.flatMap doubledChar)]

/-- A character with percent signs doubled is not empty. -/
theorem doubledChar_ne_nil (c : Char) : doubledChar c ≠ [] := by
  unfold doubledChar
  split <;> simp

/-- Doubling percent signs gives no braces. -/
theorem isNoBrace_of_mem_doubledChar {c d : Char} (hc : isNoBrace c = true)
    (hd : d ∈ doubledChar c) :
    isNoBrace d = true := by
  unfold doubledChar at hd
  split at hd
  · have hpercent : isNoBrace '%' = true := by decide
    have hd : d = '%' := by simpa using hd
    rwa [hd]
  · rwa [List.mem_singleton.1 hd]

/-- Pieces stay plain when their percent signs are doubled. -/
theorem plain_doubledPieces {ps : List UriPiece} (h : ∀ p ∈ ps, p.Plain) :
    ∀ q ∈ doubledPieces ps, q.Plain := by
  intro q hq
  obtain ⟨p, hp, hq⟩ := List.mem_flatMap.1 hq
  have hplain := h p hp
  cases p with
  | char c =>
    obtain ⟨d, hd, rfl⟩ := List.mem_map.1 hq
    exact isNoBrace_of_mem_doubledChar hplain hd
  | hole name =>
    obtain rfl := List.mem_singleton.1 hq
    refine ⟨?_, fun d hd => ?_⟩
    · obtain ⟨c, hc⟩ := List.exists_mem_of_ne_nil name hplain.1
      exact fun hnil => doubledChar_ne_nil c (List.flatMap_eq_nil_iff.1 hnil c hc)
    · obtain ⟨c, hc, hd⟩ := List.mem_flatMap.1 hd
      exact isNoBrace_of_mem_doubledChar (hplain.2 c hc) hd

/-- Pieces with percent signs doubled are written with percent signs doubled. -/
theorem written_doubledPieces (ps : List UriPiece) :
    (doubledPieces ps).flatMap UriPiece.written =
      (ps.flatMap UriPiece.written).flatMap doubledChar := by
  rw [doubledPieces, List.flatMap_assoc, List.flatMap_assoc]
  refine List.flatMap_congr fun p _ => ?_
  cases p with
  | char c => simpa [UriPiece.written] using flatMap_written_chars (doubledChar c)
  | hole name =>
    have hbraces : doubledChar '\x7b' = ['\x7b'] ∧ doubledChar '\x7d' = ['\x7d'] := by decide
    simp [UriPiece.written, hbraces]

/-- The letter of the verb for the first parameter of a name. -/
def letterFor? (parameters : List Parameter) (name : List Char) : Option Char :=
  (parameters.find? (·.name.toList == name)).map fun p => pathLetter p.type

/-- A piece with the verb of its parameter, if it has one. -/
def templatePiece (parameters : List Parameter) : UriPiece → List UriPiece
  | .char c => [.char c]
  | .hole name =>
    match letterFor? parameters name with
    | some letter => [.char '%', .char letter]
    | none => [.hole name]

/-- Replacements one after another replace each piece once: a verb has no braces that a later one
could find. -/
theorem foldl_replaceHole (parameters : List Parameter) (ps : List UriPiece) :
    parameters.foldl (fun qs p => replaceHole p.name.toList (pathVerb p.type).toList qs) ps =
      ps.flatMap (templatePiece parameters) := by
  induction parameters generalizing ps with
  | nil =>
    have hkeep (p : UriPiece) : templatePiece [] p = [p] := by cases p <;> rfl
    rw [List.foldl_nil, funext hkeep, List.flatMap_singleton']
  | cons parameter rest ih =>
    rw [List.foldl_cons, ih, replaceHole, List.flatMap_assoc]
    refine List.flatMap_congr fun p _ => ?_
    cases p with
    | char c => simp [templatePiece]
    | hole name =>
      by_cases hname : parameter.name.toList = name
      · simp [templatePiece, letterFor?, hname, pathVerb_eq]
      · simp [templatePiece, letterFor?, hname, Ne.symm hname]

/-- The template of a path is written from its pieces. -/
theorem pathTemplate_written {path : String} {parameters : List Parameter} {ps : List UriPiece}
    (hpath : readUri path.toList = some ps)
    (hparameters : ∀ p ∈ parameters, ∀ c ∈ p.name.toList, isNoBrace c = true) :
    (pathTemplate path parameters).toList =
      ((doubledPieces ps).flatMap (templatePiece parameters)).flatMap UriPiece.written := by
  obtain ⟨hwritten, hplain⟩ := readUri_eq_some_iff.1 hpath
  have hstart : (Text.replaceAll "%" "%%" path).toList =
      (doubledPieces ps).flatMap UriPiece.written := by
    rw [replaceAll_percent, hwritten, written_doubledPieces]
  rw [← foldl_replaceHole, pathTemplate]
  generalize Text.replaceAll "%" "%%" path = template at hstart
  generalize hqs : doubledPieces ps = qs at hstart
  have hqsPlain : ∀ q ∈ qs, q.Plain := hqs ▸ plain_doubledPieces hplain
  clear hqs
  induction parameters generalizing template qs with
  | nil => exact hstart
  | cons parameter rest ih =>
    obtain ⟨hparameter, hrest⟩ := List.forall_mem_cons.1 hparameters
    have hpattern : ("\x7b" ++ parameter.name ++ "\x7d").toList =
        '\x7b' :: (parameter.name.toList ++ ['\x7d']) := by
      rw [String.toList_append, String.toList_append]
      rfl
    refine ih hrest (Text.replaceAll ("\x7b" ++ parameter.name ++ "\x7d") (pathVerb parameter.type)
      template) (replaceHole parameter.name.toList (pathVerb parameter.type).toList qs) ?_ ?_
    · rw [Text.replaceAll, String.toList_ofList, hstart, hpattern]
      exact replaceAll_hole hparameter hqsPlain
    · intro q hq
      obtain ⟨c, hc, rfl⟩ | hq := mem_replaceHole hq
      · have hletters : verbLetters.all isNoBrace = true := by decide
        rw [pathVerb_eq, String.toList_ofList] at hc
        rcases List.mem_cons.1 hc with rfl | hc
        · show isNoBrace '%' = true
          decide
        · rw [List.mem_singleton.1 hc]
          exact List.all_eq_true.1 hletters _ (pathLetter_mem _)
      · exact hqsPlain q hq

/-- The pieces of the format string of a path: a parameter that is not found again is left as
text. -/
def formatPieces (parameters : List Parameter) (ps : List UriPiece) : List FormatPiece :=
  ps.flatMap fun
    | .char c => [.char c]
    | .hole name =>
      match letterFor? parameters (name.flatMap doubledChar) with
      | some letter => [.verb letter]
      | none => (UriPiece.hole name).written.map .char

/-- The letter that is found for a name is one that is read. -/
theorem letterFor?_mem {parameters : List Parameter} {name : List Char} {letter : Char}
    (h : letterFor? parameters name = some letter) : letter ∈ verbLetters := by
  obtain ⟨p, -, rfl⟩ := Option.map_eq_some_iff.1 h
  exact pathLetter_mem p.type

/-- The pieces of a format string are written as the pieces of the template. -/
theorem written_formatPieces (parameters : List Parameter) (ps : List UriPiece) :
    (formatPieces parameters ps).flatMap FormatPiece.written =
      ((doubledPieces ps).flatMap (templatePiece parameters)).flatMap UriPiece.written := by
  have hchars (cs : List Char) : (cs.map FormatPiece.char).flatMap FormatPiece.written =
      cs.flatMap doubledChar := by
    rw [List.flatMap_map]
    rfl
  rw [formatPieces, doubledPieces, List.flatMap_assoc, List.flatMap_assoc, List.flatMap_assoc]
  refine List.flatMap_congr fun p _ => ?_
  cases p with
  | char c =>
    dsimp only
    rw [List.flatMap_singleton, List.flatMap_map]
    exact (List.flatMap_singleton' (doubledChar c)).symm
  | hole name =>
    have hbraces : doubledChar '\x7b' = ['\x7b'] ∧ doubledChar '\x7d' = ['\x7d'] := by decide
    cases hletter : letterFor? parameters (name.flatMap doubledChar) with
    | none => simp [templatePiece, hletter, hchars, UriPiece.written, FormatPiece.written, hbraces]
    | some letter => simp [templatePiece, hletter, UriPiece.written, FormatPiece.written]

/-- The format string of a path is read as its pieces. -/
theorem readFormat_pathTemplate {path : String} {parameters : List Parameter} {ps : List UriPiece}
    (hpath : readUri path.toList = some ps)
    (hparameters : ∀ p ∈ parameters, ∀ c ∈ p.name.toList, isNoBrace c = true) :
    readFormat (pathTemplate path parameters).toList = some (formatPieces parameters ps) := by
  rw [pathTemplate_written hpath hparameters, ← written_formatPieces]
  refine readFormat_written fun letter hletter => ?_
  obtain ⟨p, -, hp⟩ := List.mem_flatMap.1 hletter
  cases p with
  | char c => simp at hp
  | hole name =>
    dsimp only at hp
    split at hp
    · rename_i l hl
      simp only [List.mem_singleton, FormatPiece.verb.injEq] at hp
      exact hp ▸ letterFor?_mem hl
    · simp at hp

/-! ### Reading the format string -/

/-- The text of pieces with values in place of the names between braces. -/
def substitute (values : List (List Char × List Char)) (ps : List UriPiece) : List Char :=
  ps.flatMap fun
    | .char c => [c]
    | .hole name => (values.lookup name).getD []

/-- The verbs of the format string are those that are found for the doubled names. -/
theorem letters_formatPieces (parameters : List Parameter) (ps : List UriPiece) :
    (formatPieces parameters ps).filterMap FormatPiece.letter? =
      (holeNames ps).filterMap fun name => letterFor? parameters (name.flatMap doubledChar) := by
  have hchars (cs : List Char) : (cs.map FormatPiece.char).filterMap FormatPiece.letter? = [] := by
    simp [FormatPiece.letter?, List.filterMap_map, Function.comp_def]
  induction ps with
  | nil => rfl
  | cons p rest ih =>
    have hcons : formatPieces parameters (p :: rest) =
        formatPieces parameters [p] ++ formatPieces parameters rest := by
      simp [formatPieces]
    rw [hcons, List.filterMap_append, ih]
    cases p with
    | char c => rfl
    | hole name =>
      cases hletter : letterFor? parameters (name.flatMap doubledChar) with
      | none => simp [formatPieces, hletter, hchars, holeNames, UriPiece.name?]
      | some letter => simp [formatPieces, hletter, FormatPiece.letter?, holeNames, UriPiece.name?]

/-- A value for a name that no piece has changes nothing. -/
theorem substitute_cons (value : List Char × List Char) (values : List (List Char × List Char))
    {ps : List UriPiece} (h : value.1 ∉ holeNames ps) :
    substitute (value :: values) ps = substitute values ps := by
  refine List.flatMap_congr fun p hp => ?_
  cases p with
  | char c => rfl
  | hole name =>
    have hne : name ≠ value.1 := fun hname => h (List.mem_filterMap.2 ⟨_, hp, by rw [← hname]; rfl⟩)
    obtain ⟨key, chars⟩ := value
    simp only [List.lookup_cons, beq_false_of_ne hne]

/-- Values for all parameters are filled in in the order of the parameters. -/
theorem fill_formatPieces {parameters : List Parameter} {ps : List UriPiece}
    (hfound : ∀ name ∈ holeNames ps, (letterFor? parameters (name.flatMap doubledChar)).isSome)
    (hdistinct : (holeNames ps).Nodup) {values : List (List Char)}
    (hlength : values.length = (holeNames ps).length) :
    fill (formatPieces parameters ps) values =
      some (substitute ((holeNames ps).zip values) ps) := by
  induction ps generalizing values with
  | nil =>
    obtain rfl := List.length_eq_zero_iff.1 hlength
    rfl
  | cons p rest ih =>
    cases p with
    | char c =>
      have ih := ih hfound hdistinct hlength
      exact (congrArg (Option.map (c :: ·)) ih).trans rfl
    | hole name =>
      obtain ⟨hname, hrest⟩ := List.nodup_cons.1 hdistinct
      cases values with
      | nil => cases hlength
      | cons value values =>
        have ih := ih (fun n hn => hfound n (List.mem_cons_of_mem name hn)) hrest
          (Nat.succ.inj hlength)
        obtain ⟨letter, hletter⟩ := Option.isSome_iff_exists.1 (hfound name List.mem_cons_self)
        have hpieces : formatPieces parameters (.hole name :: rest) =
            .verb letter :: formatPieces parameters rest := by
          simp [formatPieces, hletter]
        have hvalue : substitute ((name, value) :: (holeNames rest).zip values)
          (.hole name :: rest) =
            value ++ substitute ((holeNames rest).zip values) rest := by
          rw [← substitute_cons (name, value) ((holeNames rest).zip values) hname]
          simp [substitute]
        rw [hpieces, fill, ih, Option.map_some, ← hvalue]
        rfl

/-- Without percent signs nothing is doubled. -/
theorem flatMap_doubledChar {name : List Char} (h : '%' ∉ name) :
    name.flatMap doubledChar = name := by
  have hkeep (c : Char) (hc : c ∈ name) : doubledChar c = [c] := by
    refine if_neg ?_
    rintro rfl
    exact h hc
  exact (List.flatMap_congr hkeep).trans (List.flatMap_singleton' name)

/-- A name with a percent sign grows when percent signs are doubled. -/
theorem length_lt_doubled {name : List Char} (h : '%' ∈ name) :
    name.length < (name.flatMap doubledChar).length := by
  obtain ⟨before, after, rfl⟩ := List.append_of_mem h
  have hle (cs : List Char) : cs.length ≤ (cs.flatMap doubledChar).length := by
    induction cs with
    | nil => exact Nat.le_refl _
    | cons c r ih =>
      have hc : 0 < (doubledChar c).length := List.length_pos_iff.2 (doubledChar_ne_nil c)
      rw [List.flatMap_cons, List.length_append, List.length_cons]
      omega
  have hbefore := hle before
  have hafter := hle after
  simp only [List.flatMap_append, List.flatMap_cons, List.length_append, List.length_cons,
    doubledChar, if_true, List.length_nil] at hbefore hafter ⊢
  omega

/-- If some name has a percent sign, there is one whose doubled form is none of the names: the
longest of them. Doubling again and again would lead to names of any length. -/
theorem exists_doubled_notMem {names : List (List Char)} (h : ∃ name ∈ names, '%' ∈ name) :
    ∃ name ∈ names, name.flatMap doubledChar ∉ names := by
  by_contra hall
  push Not at hall
  have hlong (k : Nat) : ∃ name ∈ names, '%' ∈ name ∧ k ≤ name.length := by
    induction k with
    | zero =>
      obtain ⟨name, hname, hpercent⟩ := h
      exact ⟨name, hname, hpercent, Nat.zero_le _⟩
    | succ k ih =>
      obtain ⟨name, hname, hpercent, hk⟩ := ih
      refine ⟨_, hall name hname, List.mem_flatMap.2 ⟨'%', hpercent, by decide⟩, ?_⟩
      exact Nat.lt_of_le_of_lt hk (length_lt_doubled hpercent)
  obtain ⟨name, hname, -, hlength⟩ := hlong (names.flatten.length + 1)
  have hle := (List.sublist_flatten_of_mem hname).length_le
  omega

section

variable {parameters : List Parameter} {ps : List UriPiece}

/-- A parameter is found under its name. -/
theorem letterFor?_of_mem (hdistinct : (parameters.map (·.name.toList)).Nodup) {p : Parameter}
    (hp : p ∈ parameters) : letterFor? parameters p.name.toList = some (pathLetter p.type) := by
  cases hfind : parameters.find? (·.name.toList == p.name.toList) with
  | none => exact absurd (List.find?_eq_none.1 hfind p hp) (by simp)
  | some q =>
    have hname : q.name.toList = p.name.toList := by simpa using List.find?_some hfind
    have hq : q = p := List.inj_on_of_nodup_map hdistinct (List.mem_of_find?_eq_some hfind) hp hname
    rw [letterFor?, hfind, hq]
    rfl

/-- Without percent signs in names, there is a verb for each parameter. -/
theorem letters_eq (hnames : parameters.map (·.name.toList) = holeNames ps)
    (hdistinct : (holeNames ps).Nodup) (hpercent : ∀ name ∈ holeNames ps, '%' ∉ name) :
    (formatPieces parameters ps).filterMap FormatPiece.letter? =
      parameters.map fun p => pathLetter p.type := by
  rw [letters_formatPieces, ← hnames, List.filterMap_map, ← List.filterMap_eq_map]
  refine List.filterMap_congr fun p hp => ?_
  have hname := hpercent p.name.toList (hnames ▸ List.mem_map_of_mem hp)
  rw [Function.comp_apply, Function.comp_apply, flatMap_doubledChar hname,
    letterFor?_of_mem (hnames ▸ hdistinct) hp]

/-- With a percent sign in a name, there are fewer verbs than parameters. -/
theorem letters_length_lt (hnames : parameters.map (·.name.toList) = holeNames ps)
    (hpercent : ∃ name ∈ holeNames ps, '%' ∈ name) :
    ((formatPieces parameters ps).filterMap FormatPiece.letter?).length <
      (holeNames ps).length := by
  rw [letters_formatPieces, List.length_filterMap_lt_length_iff_exists]
  obtain ⟨name, hname, hdoubled⟩ := exists_doubled_notMem hpercent
  refine ⟨name, hname, ?_⟩
  rw [letterFor?, Option.map_eq_none_iff, List.find?_eq_none]
  intro p hp heq
  refine hdoubled ?_
  rw [← beq_iff_eq.1 heq, ← hnames]
  exact List.mem_map_of_mem hp

end

/-! ### The expression -/

/-- The format string of a call of the formatting function, and what follows it. -/
def sprintfFormat? (expression : String) : Option (List Char × List Char) :=
  if Text.startsWith expression "fmt.Sprintf(" then
    readLiteral (expression.toList.drop "fmt.Sprintf(".length)
  else none

/-- A format string has a verb for each parameter, in their order, and gives the path with values in
place of the parameters. -/
structure FormatsTo (parameters : List Parameter) (pieces : List FormatPiece)
    (path : List UriPiece) :
    Prop where
  /-- The verbs are those of the parameters. -/
  verbs : (pieces.filterMap FormatPiece.letter?).map (fun letter => String.ofList ['%', letter]) =
    parameters.map fun p => pathVerb p.type
  /-- Values for the verbs are put in place of the parameters. -/
  fills : ∀ values : List (List Char), values.length = parameters.length →
    fill pieces values = some (substitute ((parameters.map (·.name.toList)).zip values) path)

/-- The format string for a path gives the path exactly if no name of a parameter has a percent
sign. -/
theorem formatsTo_formatPieces_iff {parameters : List Parameter} {path : List UriPiece}
    (hnames : parameters.map (·.name.toList) = holeNames path)
    (hdistinct : (holeNames path).Nodup) :
    FormatsTo parameters (formatPieces parameters path) path ↔
    ∀ p ∈ parameters, '%' ∉ p.name.toList := by
  have hlengths : parameters.length = (holeNames path).length := by rw [← hnames, List.length_map]
  constructor
  · -- with a percent sign in a name, there are too few verbs
    intro h p hp hsign
    have hverbs := congrArg List.length h.verbs
    have hless := letters_length_lt hnames ⟨_, hnames ▸ List.mem_map_of_mem hp, hsign⟩
    rw [List.length_map, List.length_map] at hverbs
    omega
  · intro h
    have hnone : ∀ name ∈ holeNames path, '%' ∉ name := by
      rw [← hnames]
      exact List.forall_mem_map.2 h
    constructor
    · rw [letters_eq hnames hdistinct hnone, List.map_map]
      exact List.map_congr_left fun p _ => (pathVerb_eq p.type).symm
    · intro values hvalues
      rw [hnames]
      refine fill_formatPieces (fun name hmem => ?_) hdistinct (hvalues.trans hlengths)
      obtain ⟨p, hp, rfl⟩ := List.mem_map.1 (hnames ▸ hmem)
      rw [flatMap_doubledChar (h p hp), letterFor?_of_mem (hnames ▸ hdistinct) hp]
      rfl

/-- With parameters, the expression formats a template with their arguments. -/
theorem sprintfFormat?_pathExpression {r : Resource} (h : r.uriParameters ≠ []) :
    sprintfFormat? (pathExpression r) = some ((pathTemplate r.path r.uriParameters).toList,
      (", " ++ Text.join ", " ((pathArgs r.uriParameters).map (·.name)) ++ ")").toList) := by
  have hargs : (pathArgs r.uriParameters).map (·.name) ≠ [] := by simpa [pathArgs] using h
  have hexpression : (pathExpression r).toList = "fmt.Sprintf(".toList ++
      (literalChars (pathTemplate r.path r.uriParameters).toList ++
        (", " ++ Text.join ", " ((pathArgs r.uriParameters).map (·.name)) ++ ")").toList) := by
    unfold pathExpression
    rw [if_neg (by simpa using h), call, literal]
    obtain ⟨name, names, hnames⟩ := List.exists_cons_of_ne_nil hargs
    rw [hnames, Text.join]
    simp
  have hstart : Text.startsWith (pathExpression r) "fmt.Sprintf(" = true := by
    rw [Text.startsWith, hexpression]
    simp
  rw [sprintfFormat?, if_pos hstart, hexpression, ← String.length_toList, List.drop_left,
    readLiteral_literalChars]

/-- Path expressions format back to the path. For a resource on a way of relative URIs whose braces
stand around different names, the expression is a call with a format string and the arguments for
the parameters of the path. The format string has a verb for each parameter, in their order, and
gives the path with the values in place of the parameters, exactly if no name of a parameter has a
percent sign; otherwise it has fewer verbs than there are arguments. -/
theorem pathExpression_formats {entries : List (Value × Value)} {api : Model}
    (hbuilt : buildModel entries = .ok api) {chain : List String} {r : Resource}
    (hr : ChainTo api.resources chain r) (hchain : ∀ uri ∈ chain, (readUri uri.toList).isSome)
    (hdistinct : (chainNames chain).Nodup) (hsome : chainNames chain ≠ []) :
    ∃ format pieces path,
      sprintfFormat? (pathExpression r) = some (format,
        (", " ++ Text.join ", " ((pathArgs r.uriParameters).map (·.name)) ++ ")").toList) ∧
      readFormat format = some pieces ∧ readUri r.path.toList = some path ∧
      (FormatsTo r.uriParameters pieces path ↔ ∀ p ∈ r.uriParameters, '%' ∉ p.name.toList) ∧
      ((∃ p ∈ r.uriParameters, '%' ∈ p.name.toList) →
        (pieces.filterMap FormatPiece.letter?).length < (pathArgs r.uriParameters).length) := by
  obtain ⟨path, hpath, hchainNames, hnames⟩ := readUri_path hbuilt hr hchain
  rw [← hchainNames] at hdistinct hsome
  have hplain := (readUri_eq_some_iff.1 hpath).2
  have hparameters : r.uriParameters ≠ [] := by
    intro hnil
    rw [hnil] at hnames
    exact hsome hnames.symm
  have hbraces (p : Parameter) (hp : p ∈ r.uriParameters) :
    ∀ c ∈ p.name.toList, isNoBrace c = true := by
    have hmem : p.name.toList ∈ holeNames path := hnames ▸ List.mem_map_of_mem hp
    obtain ⟨piece, hpiece, hhole⟩ := List.mem_filterMap.1 hmem
    cases piece with
    | char c => cases hhole
    | hole name =>
      obtain rfl := Option.some.inj hhole
      exact (hplain _ hpiece).2
  refine ⟨_, _, path, sprintfFormat?_pathExpression hparameters,
    readFormat_pathTemplate hpath hbraces, hpath, formatsTo_formatPieces_iff hnames hdistinct, ?_⟩
  rintro ⟨p, hp, hsign⟩
  have hlength : (pathArgs r.uriParameters).length = (holeNames path).length := by
    rw [pathArgs, List.length_map, ← hnames, List.length_map]
  rw [hlength]
  exact letters_length_lt hnames ⟨_, hnames ▸ List.mem_map_of_mem hp, hsign⟩

/-- A document with a resource below another one. -/
def fileDocument : List (Value × Value) :=
  [(.text "/users/\x7buserId\x7d", .mapping
    [(.text "uriParameters", .mapping [(.text "userId", .text "integer")]),
     (.text "/100%/\x7bname\x7d", .mapping [(.text "get", .mapping [])])])]

/-- The resource below. -/
def fileResource : Resource where
  relativeUri := "/100%/\x7bname\x7d"
  path := "/users/\x7buserId\x7d/100%/\x7bname\x7d"
  uriParameters := [⟨"userId", ⟨"integer", true, none, []⟩⟩, ⟨"name", ⟨"string", true, none, []⟩⟩]
  methods := [⟨"get", none, [], [], [], []⟩]
  resources := []

/-- The resource above. -/
def userResource : Resource where
  relativeUri := "/users/\x7buserId\x7d"
  path := "/users/\x7buserId\x7d"
  uriParameters := [⟨"userId", ⟨"integer", true, none, []⟩⟩]
  methods := []
  resources := [fileResource]

/-- A path with a percent sign is formatted as it is. -/
theorem pathExpression_formats_file : ∃ api chain format pieces path,
    buildModel fileDocument = .ok api ∧ ChainTo api.resources chain fileResource ∧
    sprintfFormat? (pathExpression fileResource) = some (format, ", userID, name)".toList) ∧
    readFormat format = some pieces ∧ readUri fileResource.path.toList = some path ∧
    FormatsTo fileResource.uriParameters pieces path := by
  have hbuilt : buildModel fileDocument = .ok
      ⟨"", "", "", "application/json", [], [], [userResource]⟩ := rfl
  have hr :
      ChainTo [userResource] [userResource.relativeUri, fileResource.relativeUri] fileResource :=
    .under List.mem_cons_self (.root List.mem_cons_self)
  obtain ⟨format, pieces, path, hformat, hpieces, hpath, hiff, -⟩ :=
    pathExpression_formats hbuilt hr (by decide +kernel) (by decide +kernel) (by decide +kernel)
  have hargs :
    (", " ++ Text.join ", " ((pathArgs fileResource.uriParameters).map (·.name)) ++ ")").toList =
      ", userID, name)".toList := by decide +kernel
  exact ⟨_, _, format, pieces, path, hbuilt, hr, hargs ▸ hformat, hpieces, hpath,
    hiff.2 (by decide +kernel)⟩

end RamlClient.Client
