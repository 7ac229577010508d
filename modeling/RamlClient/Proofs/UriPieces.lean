import Mathlib.Data.List.DropRight
import RamlClient.Proofs.Building
/-!
# The pieces of paths

A relative URI is read as its characters and the parameters between braces. The path of a resource
is put together from the relative URIs on the way to it, and its pieces are theirs but for slashes
at the ends. The parameters of the resource have the names that stand between the braces, from left
to right.
-/

namespace RamlClient.Api

/-- A piece of a path. -/
inductive UriPiece where
  /-- A character outside of braces. -/
  | char (c : Char)
  /-- A name between braces. -/
  | hole (name : List Char)
deriving DecidableEq

namespace UriPiece

/-- A piece as it is written. -/
def written : UriPiece → List Char
  | .char c => [c]
  | .hole name => '\x7b' :: (name ++ ['\x7d'])

/-- The name between braces. -/
def name? : UriPiece → Option (List Char)
  | .char _ => none
  | .hole name => some name

/-- Braces stand around names only, and no name is empty. -/
def Plain : UriPiece → Prop
  | .char c => isNoBrace c = true
  | .hole name => name ≠ [] ∧ ∀ c ∈ name, isNoBrace c = true

end UriPiece

/-- The pieces of a text. `name` holds the characters since an opening brace that has not been
closed. -/
def readUriFrom : Option (List Char) → List Char → Option (List UriPiece)
  | none, [] => some []
  | some _, [] => none
  | none, c :: r =>
    if c = '\x7b' then readUriFrom (some []) r
    else if c = '\x7d' then none
    else (readUriFrom none r).map (.char c :: ·)
  | some name, c :: r =>
    if c = '\x7b' then none
    else if c = '\x7d' then
      if name = [] then none else (readUriFrom none r).map (.hole name :: ·)
    else readUriFrom (some (name ++ [c])) r

/-- The pieces of a text whose braces stand around names that are not empty. -/
def readUri (cs : List Char) : Option (List UriPiece) := readUriFrom none cs

/-- A character that is no brace. -/
theorem isNoBrace_iff {c : Char} : isNoBrace c = true ↔ c ≠ '\x7b' ∧ c ≠ '\x7d' := by
  simp [isNoBrace]

/-- No brace opens in a name or where it is closed. -/
theorem ne_open_of_name {name : List Char} (h : ∀ c ∈ name, isNoBrace c = true) :
    ∀ c ∈ name ++ ['\x7d'], c ≠ '\x7b' := by
  intro c hc
  rcases List.mem_append.1 hc with hc | hc
  · exact (isNoBrace_iff.1 (h c hc)).1
  · rw [List.mem_singleton.1 hc]
    decide

/-- The pieces that are read are plain, and they are written as the text is. -/
theorem plain_of_readUriFrom {name : Option (List Char)} {cs : List Char} {ps : List UriPiece}
    (hname : ∀ n, name = some n → ∀ c ∈ n, isNoBrace c = true) (h : readUriFrom name cs = some ps) :
    (name.map ('\x7b' :: ·)).getD [] ++ cs = ps.flatMap UriPiece.written ∧ ∀ p ∈ ps, p.Plain := by
  induction cs generalizing name ps with
  | nil =>
    cases name with
    | none =>
      obtain rfl := Option.some.inj h
      exact ⟨rfl, nofun⟩
    | some n => cases h
  | cons c r ih =>
    cases name with
    | none =>
      rw [readUriFrom] at h
      split at h
      · rename_i hc
        subst hc
        exact ih (by simp) h
      · rename_i hopen
        split at h
        · cases h
        · rename_i hclose
          obtain ⟨qs, hqs, rfl⟩ := Option.map_eq_some_iff.1 h
          obtain ⟨hwritten, hplain⟩ := ih (by simp) hqs
          refine ⟨?_, List.forall_mem_cons.2 ⟨isNoBrace_iff.2 ⟨hopen, hclose⟩, hplain⟩⟩
          simpa [UriPiece.written] using hwritten
    | some n =>
      rw [readUriFrom] at h
      split at h
      · cases h
      rename_i hopen
      split at h
      · rename_i hc
        subst hc
        split at h
        · cases h
        rename_i hn
        obtain ⟨qs, hqs, rfl⟩ := Option.map_eq_some_iff.1 h
        obtain ⟨hwritten, hplain⟩ := ih (by simp) hqs
        refine ⟨?_, List.forall_mem_cons.2 ⟨⟨hn, hname n rfl⟩, hplain⟩⟩
        simpa [UriPiece.written] using hwritten
      · rename_i hclose
        have hname' (m : List Char) (hm : some (n ++ [c]) = some m) :
          ∀ d ∈ m, isNoBrace d = true := by
          obtain rfl := Option.some.inj hm
          exact List.forall_mem_append.2
            ⟨hname n rfl, List.forall_mem_singleton.2 (isNoBrace_iff.2 ⟨hopen, hclose⟩)⟩
        obtain ⟨hwritten, hplain⟩ := ih hname' h
        exact ⟨by simpa using hwritten, hplain⟩

/-- Characters of a name are kept while it is read. -/
theorem readUriFrom_append {n m : List Char} (h : ∀ c ∈ m, isNoBrace c = true) (rest : List Char) :
    readUriFrom (some n) (m ++ rest) = readUriFrom (some (n ++ m)) rest := by
  induction m generalizing n with
  | nil => simp
  | cons c r ih =>
    obtain ⟨hc, hr⟩ := List.forall_mem_cons.1 h
    obtain ⟨hopen, hclose⟩ := isNoBrace_iff.1 hc
    rw [List.cons_append, readUriFrom, if_neg hopen, if_neg hclose, ih hr, List.append_assoc]
    rfl

/-- A text is read as the pieces that it is written from, and as no others. -/
theorem readUri_eq_some_iff {cs : List Char} {ps : List UriPiece} :
    readUri cs = some ps ↔ cs = ps.flatMap UriPiece.written ∧ ∀ p ∈ ps, p.Plain := by
  constructor
  · exact plain_of_readUriFrom (by simp)
  · rintro ⟨rfl, h⟩
    induction ps with
    | nil => rfl
    | cons p rest ih =>
      obtain ⟨hp, hrest⟩ := List.forall_mem_cons.1 h
      have ih := ih hrest
      rw [readUri] at ih ⊢
      cases p with
      | char c =>
        obtain ⟨hopen, hclose⟩ := isNoBrace_iff.1 hp
        simp [UriPiece.written, readUriFrom, hopen, hclose, ih]
      | hole n =>
        have hname := readUriFrom_append (n := []) hp.2 ('\x7d' :: rest.flatMap UriPiece.written)
        simp [UriPiece.written, readUriFrom, hname, hp.1, ih]

example : readUri "/u/\x7bid\x7d".toList =
    some ("/u/".toList.map UriPiece.char ++ [.hole "id".toList]) := by
  decide +kernel

/-! ### Names of parameters -/

/-- The names between the braces of pieces. -/
def holeNames (ps : List UriPiece) : List (List Char) := ps.filterMap UriPiece.name?

/-- The names between braces of pieces in a row are those of one after the other. -/
theorem holeNames_append (ps qs : List UriPiece) :
    holeNames (ps ++ qs) = holeNames ps ++ holeNames qs :=
  List.filterMap_append

/-- A text without opening braces has no names between braces. -/
theorem placeholders_append {cs : List Char} (h : ∀ c ∈ cs, c ≠ '\x7b') (rest : List Char) :
    placeholders (cs ++ rest) = placeholders rest := by
  induction cs with
  | nil => rfl
  | cons c r ih =>
    obtain ⟨hc, hr⟩ := List.forall_mem_cons.1 h
    rw [List.cons_append, placeholders, if_neg fun hcond => hc hcond.1, ih hr]

/-- A name ends before the closing brace. -/
theorem takeWhile_name {name : List Char} (h : ∀ c ∈ name, isNoBrace c = true) (rest : List Char) :
    (name ++ '\x7d' :: rest).takeWhile isNoBrace = name := by
  rw [List.takeWhile_append_of_pos h]
  simp [isNoBrace]

/-- Behind a name stands the closing brace. -/
theorem dropWhile_name {name : List Char} (h : ∀ c ∈ name, isNoBrace c = true) (rest : List Char) :
    (name ++ '\x7d' :: rest).dropWhile isNoBrace = '\x7d' :: rest := by
  rw [List.dropWhile_append_of_pos h]
  simp [isNoBrace]

/-- The names of the parameters in a text are those between its braces. -/
theorem placeholders_written {ps : List UriPiece} (h : ∀ p ∈ ps, p.Plain) :
    placeholders (ps.flatMap UriPiece.written) = holeNames ps := by
  induction ps with
  | nil => rfl
  | cons p rest ih =>
    obtain ⟨hp, hrest⟩ := List.forall_mem_cons.1 h
    have ih := ih hrest
    cases p with
    | char c =>
      have hc : ∀ d ∈ [c], d ≠ '\x7b' := by simpa using (isNoBrace_iff.1 hp).1
      exact (placeholders_append hc _).trans ih
    | hole n =>
      have hskip := placeholders_append (ne_open_of_name hp.2) (rest.flatMap UriPiece.written)
      rw [List.append_assoc, List.singleton_append, ih] at hskip
      simp only [List.flatMap_cons, UriPiece.written, List.cons_append, List.append_assoc,
        List.nil_append, holeNames, List.filterMap_cons, UriPiece.name?]
      rw [placeholders, takeWhile_name hp.2, dropWhile_name hp.2, if_pos ⟨rfl, hp.1, rfl⟩, hskip]
      rfl

/-! ### Paths of resources -/

/-- The slashes at the end of a text are pieces of it, and no parameters. -/
theorem exists_pieces_dropRight {ps : List UriPiece} (h : ∀ p ∈ ps, p.Plain) :
    ∃ qs, Text.dropRightWhile (· == '/') (ps.flatMap UriPiece.written) =
      qs.flatMap UriPiece.written ∧
      (∀ q ∈ qs, q.Plain) ∧ holeNames qs = holeNames ps := by
  have hdrop (cs : List Char) : Text.dropRightWhile (· == '/') cs = cs.rdropWhile (· == '/') := rfl
  simp only [hdrop]
  induction ps using List.reverseRecOn with
  | nil => exact ⟨[], rfl, nofun, rfl⟩
  | append_singleton ps p ih =>
    have hps : ∀ q ∈ ps, q.Plain := fun q hq => h q (List.mem_append_left _ hq)
    cases p with
    | char c =>
      by_cases hc : c = '/'
      · obtain ⟨qs, hqs, hplain, hnames⟩ := ih hps
        refine ⟨qs, ?_, hplain, ?_⟩
        · rw [← hqs, List.flatMap_append, List.flatMap_singleton]
          exact List.rdropWhile_concat_pos _ _ _ (by simpa using hc)
        · rw [hnames, holeNames_append]
          exact (List.append_nil _).symm
      · refine ⟨_, ?_, h, rfl⟩
        rw [List.flatMap_append, List.flatMap_singleton]
        exact List.rdropWhile_concat_neg _ _ _ (by simpa using hc)
    | hole n =>
      refine ⟨_, ?_, h, rfl⟩
      rw [List.flatMap_append, List.flatMap_singleton, UriPiece.written, ← List.cons_append,
        ← List.append_assoc]
      exact List.rdropWhile_concat_neg _ _ _ (by decide)

/-- The names between the braces of relative URIs one after another. -/
def chainNames (chain : List String) : List (List Char) :=
  chain.flatMap fun uri => ((readUri uri.toList).map holeNames).getD []

/-- A path that is put together from readable relative URIs can be read, and has their names. -/
theorem exists_readUri_foldl {chain : List String} (h : ∀ uri ∈ chain, (readUri uri.toList).isSome)
    {path : String} {qs : List UriPiece} (hpath : readUri path.toList = some qs) :
    ∃ ps, readUri (chain.foldl extendPath path).toList = some ps ∧
      holeNames ps = holeNames qs ++ chainNames chain := by
  induction chain generalizing path qs with
  | nil => exact ⟨qs, hpath, by simp [chainNames]⟩
  | cons uri rest ih =>
    obtain ⟨huri, hrest⟩ := List.forall_mem_cons.1 h
    obtain ⟨us, hus⟩ := Option.isSome_iff_exists.1 huri
    obtain ⟨hpathWritten, hqs⟩ := readUri_eq_some_iff.1 hpath
    obtain ⟨huriWritten, hplain⟩ := readUri_eq_some_iff.1 hus
    obtain ⟨ts, hts, htsPlain, htsNames⟩ := exists_pieces_dropRight hqs
    have hextended : readUri (extendPath path uri).toList = some (ts ++ us) := by
      refine readUri_eq_some_iff.2 ⟨?_, ?_⟩
      · rw [extendPath, String.toList_append, String.toList_ofList, hpathWritten, hts, huriWritten,
          List.flatMap_append]
      · exact fun p hp => (List.mem_append.1 hp).elim (htsPlain p) (hplain p)
    obtain ⟨ps, hps, hnames⟩ := ih hrest hextended
    refine ⟨ps, hps, ?_⟩
    have hcons : chainNames (uri :: rest) = holeNames us ++ chainNames rest := by
      rw [chainNames, List.flatMap_cons, hus]
      rfl
    rw [hnames, hcons, holeNames_append, htsNames, List.append_assoc]

/-- The parameter for a placeholder has the name of the placeholder. -/
theorem name_placeholderParameter (declared : List Parameter) (name : String) :
    (placeholderParameter declared name).name = name := by
  unfold placeholderParameter
  split
  · rename_i p hp
    simpa using List.find?_some hp
  · rfl

/-- A node extends the path and the parameters above it. -/
theorem buildNode_eq_ok {ctx : BuildContext} {path uri : String} {parameters : List Parameter}
    {entries : List (Value × Value)} {node : Resource}
    (h : buildNode ctx path parameters uri entries = .ok node) :
    node.relativeUri = uri ∧ node.path = extendPath path uri ∧
      node.uriParameters.map (·.name) =
        parameters.map (·.name) ++ (placeholders uri.toList).map String.ofList := by
  have hbuilt := nodeBuilt_of_buildNode h
  obtain ⟨declared, -, hparameters⟩ := hbuilt.uriParameters
  refine ⟨hbuilt.relativeUri, hbuilt.path, ?_⟩
  simp [hparameters, name_placeholderParameter, Function.comp_def]

/-- A resource has the path and the names of the parameters that the relative URIs on the way to it
give. -/
theorem path_of_chainTo {ctx : BuildContext} {depth : Nat} {path : String}
    {parameters : List Parameter} {entries : List (Value × Value)} {rs : List Resource}
    {chain : List String} {r : Resource}
    (h : buildResources ctx depth path parameters entries = .ok rs) (hr : ChainTo rs chain r) :
    r.path = chain.foldl extendPath path ∧
      r.uriParameters.map (·.name) =
        parameters.map (·.name) ++
          chain.flatMap fun uri => (placeholders uri.toList).map String.ofList := by
  induction hr generalizing depth path parameters entries with
  | root hroot =>
    obtain ⟨_, _, _, _, _, hnode, -, rfl⟩ := exists_node_of_mem_buildResources h hroot
    obtain ⟨rfl, hpath, hnames⟩ := buildNode_eq_ok hnode
    exact ⟨hpath, by simpa using hnames⟩
  | under hroot _ ih =>
    obtain ⟨_, _, _, _, _, hnode, hbelow, rfl⟩ := exists_node_of_mem_buildResources h hroot
    obtain ⟨rfl, hpath, hnames⟩ := buildNode_eq_ok hnode
    obtain ⟨hpath', hnames'⟩ := ih hbelow
    rw [hpath', hnames', hpath, hnames]
    exact ⟨rfl, by simp⟩

/-- In a model that is built, a resource on a way of readable relative URIs has a path that can be
read, and parameters of the names in it. -/
theorem readUri_path {entries : List (Value × Value)} {api : Model}
    (h : buildModel entries = .ok api) {chain : List String} {r : Resource}
    (hr : ChainTo api.resources chain r) (hchain : ∀ uri ∈ chain, (readUri uri.toList).isSome) :
    ∃ ps, readUri r.path.toList = some ps ∧ holeNames ps = chainNames chain ∧
      r.uriParameters.map (·.name.toList) = holeNames ps := by
  obtain ⟨hpath, hparameters⟩ := path_of_chainTo (modelBuilt_of_buildModel h).resources hr
  have hempty : readUri "".toList = some [] := rfl
  obtain ⟨ps, hps, hnames⟩ := exists_readUri_foldl hchain hempty
  have hplaceholders : chain.flatMap (fun uri => placeholders uri.toList) = chainNames chain := by
    refine List.flatMap_congr fun uri huri => ?_
    obtain ⟨us, hus⟩ := Option.isSome_iff_exists.1 (hchain uri huri)
    obtain ⟨hwritten, hplain⟩ := readUri_eq_some_iff.1 hus
    rw [hus, hwritten, placeholders_written hplain]
    rfl
  refine ⟨ps, hpath ▸ hps, hnames, ?_⟩
  rw [hnames]
  have hlists := congrArg (List.map String.toList) hparameters
  simpa [List.map_flatMap, Function.comp_def, ← hplaceholders, holeNames] using hlists

end RamlClient.Api
