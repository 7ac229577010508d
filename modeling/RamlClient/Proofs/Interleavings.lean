import RamlClient.Proofs.Edits
/-!
# Work on two files of a package

Two files of a package share the registry of identifiers. If the names that are claimed in the two
files differ, then the steps on them can be interleaved in any way: each is answered as if the other
file was left alone, and the same package is built.
-/

namespace RamlClient.Go

/-- Steps on two files in one row, those on each file in their own order. -/
inductive Interleaving (a b : String) : List Edit → List Edit → List (String × Edit) → Prop where
  /-- No steps. -/
  | nil : Interleaving a b [] [] []
  /-- The next step is on the first file. -/
  | left (e : Edit) {P Q : List Edit} {R : List (String × Edit)} :
    Interleaving a b P Q R → Interleaving a b (e :: P) Q ((a, e) :: R)
  /-- The next step is on the second file. -/
  | right (e : Edit) {P Q : List Edit} {R : List (String × Edit)} :
    Interleaving a b P Q R → Interleaving a b P (e :: Q) ((b, e) :: R)

/-! ### Two files side by side -/

/-- The last package has the first file and the names of the second package and the second file and
the names of the third one, which both come from one package. -/
structure Merged (p : Package) (a b : String) (pa pb r : Package) : Prop where
  /-- The first file. -/
  left : r.file? a = pa.file? a
  /-- The second file. -/
  right : r.file? b = pb.file? b
  /-- All other files are left alone. -/
  other : ∀ c, c ≠ a → c ≠ b → r.file? c = p.file? c
  /-- The first file is there. -/
  isSome_left : (pa.file? a).isSome
  /-- The second file is there. -/
  isSome_right : (pb.file? b).isSome
  /-- Every name is left alone on one side at least, and is what the other side says. -/
  entry : ∀ n, (r.entryOf? n = pa.entryOf? n ∧ pb.entryOf? n = p.entryOf? n) ∨
    (r.entryOf? n = pb.entryOf? n ∧ pa.entryOf? n = p.entryOf? n)
  /-- Only free names are claimed for the first file. -/
  free_left : ∀ n, pa.entryOf? n ≠ p.entryOf? n → ∀ e, p.isFree n e = true
  /-- Only free names are claimed for the second file. -/
  free_right : ∀ n, pb.entryOf? n ≠ p.entryOf? n → ∀ e, p.isFree n e = true

namespace Merged

variable {p pa pb r : Package} {a b : String}

/-- A package is merged from itself. -/
theorem refl (ha : (p.file? a).isSome) (hb : (p.file? b).isSome) : Merged p a b p p p where
  left := rfl
  right := rfl
  other := fun _ _ _ => rfl
  isSome_left := ha
  isSome_right := hb
  entry := fun _ => .inl ⟨rfl, rfl⟩
  free_left := fun _ h => absurd rfl h
  free_right := fun _ h => absurd rfl h

/-- The two sides of a merged package can be exchanged. -/
theorem symm (h : Merged p a b pa pb r) : Merged p b a pb pa r where
  left := h.right
  right := h.left
  other := fun c hb ha => h.other c ha hb
  isSome_left := h.isSome_right
  isSome_right := h.isSome_left
  entry := fun n => (h.entry n).symm
  free_left := h.free_right
  free_right := h.free_left

/-- A step on the first file that claims no name of the second one is answered as if that was not
there. -/
theorem effect_left (h : Merged p a b pa pb r) {e : Edit}
    (hclaims : ∀ n ∈ (e.effect pa a).claims, pb.entryOf? n = p.entryOf? n) :
    e.effect r a = e.effect pa a := by
  apply Edit.effect_congr h.left
  intro d he hany
  have hsame (hentry : r.entryOf? d.name = pa.entryOf? d.name) :
      r.isFree d.name (.defined (d.site a)) = pa.isFree d.name (.defined (d.site a)) := by
    simp only [Package.isFree, hentry]
  rcases h.entry d.name with ⟨hentry, -⟩ | ⟨hentry, hpa⟩
  · exact hsame hentry
  · by_cases hpb : pb.entryOf? d.name = p.entryOf? d.name
    · exact hsame (hentry.trans (hpb.trans hpa.symm))
    · -- the second file has claimed the name, so it was free, and the step would claim it as well
      have hfree : pa.isFree d.name (.defined (d.site a)) = true := by
        have hp := h.free_right d.name hpb (.defined (d.site a))
        simp only [Package.isFree] at hp ⊢
        rwa [hpa]
      exact absurd (hclaims d.name (Edit.mem_claims_of_isFree he hany hfree)) hpb

/-- A step on the first file goes on from packages side by side. -/
theorem step_left (h : Merged p a b pa pb r) (hab : a ≠ b) {e : Edit}
    (hclaims : ∀ n ∈ (e.effect pa a).claims, pb.entryOf? n = p.entryOf? n) :
    Merged p a b (e.run pa a).1 pb (e.run r a).1 ∧ (e.run r a).2 = (e.run pa a).2 := by
  obtain ⟨f, hf⟩ := Option.isSome_iff_exists.1 h.isSome_left
  have heffect := h.effect_left hclaims
  rw [Edit.run_eq hf, Edit.run_eq (h.left.trans hf), heffect]
  refine ⟨⟨?_, ?_, ?_, ?_, h.isSome_right, ?_, ?_, h.free_right⟩, rfl⟩
  · exact Package.file?_withEffect_congr h.left _
  · rw [Package.file?_withEffect_of_ne _ hab.symm, h.right]
  · intro c hca hcb
    rw [Package.file?_withEffect_of_ne _ hca, h.other c hca hcb]
  · rw [Package.isSome_file?_withEffect, h.isSome_left]
  · intro n
    by_cases hn : n ∈ (e.effect pa a).claims
    · exact .inl ⟨Package.entryOf?_withEffect_congr hn, hclaims n hn⟩
    · rw [Package.entryOf?_withEffect_of_notMem hn, Package.entryOf?_withEffect_of_notMem hn]
      exact h.entry n
  · intro n hne other
    by_cases hn : n ∈ (e.effect pa a).claims
    · by_cases hpa : pa.entryOf? n = p.entryOf? n
      · obtain ⟨d, -, hfree, hentry⟩ := Edit.isFree_of_mem_claims hn
        rw [hentry, ← hpa] at hne
        unfold Package.isFree at hfree ⊢
        rw [← hpa]
        split at hfree
        · rfl
        · rfl
        · rename_i he
          rw [he, beq_iff_eq.1 hfree] at hne
          exact absurd rfl hne
      · exact h.free_left n hpa other
    · rw [Package.entryOf?_withEffect_of_notMem hn] at hne
      exact h.free_left n hne other

/-- The names that one side has still to claim are left alone by the other side, so far and from now
on. -/
structure Apart (p : Package) (a b : String) (pa pb : Package) (P Q : List Edit) : Prop where
  /-- What is claimed for the first file has not been claimed for the second one. -/
  left : ∀ n ∈ pa.claimed (on a P), pb.entryOf? n = p.entryOf? n
  /-- What is claimed for the second file has not been claimed for the first one. -/
  right : ∀ n ∈ pb.claimed (on b Q), pa.entryOf? n = p.entryOf? n
  /-- No name is claimed for both. -/
  disjoint : ∀ n ∈ pa.claimed (on a P), n ∉ pb.claimed (on b Q)

namespace Apart

variable {P Q : List Edit} {e : Edit}

/-- Steps that are apart are apart the other way round. -/
theorem symm (h : Apart p a b pa pb P Q) : Apart p b a pb pa Q P where
  left := h.right
  right := h.left
  disjoint := fun n hb ha => h.disjoint n ha hb

/-- The names that the next step on the one side claims are new on the other side. -/
theorem claims_left (h : Apart p a b pa pb (e :: P) Q) :
    ∀ n ∈ (e.effect pa a).claims, pb.entryOf? n = p.entryOf? n :=
  fun n hn => h.left n (List.mem_append_left _ hn)

/-- The rest of the steps on the one side is apart from those on the other side. -/
theorem step_left (h : Apart p a b pa pb (e :: P) Q) (ha : (pa.file? a).isSome) :
    Apart p a b (e.run pa a).1 pb P Q where
  left := fun n hn => h.left n (List.mem_append_right _ hn)
  right := by
    intro n hn
    obtain ⟨f, hf⟩ := Option.isSome_iff_exists.1 ha
    have hnot : n ∉ (e.effect pa a).claims := fun hclaims =>
      h.disjoint n (List.mem_append_left _ hclaims) hn
    rw [Edit.run_eq hf, Package.entryOf?_withEffect_of_notMem hnot]
    exact h.right n hn
  disjoint := fun n hn => h.disjoint n (List.mem_append_right _ hn)

end Apart

/-- Two rows of steps go on from packages side by side, however they are interleaved. -/
theorem interleaving (hab : a ≠ b) {P Q : List Edit} {R : List (String × Edit)}
    (hR : Interleaving a b P Q R) (h : Merged p a b pa pb r) (hapart : Apart p a b pa pb P Q) :
    Merged p a b (pa.edited (on a P)) (pb.edited (on b Q)) (r.edited R) ∧
    (r.outcomes R).filter (·.1 == a) = pa.outcomes (on a P) ∧
    (r.outcomes R).filter (·.1 == b) = pb.outcomes (on b Q) := by
  induction hR generalizing pa pb r with
  | nil => exact ⟨h, rfl, rfl⟩
  | left e _ ih =>
    obtain ⟨hstep, hout⟩ := h.step_left hab hapart.claims_left
    obtain ⟨hmerged, hleft, hright⟩ := ih hstep (hapart.step_left h.isSome_left)
    refine ⟨hmerged, ?_, ?_⟩
    · rw [Package.outcomes, List.filter_cons_of_pos (by simp), hleft, hout]
      rfl
    · rw [Package.outcomes, List.filter_cons_of_neg (by simpa using hab), hright]
  | right e _ ih =>
    obtain ⟨hstep, hout⟩ := h.symm.step_left hab.symm hapart.symm.claims_left
    obtain ⟨hmerged, hleft, hright⟩ := ih hstep.symm (hapart.symm.step_left h.isSome_right).symm
    refine ⟨hmerged, ?_, ?_⟩
    · rw [Package.outcomes, List.filter_cons_of_neg (by simpa using hab.symm), hleft]
    · rw [Package.outcomes, List.filter_cons_of_pos (by simp), hright, hout]
      rfl

/-- What comes from the same two packages holds the same files. -/
theorem file?_eq {r' : Package} (h : Merged p a b pa pb r) (h' : Merged p a b pa pb r')
    (c : String) :
    r'.file? c = r.file? c := by
  by_cases hca : c = a
  · rw [hca, h'.left, h.left]
  · by_cases hcb : c = b
    · rw [hcb, h'.right, h.right]
    · rw [h'.other c hca hcb, h.other c hca hcb]

/-- What comes from the same two packages knows the same names. -/
theorem entryOf?_eq {r' : Package} (h : Merged p a b pa pb r) (h' : Merged p a b pa pb r')
    (n : String) :
    r'.entryOf? n = r.entryOf? n := by
  rcases h.entry n with ⟨hr, hpb⟩ | ⟨hr, hpa⟩ <;> rcases h'.entry n with ⟨hr', hpb'⟩ | ⟨hr', hpa'⟩
  · rw [hr', hr]
  · rw [hr', hpb, hr, hpa']
  · rw [hr', hpa, hr, hpb']
  · rw [hr', hr]

end Merged

/-- A look-up reads the entry of the name and the files. -/
theorem Package.lookup_congr {p q : Package} (hfile : ∀ c, q.file? c = p.file? c) {n : String}
    (hentry : q.entryOf? n = p.entryOf? n) : q.lookup n = p.lookup n := by
  simp only [lookup, hentry, definitionAt?, hfile]

/-! ### Work on two files -/

/-- Steps on two files that claim different names can be interleaved in any way. Each is refused
exactly if it is refused without the steps on the other file, both files become what they become
without each other, and all interleavings, also those that add their imports in another order or
more often, hold the same files and know the same names. -/
theorem interleavings_agree {p : Package} {a b : String} (hab : a ≠ b) (ha : (p.file? a).isSome)
    (hb : (p.file? b).isSome) {P Q : List Edit}
    (hclaims : ∀ n ∈ p.claimed (on a P), n ∉ p.claimed (on b Q)) {R : List (String × Edit)}
    (hR : Interleaving a b P Q R) :
    (p.outcomes R).filter (·.1 == a) = p.outcomes (on a P) ∧
    (p.outcomes R).filter (·.1 == b) = p.outcomes (on b Q) ∧
    (p.edited R).file? a = (p.edited (on a P)).file? a ∧
    (p.edited R).file? b = (p.edited (on b Q)).file? b ∧
    (∀ c, c ≠ a → c ≠ b → (p.edited R).file? c = p.file? c) ∧
    ∀ P' Q' R', SameUpToImports P' P → SameUpToImports Q' Q → Interleaving a b P' Q' R' →
      (∀ c, (p.edited R').file? c = (p.edited R).file? c) ∧
      (∀ n, (p.edited R').lookup n = (p.edited R).lookup n ∧
        (p.edited R').isDeclared n = (p.edited R).isDeclared n) ∧
      ∀ package c, ((p.edited R').file? c).map (·.text package) =
        ((p.edited R).file? c).map (·.text package) := by
  have hrefl : Merged p a b p p p := .refl ha hb
  have hapart {P' Q' : List Edit} (hP : p.claimed (on a P') = p.claimed (on a P))
      (hQ : p.claimed (on b Q') = p.claimed (on b Q)) : Merged.Apart p a b p p P' Q' :=
    ⟨fun _ _ => rfl, fun _ _ => rfl, by rwa [hP, hQ]⟩
  obtain ⟨hmerged, hleft, hright⟩ := hrefl.interleaving hab hR (hapart rfl rfl)
  refine ⟨hleft, hright, hmerged.left, hmerged.right, hmerged.other, ?_⟩
  intro P' Q' R' hP hQ hR'
  obtain ⟨heditedP, hclaimedP⟩ := hP.edited ha
  obtain ⟨heditedQ, hclaimedQ⟩ := hQ.edited hb
  obtain ⟨hmerged', -, -⟩ := hrefl.interleaving hab hR' (hapart hclaimedP hclaimedQ)
  rw [heditedP, heditedQ] at hmerged'
  have hfile := hmerged.file?_eq hmerged'
  have hentry := hmerged.entryOf?_eq hmerged'
  refine ⟨hfile, fun n => ⟨Package.lookup_congr hfile (hentry n), ?_⟩, fun package c => by
    rw [hfile]⟩
  rw [Package.isDeclared, Package.isDeclared, hentry]

/-- A package with two files and a reserved name. -/
def twoFiles : Package :=
  ⟨[(File.empty "models.go").add (.struct ⟨"User", []⟩), File.empty "endpoints.go"], [],
    [("Client", .reserved), ("User", .defined ⟨"models.go", .struct, "User"⟩)]⟩

/-- Steps on the models. -/
def modelEdits : List Edit :=
  [.addImports ["time"], .struct "User", .addField "User" ⟨"ID", "string", none⟩, .struct "Client",
    .typeDef "Users" "[]User"]

/-- Steps on the endpoints. -/
def endpointEdits : List Edit :=
  [.func "Client", .func "GetUsers", .setReceiver "GetUsers" "c *Client",
    .addReturn "GetUsers" "error", .addImports ["net/http", "fmt"], .func "User",
    .write "GetUsers" "\treturn nil"]

/-- Steps on both. -/
def bothEdits : List (String × Edit) :=
  [("endpoints.go", .func "Client"), ("models.go", .addImports ["time"]),
    ("models.go", .struct "User"), ("endpoints.go", .func "GetUsers"),
    ("endpoints.go", .setReceiver "GetUsers" "c *Client"),
    ("models.go", .addField "User" ⟨"ID", "string", none⟩), ("models.go", .struct "Client"),
    ("endpoints.go", .addReturn "GetUsers" "error"),
    ("endpoints.go", .addImports ["net/http", "fmt"]), ("endpoints.go", .func "User"),
    ("models.go", .typeDef "Users" "[]User"), ("endpoints.go", .write "GetUsers" "\treturn nil")]

/-- A name that is taken is refused to both files, however their steps are interleaved. -/
theorem interleavings_agree_twoFiles :
    Interleaving "models.go" "endpoints.go" modelEdits endpointEdits bothEdits ∧
    (twoFiles.outcomes bothEdits).filter (·.1 == "models.go") =
      [("models.go", .ok ()), ("models.go", .ok ()), ("models.go", .ok ()),
        ("models.go", .error (.duplicateIdentifier "Client")), ("models.go", .ok ())] ∧
    (twoFiles.edited bothEdits).file? "endpoints.go" =
      (twoFiles.edited (on "endpoints.go" endpointEdits)).file? "endpoints.go" ∧
    (twoFiles.edited (on "models.go" modelEdits ++ on "endpoints.go" endpointEdits)).lookup
      "Users" = (twoFiles.edited bothEdits).lookup "Users" := by
  have hboth : Interleaving "models.go" "endpoints.go" modelEdits endpointEdits bothEdits :=
    .right _ <| .left _ <| .left _ <| .right _ <| .right _ <| .left _ <| .left _ <| .right _ <|
      .right _ <| .right _ <| .left _ <| .right _ .nil
  have hrow : Interleaving "models.go" "endpoints.go" modelEdits endpointEdits
      (on "models.go" modelEdits ++ on "endpoints.go" endpointEdits) :=
    .left _ <| .left _ <| .left _ <| .left _ <| .left _ <| .right _ <| .right _ <| .right _ <|
      .right _ <| .right _ <| .right _ <| .right _ .nil
  have hclaims : ∀ n ∈ twoFiles.claimed (on "models.go" modelEdits),
      n ∉ twoFiles.claimed (on "endpoints.go" endpointEdits) := by decide +kernel
  obtain ⟨hleft, -, -, hright, -, hagree⟩ :=
    interleavings_agree (by decide) (by decide +kernel) (by decide +kernel) hclaims hboth
  obtain ⟨-, hknows, -⟩ := hagree modelEdits endpointEdits _ ⟨rfl, fun _ => Iff.rfl⟩
    ⟨rfl, fun _ => Iff.rfl⟩ hrow
  exact ⟨hboth, hleft.trans rfl, hright, (hknows "Users").1⟩

end RamlClient.Go
