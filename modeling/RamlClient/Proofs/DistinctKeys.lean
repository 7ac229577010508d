import Mathlib.Data.List.Basic
import RamlClient.Api.Section
/-!
# Documents without repeated keys

A mapping has no key twice, and neither has a mapping that is merged from the mappings of a list. So
where all mappings in a value are such, the entries of every section are too, however deep the
section stands.
-/

namespace RamlClient.Value

/-- No two entries have the same key. -/
def KeysApart (entries : List (Value × Value)) : Prop :=
  entries.Pairwise fun a b => a.1.sameKey b.1 = false

/-- Only the text itself is the same key as a text. -/
theorem sameKey_text_iff {key : Value} {s : String} : key.sameKey (.text s) = true ↔
    key = .text s := by
  cases key with
  | text t => simp [sameKey, wholeNumber?]
  | float x => cases hx : (Decimal.Binary.ofFloat x).toInt? <;> simp [sameKey, wholeNumber?, hx]
  | _ => simp [sameKey, wholeNumber?]

instance (entries : List (Value × Value)) : Decidable (KeysApart entries) :=
  inferInstanceAs (Decidable (List.Pairwise _ entries))

/-- No mapping in a value has a key twice. -/
inductive KeysDistinct : Value → Prop where
  /-- A mapping is such if it has no key twice, and neither has a mapping in its values. -/
  | mapping {entries : List (Value × Value)} (hkeys : KeysApart entries)
    (hvalues : ∀ e ∈ entries, KeysDistinct e.2) : KeysDistinct (.mapping entries)
  /-- In a list, it depends on the items. -/
  | list {items : List Value} (hitems : ∀ v ∈ items, KeysDistinct v) : KeysDistinct (.list items)
  /-- A knot is such if its collection is. -/
  | knot (label : Label) {c : Value} (h : KeysDistinct c) : KeysDistinct (.knot label c)
  /-- A label stands for a collection that is looked at elsewhere. -/
  | again (label : Label) : KeysDistinct (.again label)
  /-- There are no mappings in sets. -/
  | set (members : List Value) : KeysDistinct (.set members)
  /-- There are no mappings in what can be a key. -/
  | key {v : Value} (h : v.isKey = true) : KeysDistinct v

namespace KeysDistinct

/-- The empty value has no keys. -/
@[simp] theorem null : KeysDistinct .null := .key rfl

/-- A text has no keys. -/
@[simp] theorem text (s : String) : KeysDistinct (.text s) := .key rfl

/-- The keys of a mapping are different if they are apart and those of the values are different. -/
@[simp] theorem mapping_iff {entries : List (Value × Value)} :
    KeysDistinct (.mapping entries) ↔ KeysApart entries ∧ ∀ e ∈ entries, KeysDistinct e.2 := by
  refine ⟨fun h => ?_, fun h => .mapping h.1 h.2⟩
  cases h with
  | mapping hkeys hvalues => exact ⟨hkeys, hvalues⟩
  | key h => cases h

/-- The keys of a list are different if those of its elements are. -/
@[simp] theorem list_iff {items : List Value} : KeysDistinct (.list items) ↔
    ∀ v ∈ items, KeysDistinct v := by
  refine ⟨fun h => ?_, .list⟩
  cases h with
  | list hitems => exact hitems
  | key h => cases h

/-! ### Knots -/

/-- Values are put in for a label element by element. -/
theorem plugItems_eq_map (label : Label) (whole : Value) (items : List Value) :
    plugItems label whole items = items.map (plug label whole) := by
  induction items with
  | nil => rfl
  | cons v rest ih => rw [plugItems, ih, List.map_cons]

/-- Values are put in for a label entry by entry. -/
theorem plugEntries_eq_map (label : Label) (whole : Value) (entries : List (Value × Value)) :
    plugEntries label whole entries = entries.map fun e => (e.1, plug label whole e.2) := by
  induction entries with
  | nil => rfl
  | cons e rest ih => rw [plugEntries, ih, List.map_cons]

/-- What is put in the place of a label does not change the keys around it. -/
theorem plug {label : Label} {whole v : Value} (hwhole : whole.KeysDistinct) (hv : v.KeysDistinct) :
    (Value.plug label whole v).KeysDistinct := by
  induction hv with
  | @mapping entries hkeys _ ih =>
    rw [Value.plug, plugEntries_eq_map]
    exact .mapping (List.pairwise_map.2 hkeys) (List.forall_mem_map.2 ih)
  | list _ ih =>
    rw [Value.plug, plugItems_eq_map]
    exact .list (List.forall_mem_map.2 ih)
  | knot l h ih =>
    rw [Value.plug]
    split
    · exact .knot l h
    · exact .knot l ih
  | again l =>
    rw [Value.plug]
    split
    · exact hwhole
    · exact .again l
  | set members => exact .set members
  | @key v h =>
    cases v with
    | set _ => cases h
    | list _ => cases h
    | mapping _ => cases h
    | knot _ _ => cases h
    | again _ => cases h
    | _ => exact .key rfl

/-- An opened value has different keys. -/
theorem opened {v : Value} (h : v.KeysDistinct) : v.opened.KeysDistinct := by
  cases h with
  | knot l h => exact plug (.knot l h) h
  | key h =>
    cases v with
    | knot _ _ => cases h
    | _ => exact .key h
  | mapping hkeys hvalues => exact .mapping hkeys hvalues
  | list hitems => exact .list hitems
  | again l => exact .again l
  | set members => exact .set members

/-! ### Merged mappings -/

/-- An entry after an insertion is the new one or was there before. -/
theorem mem_insertEntry {entries : List (Value × Value)} {key value : Value} {e : Value × Value}
    (he : e ∈ insertEntry entries key value) :
    (e.1 = key ∨ ∃ old ∈ entries, e.1 = old.1) ∧ (e.2 = value ∨ e ∈ entries) := by
  induction entries with
  | nil =>
    obtain rfl := List.mem_singleton.1 he
    exact ⟨.inl rfl, .inl rfl⟩
  | cons first rest ih =>
    rw [insertEntry] at he
    split at he
    · rcases List.mem_cons.1 he with rfl | he
      · exact ⟨.inr ⟨first, List.mem_cons_self, rfl⟩, .inl rfl⟩
      · exact ⟨.inr ⟨e, List.mem_cons_of_mem _ he, rfl⟩, .inr (List.mem_cons_of_mem _ he)⟩
    · rcases List.mem_cons.1 he with rfl | he
      · exact ⟨.inr ⟨_, List.mem_cons_self, rfl⟩, .inr List.mem_cons_self⟩
      · obtain ⟨hkey, hvalue⟩ := ih he
        exact ⟨hkey.imp_right fun ⟨old, hold, h⟩ => ⟨old, List.mem_cons_of_mem _ hold, h⟩,
          hvalue.imp_right (List.mem_cons_of_mem _)⟩

/-- An insertion keeps keys apart. -/
theorem keysApart_insertEntry {entries : List (Value × Value)} (h : KeysApart entries)
    (key value : Value) :
    KeysApart (insertEntry entries key value) := by
  induction entries with
  | nil => exact List.pairwise_singleton _ _
  | cons first rest ih =>
    obtain ⟨hfirst, hrest⟩ := List.pairwise_cons.1 h
    rw [insertEntry]
    split
    · exact List.pairwise_cons.2 ⟨hfirst, hrest⟩
    · rename_i hkey
      refine List.pairwise_cons.2 ⟨fun e he => ?_, ih hrest⟩
      obtain hnew | ⟨old, hold, heq⟩ := (mem_insertEntry he).1
      · rw [hnew]
        exact Bool.not_eq_true _ ▸ hkey
      · rw [heq]
        exact hfirst old hold

/-- Entries that are merged have no key twice, even if the later ones repeat keys. -/
theorem mergeEntries {entries more : List (Value × Value)} (h : KeysDistinct (.mapping entries))
    (hmore : ∀ e ∈ more, KeysDistinct e.2) :
    KeysDistinct (.mapping (mergeEntries entries more)) := by
  induction more generalizing entries with
  | nil => exact h
  | cons e rest ih =>
    obtain ⟨he, hrest⟩ := List.forall_mem_cons.1 hmore
    obtain ⟨hkeys, hvalues⟩ := mapping_iff.1 h
    refine ih (.mapping (keysApart_insertEntry hkeys e.1 e.2) fun d hd => ?_) hrest
    obtain hnew | hold := (mem_insertEntry hd).2
    · exact hnew ▸ he
    · exact hvalues d hold

/-- Merged entries have different keys. -/
theorem mergedEntries? {items : List Value} {entries merged : List (Value × Value)}
    (h : KeysDistinct (.mapping entries)) (hitems : ∀ v ∈ items, KeysDistinct v)
    (hmerged : Api.mergedEntries? entries items = some merged) :
    KeysDistinct (.mapping merged) := by
  induction items generalizing entries with
  | nil =>
    obtain rfl := Option.some.inj hmerged
    exact h
  | cons v rest ih =>
    obtain ⟨hv, hrest⟩ := List.forall_mem_cons.1 hitems
    rw [Api.mergedEntries?] at hmerged
    split at hmerged
    · rename_i more hmore
      have hmoreDistinct := hv.opened
      rw [hmore] at hmoreDistinct
      exact ih (h.mergeEntries (mapping_iff.1 hmoreDistinct).2) hrest hmerged
    · cases hmerged

/-- The entries of a section have no key twice, and neither has any mapping in them. -/
theorem sectionEntries {what : String} {v : Value} {entries : List (Value × Value)}
    (h : v.KeysDistinct) (hentries : Api.sectionEntries what v = .ok entries) :
    KeysDistinct (.mapping entries) := by
  have hopened := h.opened
  unfold Api.sectionEntries at hentries
  split at hentries
  · cases hentries
    exact .mapping .nil nofun
  · rename_i heq
    cases hentries
    exact heq ▸ hopened
  · rename_i items heq
    rw [heq] at hopened
    split at hentries
    · rename_i merged hmerged
      cases hentries
      exact mergedEntries? (.mapping .nil nofun) (list_iff.1 hopened) hmerged
    · cases hentries
  · cases hentries

end KeysDistinct

end RamlClient.Value
