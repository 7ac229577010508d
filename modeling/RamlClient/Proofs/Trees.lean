import RamlClient.Yaml.Loading
/-!
# Texts as trees

A YAML text may be a tree in which inclusions are leaves that carry paths. A reader that reads texts
as trees asks for the files that a text includes, and puts their contents in the places of the
inclusions.
-/

namespace RamlClient.Yaml

/-- What a text says, with a collection written out wherever it stands. -/
inductive Tree where
  /-- A value. -/
  | value (v : Value)
  /-- The content of the file that a path leads to. -/
  | inclusion (path : String)
  /-- A list. -/
  | list (items : List Tree)
  /-- A list of pairs. -/
  | pairs (ps : List (Tree × Tree))
  /-- A mapping; a later entry of a key replaces the value of an earlier one. -/
  | mapping (entries : List (Value × Tree))
  /-- A set, by the entries of which it has the keys. -/
  | set (entries : List (Value × Tree))

namespace Tree

variable (content : String → Value)

mutual
/-- The value of a tree, with contents in the places of the inclusions. -/
def fill : Tree → Value
  | .value v => v
  | .inclusion path => content path
  | .list items => .list (fillItems items)
  | .pairs ps => .list (fillPairs ps)
  | .mapping entries => .ofEntries (fillEntries entries)
  | .set entries =>
    .ofMembers ((Value.mergeEntries [] (entries.map fun e => (e.1, .null))).map (·.1))
termination_by structural t => t

/-- The values of trees. -/
def fillItems : List Tree → List Value
  | [] => []
  | t :: r => fill t :: fillItems r
termination_by structural ts => ts

/-- The values of pairs of trees. -/
def fillPairs : List (Tree × Tree) → List Value
  | [] => []
  | (a, b) :: r => .pair (fill a) (fill b) :: fillPairs r
termination_by structural ps => ps

/-- The entries with the values of their trees. -/
def fillEntries : List (Value × Tree) → List (Value × Value)
  | [] => []
  | (k, t) :: r => (k, fill t) :: fillEntries r
termination_by structural es => es
end

/-- Trees are filled one by one. -/
theorem fillItems_eq_map (items : List Tree) :
    fillItems content items = items.map (fill content) := by
  induction items with
  | nil => rfl
  | cons t r ih => rw [fillItems, ih, List.map_cons]

/-- Pairs of trees are filled one by one. -/
theorem fillPairs_eq_map (pairs : List (Tree × Tree)) :
    fillPairs content pairs = pairs.map fun p => .pair (fill content p.1) (fill content p.2) := by
  induction pairs with
  | nil => rfl
  | cons p r ih => rw [fillPairs, ih, List.map_cons]

/-- Entries are filled one by one. -/
theorem fillEntries_eq_map (entries : List (Value × Tree)) :
    fillEntries content entries = entries.map fun e => (e.1, fill content e.2) := by
  induction entries with
  | nil => rfl
  | cons e r ih => rw [fillEntries, ih, List.map_cons]

end Tree

/-- A reader reads texts as trees, given the paths that texts include and the trees that some texts
are. -/
structure ReadsTrees (yaml : Reader) (inclusions : String → List String)
    (tree? : String → Option Tree) : Prop where
  /-- Loading a text asks only for files that the text includes. -/
  asks {file : Nat} {text path : String} (h : (yaml file text).Asks path) : path ∈ inclusions text
  /-- A text that is a tree has the contents of the included files in the places of its
  inclusions. -/
  gives {file : Nat} {text : String} {tree : Tree} (h : tree? text = some tree)
    (content : String → Value) :
    (yaml file text).Gives content (tree.fill content)

end RamlClient.Yaml
