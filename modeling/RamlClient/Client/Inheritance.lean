import RamlClient.Api.Model
import RamlClient.Chain
/-!
# Inheritance between declared types

A declared type inherits from those of its supertypes that are declared, and through them from
theirs. The lineage of a type lists all declarations on the way, depth first and each before its
supertypes. It ends where a type inherits from itself, with the chain of names that leads back.
-/

namespace RamlClient.Client

open Api

/-- A bound for the length of the way from a declaration: the number of declared types whose names
are not on a chain, and one more for a declaration of no declared name. -/
def remaining (api : Model) (chain : List String) (name : String) : Nat :=
  api.types.countP (fun d => decide (d.name ∉ chain)) +
    if (api.findType? name).isSome then 0 else 1

/-- A type that is found has the name. -/
theorem name_of_findType? {api : Model} {name : String} {d : TypeDeclaration}
    (h : api.findType? name = some d) : d.name = name := by
  have := List.find?_some h
  simpa using this

/-- A step from a declaration to a declared supertype shortens the way. -/
theorem remaining_lt {api : Model} {chain : List String} {current parent : TypeDeclaration}
    {supertype : String} (hnew : current.name ∉ chain)
    (hparent : api.findType? supertype = some parent) :
    remaining api (chain ++ [current.name]) parent.name < remaining api chain current.name := by
  have hp : (api.findType? parent.name).isSome := by
    rw [name_of_findType? hparent, hparent]
    rfl
  have hsplit := countP_off_chain TypeDeclaration.name api.types hnew
  unfold remaining
  rw [if_pos hp]
  split
  · rename_i hd
    obtain ⟨d, hd⟩ := Option.isSome_iff_exists.1 hd
    have hpos : 0 < api.types.countP (fun e => decide (e.name = current.name)) :=
      List.countP_pos_iff.2 ⟨d, List.mem_of_find?_eq_some hd, by simpa using name_of_findType? hd⟩
    omega
  · omega

mutual
/-- The lineage of a declaration, and the chain that leads back to itself if there is one. `chain`
holds the names on the way to the declaration. -/
def lineageFrom (api : Model) (chain : List String) (current : TypeDeclaration) :
    List TypeDeclaration × Option (List String) :=
  if hnew : current.name ∈ chain then ([], some (chain ++ [current.name]))
  else
    let rest := lineageOfAll api chain current hnew current.supertypes
    (current :: rest.1, rest.2)
termination_by (remaining api chain current.name, 1, 0)

/-- The lineages of the declared ones among the supertypes of a declaration, one after another. -/
def lineageOfAll (api : Model) (chain : List String) (current : TypeDeclaration)
    (hnew : current.name ∉ chain) (supertypes : List String) :
    List TypeDeclaration × Option (List String) :=
  match supertypes with
  | [] => ([], none)
  | supertype :: rest =>
    match h : api.findType? supertype with
    | none => lineageOfAll api chain current hnew rest
    | some parent =>
      have := remaining_lt hnew h
      match lineageFrom api (chain ++ [current.name]) parent with
      | (visited, some cycle) => (visited, some cycle)
      | (visited, none) =>
        let others := lineageOfAll api chain current hnew rest
        (visited ++ others.1, others.2)
termination_by (remaining api chain current.name, 0, supertypes.length)
end

/-- The lineage of a declaration. -/
def lineage (api : Model) (d : TypeDeclaration) : List TypeDeclaration × Option (List String) :=
  lineageFrom api [] d

/-- Whether a declaration describes an object by itself. -/
def isObjectByItself (d : TypeDeclaration) : Bool :=
  !d.properties.isEmpty || d.supertypes.contains "object"

/-- Whether a declaration describes an object, by itself or through what it inherits from. -/
def isObjectType (api : Model) (d : TypeDeclaration) : Except Error Bool :=
  let (visited, cycle) := lineage api d
  if visited.any isObjectByItself then .ok true
  else match cycle with
    | some chain => .error (.model (.inheritanceCycle chain))
    | none => .ok false

end RamlClient.Client
