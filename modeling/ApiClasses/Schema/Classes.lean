import ApiClasses.Identifier
import ApiClasses.Schema.Arena

/-!
# Schemas that become classes

A schema that carries a usable name has a class of its own under that name. An
object without one becomes a class inside the class that refers to it, unless it
declares no property and only says what its values are: that is a map.

A field of a class type holds the class by value, so chains of such fields
matter: one that leads back to where it started would be infinitely large.
-/

namespace ApiClasses

/-! ## By value -/

namespace Schema

variable {arena : Arena}

/-- The class name that a schema's own name gives. -/
def className? (schema : Schema arena) : Option String :=
  schema.name.bind Identifier.forClass?

/-- Does a field of this schema hold a class by value? It does for an object that
has a class name of its own, or declares a property, or says nothing about
other keys. -/
def isByValue (schema : Schema arena) : Bool :=
  match schema.shape with
  | .object properties additional =>
    schema.className?.isSome || !properties.isEmpty || additional.isNone
  | _ => false

/-- The schemas of the properties that are held by value. -/
def byValueProperties (schema : Schema arena) : List (Schema arena) :=
  (schema.properties.map (·.2)).filter (·.isByValue)

end Schema

/-! ## Chains -/

/-- The number of properties in the whole arena. -/
def Arena.propertyCount (arena : Arena) : Nat :=
  arena.nodes.toList.foldr (fun node count => node.shape.properties.length + count) 0

/-- Looks for a schema among those on the stack and everything they lead to.
Every schema is opened once, so every property puts one entry on the stack at
most, and every step takes one entry off. -/
def search {arena : Arena} (goal : NodeId) :
    (steps : Nat) → (opened : List NodeId) → (stack : List (Schema arena)) → Bool
  | 0, _, _ => false
  | _, _, [] => false
  | steps + 1, opened, schema :: rest =>
    if schema.id == goal then true
    else if opened.contains schema.id then search goal steps opened rest
    else search goal steps (schema.id :: opened) (schema.byValueProperties ++ rest)

/-- Does a chain of properties held by value lead from the schema to the goal? -/
def Schema.leadsTo {arena : Arena} (schema : Schema arena) (goal : NodeId) : Bool :=
  search goal (arena.propertyCount + 1) [] [schema]

end ApiClasses
