import ApiClasses.Decoration.FieldType
import ApiClasses.Text.Blank

/-!
# Fields for properties

One field for every property of an object. The field's name is the member name
for the property's, made different from every member that is there already; the
property's own name goes along wherever the field's name does not tell it.

A field that would make its class contain itself by value is boxed.
-/

namespace ApiClasses

variable {arena : Arena}

/-! ## Names -/

/-- The base with the numbers from two on. -/
def numberedNames (base : String) (count : Nat) : List String :=
  (List.range' 2 count).map fun n => base ++ "_" ++ toString n

/-- A member name that the class does not have yet: the base itself, or the base
with the first number that is free. Of one more candidate than there are
members, one is free. -/
def freeMemberName (c : ClassDecl) (base : String) : String :=
  if c.declares base then
    ((numberedNames base (c.members.length + 1)).find? (!c.declares ·)).getD base
  else base

/-! ## Fields -/

/-- The type of the field for a property: boxed, if the class of `owner` would
contain itself otherwise. -/
def propertyType (owner property : Schema arena) : Decoration arena TypeRef := do
  let type ← property.type
  return if property.isByValue && property.leadsTo owner.id then .boxed type else type

/-- The field of a type for a property, under a name that the class does not have. -/
def propertyField (c : ClassDecl) (property : String × Schema arena) (type : TypeRef) :
    ClassField :=
  let name := freeMemberName c (Identifier.forMember property.1)
  { name
    type
    wireName := if Identifier.unmarked name == property.1 then none else some property.1
    doc := property.2.description.map trim }

/-- Adds the field for a property. -/
def addProperty (owner : Schema arena) (c : ClassDecl) (property : String × Schema arena) :
    Decoration arena ClassDecl := do
  let type ← propertyType owner property.2
  return c.addField (propertyField c property type)

/-- Adds the fields for all properties. -/
def addProperties (schema : Schema arena) (c : ClassDecl) : Decoration arena ClassDecl :=
  schema.properties.foldlM (addProperty schema) c

/-- Adds the fields, to classes of every level. -/
def Decorator.fields : Decorator :=
  .everywhere "PropertyDecorator" addProperties

end ApiClasses
