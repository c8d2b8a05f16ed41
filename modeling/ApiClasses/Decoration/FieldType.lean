import ApiClasses.Decoration
import ApiClasses.Schema.Classes

/-!
# Types of fields

The type that stands for a schema: a built-in one for plain values and
containers, a class for objects. A named object is its own class; any other
object is asked for as a class inside the current one, unless it is a mere map.

Containers are unwrapped down to what they hold. Schemas may form cycles, so a
container that holds itself is cut off where it comes up again; with as many
containers open as the arena has schemas, the next one must be such a one.
-/

namespace ApiClasses

variable {arena : Arena}

/-! ## Built-in types -/

namespace TypeRef

/-- Any value. -/
def untyped : TypeRef := ⟨"serde_json::Value", []⟩

/-- A list of values of a type. -/
def list (item : TypeRef) : TypeRef := ⟨"Vec", [item]⟩

/-- A map from texts to values of a type. -/
def map (value : TypeRef) : TypeRef := ⟨"HashMap", [⟨"String", []⟩, value]⟩

/-- A value of a type, if there is one, kept elsewhere. -/
def boxed (type : TypeRef) : TypeRef := ⟨"Option", [⟨"Box", [type]⟩]⟩

end TypeRef

/-! ## The type of a schema -/

/-- The type of a schema inside some open containers. `layers` is how many more
containers may be opened. -/
def fieldType :
    (layers : Nat) → (opened : List NodeId) → Schema arena → Decoration arena TypeRef
  | layers, opened, schema =>
    let unwrapped (held : Schema arena) : Decoration arena TypeRef :=
      match layers with
      | 0 => pure .untyped
      | layers + 1 =>
        if opened.contains schema.id then pure .untyped
        else fieldType layers (schema.id :: opened) held
    match schema.shape with
    | .any => pure .untyped
    | .boolean => pure ⟨"bool", []⟩
    | .integer => pure ⟨"i64", []⟩
    | .number => pure ⟨"f64", []⟩
    | .string => pure ⟨"String", []⟩
    | .array _ =>
      match schema.items with
      | some item => TypeRef.list <$> unwrapped item
      | none => pure (.list .untyped)
    | .object properties _ =>
      match schema.className? with
      | some name => pure ⟨name, []⟩
      | none =>
        match schema.additional with
        | some value =>
          if properties.isEmpty then TypeRef.map <$> unwrapped value
          else Decoration.classOf schema
        | none => Decoration.classOf schema

namespace Schema

/-- The type of a schema inside some open containers. -/
def typeInside (opened : List NodeId) (schema : Schema arena) : Decoration arena TypeRef :=
  fieldType arena.size opened schema

/-- The type of a schema. -/
def type (schema : Schema arena) : Decoration arena TypeRef :=
  schema.typeInside []

end Schema

end ApiClasses
