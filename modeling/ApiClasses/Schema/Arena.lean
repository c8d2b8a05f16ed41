import ApiClasses.Text.Quoted

/-!
# The arena of schemas

The schemas of one document are nodes of an arena and are addressed by ids. The
id is a schema's identity: two nodes with equal contents are different schemas,
and every path that reaches a node sees the same id. A cycle is a property that
points back at the id of an ancestor.

The arena only grows and ids are indexes into it, so an id stays valid once
handed out. A node may name any id as a child, also one that points nowhere;
only `Schema`, an id together with the fact that it is in the arena, can be
looked into.
-/

namespace ApiClasses

/-! ## Nodes -/

/-- The identity of a schema: its index in the arena. -/
structure NodeId where
  /-- the index in the arena -/
  index : Nat
  deriving DecidableEq, Repr

namespace NodeId

instance : LT NodeId := ⟨fun a b => a.index < b.index⟩

instance (a b : NodeId) : Decidable (a < b) := inferInstanceAs (Decidable (a.index < b.index))

/-- The id in messages. -/
def label (id : NodeId) : String := "#" ++ toString id.index

end NodeId

/-- A named property of an object schema. -/
structure Property where
  /-- the key in the document -/
  name : String
  /-- the schema of the value -/
  schema : NodeId
  deriving DecidableEq, Repr

/-- The shape of the values that a schema admits. -/
inductive Shape where
  /-- any value at all -/
  | any
  /-- truth values -/
  | boolean
  /-- whole numbers -/
  | integer
  /-- numbers -/
  | number
  /-- texts -/
  | string
  /-- arrays, possibly with a schema for their items -/
  | array (items : Option NodeId)
  /-- objects: properties in order, and the schema of values under other keys -/
  | object (properties : List Property) (additional : Option NodeId)
  deriving DecidableEq, Repr

namespace Shape

/-- The word for the shape in documents. -/
def keyword : Shape → String
  | any => "any"
  | boolean => "boolean"
  | integer => "integer"
  | number => "number"
  | string => "string"
  | array _ => "array"
  | object _ _ => "object"

/-- Is it the shape of objects? -/
def isObject : Shape → Bool
  | object _ _ => true
  | _ => false

/-- The declared properties; shapes other than objects have none. -/
def properties : Shape → List Property
  | object properties _ => properties
  | _ => []

/-- The schema of values under undeclared keys. -/
def additional : Shape → Option NodeId
  | object _ additional => additional
  | _ => none

/-- The schema of array items. -/
def items : Shape → Option NodeId
  | array items => items
  | _ => none

end Shape

/-- One schema. -/
structure Node where
  /-- the name, for schemas that carry one -/
  name : Option String := none
  /-- the description -/
  description : Option String := none
  /-- the shape -/
  shape : Shape := .any
  deriving DecidableEq, Repr

/-! ## The arena -/

/-- All schemas of one document, by id. -/
structure Arena where
  /-- the nodes in the order they were allocated -/
  nodes : Array Node := #[]
  deriving DecidableEq, Repr

namespace Arena

/-- The number of schemas. -/
def size (arena : Arena) : Nat := arena.nodes.size

/-- All ids, oldest first. -/
def ids (arena : Arena) : List NodeId := (List.range arena.size).map NodeId.mk

/-- Adds a schema; its id is the size so far. -/
def alloc (arena : Arena) (node : Node) : NodeId × Arena :=
  (⟨arena.size⟩, ⟨arena.nodes.push node⟩)

/-- The node of an id, if it is in the arena. -/
def node? (arena : Arena) (id : NodeId) : Option Node := arena.nodes[id.index]?

/-- Does the arena hold the id? -/
def contains (arena : Arena) (id : NodeId) : Bool := id.index < arena.size

/-- Changes the node of an id; nothing happens to an id outside the arena. -/
def change (arena : Arena) (id : NodeId) (f : Node → Node) : Arena :=
  ⟨arena.nodes.modify id.index f⟩

/-- Replaces the node of an id. -/
def put (arena : Arena) (id : NodeId) (node : Node) : Arena :=
  arena.change id fun _ => node

/-- Appends a property. A schema that is no object becomes one first. -/
def addProperty (arena : Arena) (owner : NodeId) (name : String) (child : NodeId) : Arena :=
  arena.change owner fun node =>
    { node with
      shape := .object (node.shape.properties ++ [⟨name, child⟩]) node.shape.additional }

/-- Sets the items of an array. A schema that is no array becomes one. -/
def setItems (arena : Arena) (owner child : NodeId) : Arena :=
  arena.change owner fun node => { node with shape := .array (some child) }

/-! ### Sizes and nodes -/

@[simp] theorem size_alloc (arena : Arena) (node : Node) :
    (arena.alloc node).2.size = arena.size + 1 := by
  simp [alloc, size]

@[simp] theorem size_change (arena : Arena) (id : NodeId) (f : Node → Node) :
    (arena.change id f).size = arena.size := by
  simp [change, size]

@[simp] theorem size_put (arena : Arena) (id : NodeId) (node : Node) :
    (arena.put id node).size = arena.size := size_change ..

/-- A new node is found under its id. -/
theorem node?_alloc_self (arena : Arena) (node : Node) :
    (arena.alloc node).2.node? (arena.alloc node).1 = some node := by
  simp [alloc, node?, size]

/-- Allocation leaves the older nodes as they are. -/
theorem node?_alloc_of_contains {arena : Arena} {id : NodeId} (node : Node)
    (h : arena.contains id = true) : (arena.alloc node).2.node? id = arena.node? id := by
  have h : id.index < arena.nodes.size := of_decide_eq_true h
  simp [alloc, node?, Array.getElem?_push, Nat.ne_of_lt h]

/-- A replaced node is found under its id. -/
theorem node?_put_self {arena : Arena} {id : NodeId} (node : Node)
    (h : arena.contains id = true) : (arena.put id node).node? id = some node := by
  have h : id.index < arena.nodes.size := of_decide_eq_true h
  rw [node?, put, change, Array.getElem?_modify, if_pos rfl, Array.getElem?_eq_getElem h]
  rfl

/-- Replacing a node leaves the others as they are. -/
theorem node?_put_of_ne {arena : Arena} {id other : NodeId} (node : Node) (h : other ≠ id) :
    (arena.put id node).node? other = arena.node? other := by
  have h : id.index ≠ other.index := fun he => h (by cases id; cases other; simp_all)
  simp [put, change, node?, Array.getElem?_modify, h]

end Arena

/-! ## Schemas of an arena -/

/-- A schema that is known to be in the arena. -/
structure Schema (arena : Arena) where
  /-- its identity -/
  id : NodeId
  /-- the arena holds it -/
  inside : id.index < arena.size
  deriving DecidableEq

/-- The schema with an id, if the arena holds it. -/
def Arena.get? (arena : Arena) (id : NodeId) : Option (Schema arena) :=
  if inside : id.index < arena.size then some ⟨id, inside⟩ else none

namespace Schema

variable {arena : Arena}

/-- The node behind the schema. -/
def node (schema : Schema arena) : Node :=
  have : schema.id.index < arena.nodes.size := schema.inside
  arena.nodes[schema.id.index]

/-- The name, if it carries one. -/
def name (schema : Schema arena) : Option String := schema.node.name

/-- The description, if it has one. -/
def description (schema : Schema arena) : Option String := schema.node.description

/-- The shape. -/
def shape (schema : Schema arena) : Shape := schema.node.shape

/-- Is it an object schema? -/
def isObject (schema : Schema arena) : Bool := schema.shape.isObject

/-- The properties whose schemas are in the arena, in order. -/
def properties (schema : Schema arena) : List (String × Schema arena) :=
  schema.shape.properties.filterMap fun p => (arena.get? p.schema).map (p.name, ·)

/-- The schema of array items, if it is in the arena. -/
def items (schema : Schema arena) : Option (Schema arena) :=
  schema.shape.items.bind arena.get?

/-- The schema of values under undeclared keys, if it is in the arena. -/
def additional (schema : Schema arena) : Option (Schema arena) :=
  schema.shape.additional.bind arena.get?

/-- A one-line description for diagnostics. -/
def summary (schema : Schema arena) : String :=
  "SchemaRef \x7b id: SchemaId(" ++ toString schema.id.index ++ "), name: " ++
    (match schema.name with
      | some name => "Some(" ++ quote name ++ ")"
      | none => "None") ++
    ", kind: " ++ quote schema.shape.keyword ++ " \x7d"

/-- A schema is determined by its id. -/
@[ext] theorem ext {a b : Schema arena} (h : a.id = b.id) : a = b := by
  cases a; cases b
  subst h
  rfl

/-- The node behind a schema is the one the arena has under its id. -/
theorem node?_id (schema : Schema arena) : arena.node? schema.id = some schema.node :=
  Array.getElem?_eq_getElem schema.inside

end Schema

namespace Arena

theorem get?_eq_some {arena : Arena} {id : NodeId} {schema : Schema arena} :
    arena.get? id = some schema ↔ schema.id = id := by
  unfold get?
  split
  · next inside =>
    constructor
    · rintro ⟨⟩
      rfl
    · intro h
      exact congrArg some (Schema.ext h.symm)
  · next outside =>
    refine ⟨nofun, ?_⟩
    rintro rfl
    exact absurd schema.inside outside

@[simp] theorem get?_id {arena : Arena} (schema : Schema arena) :
    arena.get? schema.id = some schema := get?_eq_some.2 rfl

theorem get?_eq_none {arena : Arena} {id : NodeId} :
    arena.get? id = none ↔ arena.contains id = false := by
  simp [get?, contains]

end Arena

end ApiClasses
