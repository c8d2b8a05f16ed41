import ApiClasses.Decoration.Fields
import ApiClasses.Proofs.Chains
import ApiClasses.Proofs.FieldTypes
import Mathlib.Data.List.Forall2
import Mathlib.Logic.Equiv.Defs

/-!
# The same schemas under other ids

Two arenas may hold the same schemas under different ids, in another order and among other
schemas. `Renames` says this of all that can be reached from one schema: each id has another
one there, and the nodes are the same up to that. A schema and the one with its other id are
twins (`Twin`).

Twins look alike from within: their properties, items and values under other keys are twins
again, and none is lost. So whatever is found by following them is the same for both, be it
a chain of properties held by value (`leadsTo_eq`) or the containers around an object. Only
the bounds that the two arenas put on this are different, and they do not matter
(`contentType_of_notMem`).
-/

namespace ApiClasses

open Relation (ReflTransGen)

/-! ## Renaming -/

namespace Shape

/-- The ids in a shape. -/
def children : Shape → List NodeId
  | object properties additional => properties.map (·.schema) ++ additional.toList
  | array items => items.toList
  | _ => []

/-- The shape with other ids in it. -/
def renamed (f : NodeId → NodeId) : Shape → Shape
  | object properties additional =>
    object (properties.map fun property => ⟨property.name, f property.schema⟩) (additional.map f)
  | array items => array (items.map f)
  | shape => shape

theorem renamed_id (shape : Shape) : shape.renamed (fun id => id) = shape := by
  cases shape <;> simp [renamed]

@[simp] theorem properties_renamed (f : NodeId → NodeId) (shape : Shape) :
    (shape.renamed f).properties =
      shape.properties.map fun property => ⟨property.name, f property.schema⟩ := by
  cases shape <;> rfl

@[simp] theorem additional_renamed (f : NodeId → NodeId) (shape : Shape) :
    (shape.renamed f).additional = shape.additional.map f := by
  cases shape <;> rfl

@[simp] theorem items_renamed (f : NodeId → NodeId) (shape : Shape) :
    (shape.renamed f).items = shape.items.map f := by
  cases shape <;> rfl

theorem mem_children_of_properties {shape : Shape} {property : Property}
    (h : property ∈ shape.properties) : property.schema ∈ shape.children := by
  cases shape with
  | object properties additional => exact List.mem_append_left _ (List.mem_map_of_mem h)
  | any | boolean | integer | number | string | array items => cases h

theorem mem_children_of_additional {shape : Shape} {id : NodeId}
    (h : shape.additional = some id) : id ∈ shape.children := by
  cases shape with
  | object properties additional => exact List.mem_append_right _ (Option.mem_toList.mpr h)
  | any | boolean | integer | number | string | array items => cases h

theorem mem_children_of_items {shape : Shape} {id : NodeId} (h : shape.items = some id) :
    id ∈ shape.children := by
  cases shape with
  | array items => exact Option.mem_toList.mpr h
  | any | boolean | integer | number | string | object properties additional => cases h

end Shape

/-- The node with other ids in it. -/
def Node.renamed (f : NodeId → NodeId) (node : Node) : Node :=
  { node with shape := node.shape.renamed f }

/-- The node of the first id names the second one. -/
def Arena.Names (arena : Arena) (id child : NodeId) : Prop :=
  ∃ node, arena.node? id = some node ∧ child ∈ node.shape.children

theorem Node.renamed_id : Node.renamed (fun id => id) = fun node => node := by
  funext node
  exact congrArg (Node.mk _ _) node.shape.renamed_id

/-- From the first id, going from a node to the ids it names, one comes to the second one. It
may be an id that the arena does not hold. -/
def Arena.Reaches (arena : Arena) : NodeId → NodeId → Prop := ReflTransGen arena.Names

/-- Whatever can be reached from `start` in the first arena is in the second one under another
id. What the first one does not hold, the second does not hold either. -/
structure Renames (arena other : Arena) (start : NodeId) (f : NodeId → NodeId) : Prop where
  /-- different schemas have different ids -/
  injective : ∀ id₁ id₂, arena.Reaches start id₁ → arena.Reaches start id₂ →
    arena.contains id₁ = true → arena.contains id₂ = true → f id₁ = f id₂ → id₁ = id₂
  /-- the nodes are the same but for their ids -/
  node : ∀ id, arena.Reaches start id → other.node? (f id) = (arena.node? id).map (Node.renamed f)

/-- The second schema has the other id of the first one, which can be reached. -/
structure Twin {arena other : Arena} (start : NodeId) (f : NodeId → NodeId)
    (schema : Schema arena) (twin : Schema other) : Prop where
  /-- the first schema can be reached -/
  reached : arena.Reaches start schema.id
  /-- the second one has its other id -/
  id : twin.id = f schema.id

variable {arena other : Arena} {start : NodeId} {f : NodeId → NodeId} {schema owner : Schema arena}
  {twin ownerTwin : Schema other} {id : NodeId}

theorem Arena.get?_eq_none_iff_node? : arena.get? id = none ↔ arena.node? id = none := by
  rw [Arena.get?_eq_none, Arena.node?, Array.getElem?_eq_none_iff, Arena.contains, Arena.size]
  simp

namespace Renames

variable (h : Renames arena other start f)

include h

/-- An id that can be reached is in both arenas or in none. -/
theorem get? (hid : arena.Reaches start id) :
    Option.Rel (Twin start f) (arena.get? id) (other.get? (f id)) := by
  have hnode := h.node id hid
  rcases hget : arena.get? id with _ | schema
  · rw [Arena.get?_eq_none_iff_node?.mp hget] at hnode
    rw [Arena.get?_eq_none_iff_node?.mpr hnode]
    exact .none
  · obtain rfl := Arena.get?_eq_some.mp hget
    rcases hother : other.get? (f schema.id) with _ | twin
    · rw [Arena.get?_eq_none_iff_node?.mp hother, schema.node?_id] at hnode
      cases hnode
    · exact .some ⟨hid, Arena.get?_eq_some.mp hother⟩

/-- No two schemas share a twin, and no schema has two. -/
theorem biUnique : Relator.BiUnique (Twin start f : Schema arena → Schema other → Prop) := by
  refine ⟨fun schema₁ schema₂ twin h₁ h₂ => ?_, fun schema twin₁ twin₂ h₁ h₂ => ?_⟩
  · exact Schema.ext (h.injective _ _ h₁.reached h₂.reached (decide_eq_true schema₁.inside)
      (decide_eq_true schema₂.inside) (h₁.id.symm.trans h₂.id))
  · exact Schema.ext (h₁.id.trans h₂.id.symm)

end Renames

/-! ### Other arenas with the same schemas -/

/-- Adds some schemas, one after the other. -/
def Arena.allocAll (arena : Arena) (nodes : List Node) : Arena :=
  nodes.foldl (fun arena node => (arena.alloc node).2) arena

/-- The ids that the schemas of the arena get in another order. -/
def Arena.place (arena : Arena) (order : Equiv.Perm (Fin arena.size)) (id : NodeId) : NodeId :=
  if inside : id.index < arena.size then ⟨order ⟨id.index, inside⟩⟩ else id

/-- The arena with its schemas in another order. -/
def Arena.reordered (arena : Arena) (order : Equiv.Perm (Fin arena.size)) : Arena :=
  ⟨Array.ofFn fun place =>
    let schema : Schema arena := ⟨⟨order.symm place⟩, (order.symm place).isLt⟩
    schema.node.renamed (arena.place order)⟩

namespace Arena

theorem node?_allocAll_of_contains (nodes : List Node) (hid : arena.contains id = true) :
    (arena.allocAll nodes).node? id = arena.node? id := by
  induction nodes generalizing arena with
  | nil => rfl
  | cons node rest ih =>
    have hid' : (arena.alloc node).2.contains id = true := by
      rw [Arena.contains, size_alloc]
      have := of_decide_eq_true hid
      exact decide_eq_true (by omega)
    exact (ih hid').trans (node?_alloc_of_contains node hid)

/-- What can be reached can be reached after more schemas were added. -/
theorem Reaches.allocAll (nodes : List Node) (h : arena.Reaches start id) :
    (arena.allocAll nodes).Reaches start id := by
  induction h with
  | refl => exact .refl
  | @tail middle child _ hnames ih =>
    obtain ⟨node, hnode, hchild⟩ := hnames
    have hinside : arena.contains middle = true := by
      obtain ⟨hlt, -⟩ := Array.getElem?_eq_some_iff.mp hnode
      exact decide_eq_true hlt
    exact ih.tail ⟨node, (node?_allocAll_of_contains nodes hinside).trans hnode, hchild⟩

theorem node?_reordered (order : Equiv.Perm (Fin arena.size)) (id : NodeId) :
    (arena.reordered order).node? (arena.place order id) =
      (arena.node? id).map (Node.renamed (arena.place order)) := by
  rw [Arena.node?, Arena.node?, reordered]
  by_cases hinside : id.index < arena.size
  · have hnodes : id.index < arena.nodes.size := hinside
    have hplace : arena.place order id = ⟨order ⟨id.index, hinside⟩⟩ := dif_pos hinside
    rw [hplace, Array.getElem?_ofFn, Array.getElem?_eq_getElem hnodes, dif_pos (Fin.isLt _)]
    simp only [Fin.eta, Equiv.symm_apply_apply]
    rfl
  · have hplace : arena.place order id = id := dif_neg hinside
    have hnodes : ¬ id.index < arena.nodes.size := hinside
    rw [hplace, Array.getElem?_ofFn, Array.getElem?_eq_none (by omega)]
    simp [hinside]

end Arena

namespace Renames

/-- Schemas that are added later and cannot be reached leave the others as they are. -/
theorem of_unreached {nodes : List Node}
    (hnew : ∀ id, (arena.allocAll nodes).Reaches start id →
      (arena.allocAll nodes).contains id = true → arena.contains id = true) :
    Renames arena (arena.allocAll nodes) start fun id => id := by
  refine ⟨fun _ _ _ _ _ _ hsame => hsame, fun id hid => ?_⟩
  rw [Node.renamed_id, Option.map_id_fun', id_eq]
  by_cases hinside : arena.contains id = true
  · exact Arena.node?_allocAll_of_contains nodes hinside
  · have houtside : (arena.allocAll nodes).contains id = false :=
      eq_false_of_ne_true fun hin => hinside (hnew id (hid.allocAll nodes) hin)
    rw [Arena.get?_eq_none_iff_node?.mp (Arena.get?_eq_none.mpr houtside),
      Arena.get?_eq_none_iff_node?.mp (Arena.get?_eq_none.mpr (eq_false_of_ne_true hinside))]

theorem of_order (order : Equiv.Perm (Fin arena.size)) :
    Renames arena (arena.reordered order) start (arena.place order) := by
  refine ⟨fun id₁ id₂ _ _ hid₁ hid₂ hsame => ?_, fun id _ => arena.node?_reordered order id⟩
  have hplace₁ : arena.place order id₁ = ⟨order ⟨id₁.index, of_decide_eq_true hid₁⟩⟩ := dif_pos _
  have hplace₂ : arena.place order id₂ = ⟨order ⟨id₂.index, of_decide_eq_true hid₂⟩⟩ := dif_pos _
  rw [hplace₁, hplace₂] at hsame
  have hindex := order.injective (Fin.ext (congrArg NodeId.index hsame))
  exact congrArg NodeId.mk (congrArg Fin.val hindex)

end Renames

/-! ## Twins -/

namespace Twin

variable (htwin : Twin start f schema twin)

include htwin

/-- What a node names can be reached with it. -/
theorem reaches_child (hid : id ∈ schema.shape.children) : arena.Reaches start id :=
  htwin.reached.tail ⟨schema.node, schema.node?_id, hid⟩

variable (h : Renames arena other start f)

include h

theorem node_eq : twin.node = schema.node.renamed f := by
  have hnode := h.node _ htwin.reached
  rw [← htwin.id, twin.node?_id, schema.node?_id] at hnode
  exact Option.some.inj hnode

theorem shape_eq : twin.shape = schema.shape.renamed f :=
  congrArg Node.shape (htwin.node_eq h)

theorem description_eq : twin.description = schema.description := by
  rw [Schema.description, htwin.node_eq h]
  rfl

theorem className?_eq : twin.className? = schema.className? := by
  rw [Schema.className?, Schema.name, htwin.node_eq h]
  rfl

/-- Property by property, they have the same names and twins. -/
theorem properties : List.Forall₂ (fun own other => own.1 = other.1 ∧ Twin start f own.2 other.2)
    schema.properties twin.properties := by
  rw [Schema.properties, Schema.properties, htwin.shape_eq h, Shape.properties_renamed,
    List.filterMap_map]
  refine List.rel_filterMap (R := fun own other => own = other ∧ own ∈ schema.shape.properties)
    ?_ (List.forall₂_same.mpr fun property hproperty => ⟨rfl, hproperty⟩)
  rintro property _ ⟨rfl, hproperty⟩
  have hchild := h.get? (htwin.reaches_child (Shape.mem_children_of_properties hproperty))
  dsimp only [Function.comp_apply]
  generalize arena.get? property.schema = own, other.get? (f property.schema) = its at hchild ⊢
  cases hchild with
  | none => exact .none
  | some hchild => exact .some ⟨rfl, hchild⟩

theorem items : Option.Rel (Twin start f) schema.items twin.items := by
  rw [Schema.items, Schema.items, htwin.shape_eq h, Shape.items_renamed]
  rcases hitems : schema.shape.items with _ | id
  · exact .none
  · exact h.get? (htwin.reaches_child (Shape.mem_children_of_items hitems))

theorem additional : Option.Rel (Twin start f) schema.additional twin.additional := by
  rw [Schema.additional, Schema.additional, htwin.shape_eq h, Shape.additional_renamed]
  rcases hadditional : schema.shape.additional with _ | id
  · exact .none
  · exact h.get? (htwin.reaches_child (Shape.mem_children_of_additional hadditional))

/-! ### Chains -/

theorem isByValue_eq : twin.isByValue = schema.isByValue := by
  unfold Schema.isByValue
  rw [htwin.shape_eq h, htwin.className?_eq h]
  cases schema.shape with
  | object properties additional => simp [Shape.renamed]
  | any | boolean | integer | number | string | array items => rfl

theorem byValueProperties :
    List.Forall₂ (Twin start f) schema.byValueProperties twin.byValueProperties := by
  refine List.rel_filter (R := Twin start f) (fun held heldTwin hheld => ?_) ?_
  · dsimp only
    rw [hheld.isByValue_eq h]
  · rw [List.forall₂_map_left_iff, List.forall₂_map_right_iff]
    exact (htwin.properties h).imp fun _ _ hproperty => hproperty.2

/-- A chain of properties leads to twins. -/
theorem exists_of_path {last : Schema arena} (hpath : ReflTransGen Schema.Holds schema last) :
    ∃ lastTwin, ReflTransGen Schema.Holds twin lastTwin ∧ Twin start f last lastTwin := by
  induction hpath with
  | refl => exact ⟨twin, .refl, htwin⟩
  | tail _ hheld ih =>
    obtain ⟨middle, hpath, hmiddle⟩ := ih
    obtain ⟨next, hnext, hlast⟩ := exists_of_forall₂_left (hmiddle.byValueProperties h) hheld
    exact ⟨next, hpath.tail hnext, hlast⟩

/-- A chain of properties comes from twins. -/
theorem exists_of_twin_path {lastTwin : Schema other}
    (hpath : ReflTransGen Schema.Holds twin lastTwin) :
    ∃ last, ReflTransGen Schema.Holds schema last ∧ Twin start f last lastTwin := by
  induction hpath with
  | refl => exact ⟨schema, .refl, htwin⟩
  | tail _ hheld ih =>
    obtain ⟨middle, hpath, hmiddle⟩ := ih
    obtain ⟨next, hnext, hlast⟩ := exists_of_forall₂_right (hmiddle.byValueProperties h) hheld
    exact ⟨next, hpath.tail hnext, hlast⟩

/-- Twins lead back to twins, or neither does. -/
theorem leadsTo_eq (howner : Twin start f owner ownerTwin) :
    twin.leadsTo ownerTwin.id = schema.leadsTo owner.id := by
  refine Bool.eq_iff_iff.mpr (leadsTo_iff.trans (Iff.trans ⟨?_, ?_⟩ leadsTo_iff.symm))
  · rintro ⟨lastTwin, hpath, hid⟩
    obtain rfl := Schema.ext hid
    obtain ⟨last, hpath, hlast⟩ := htwin.exists_of_twin_path h hpath
    exact ⟨last, hpath, congrArg Schema.id (h.biUnique.1 hlast howner)⟩
  · rintro ⟨last, hpath, hid⟩
    obtain rfl := Schema.ext hid
    obtain ⟨lastTwin, hpath, hlast⟩ := htwin.exists_of_path h hpath
    exact ⟨lastTwin, hpath, congrArg Schema.id (h.biUnique.2 hlast howner)⟩

end Twin

/-! ## Room for containers -/

/-- As many containers may be opened as are not open yet. -/
structure Room (arena : Arena) (layers : Nat) (opened : List NodeId) : Prop where
  /-- each container was opened once -/
  distinct : opened.Nodup
  /-- the arena holds them -/
  contained : ∀ id ∈ opened, arena.contains id = true
  /-- the others can still be opened -/
  enough : arena.size ≤ layers + opened.length

theorem Room.all (arena : Arena) : Room arena arena.size [] :=
  ⟨List.nodup_nil, nofun, Nat.le_refl _⟩

variable {layers : Nat} {opened : List NodeId} {content : Schema arena}

/-- A container that is open already holds anything. -/
theorem contentType_of_mem (hopen : schema.id ∈ opened) :
    contentType layers opened schema content = pure .untyped := by
  cases layers with
  | zero => rfl
  | succ fewer => rw [contentType, if_pos (by simpa using hopen)]

/-- Where there is room, any other container is opened. -/
theorem contentType_of_notMem (content : Schema arena) (hroom : Room arena layers opened)
    (hnew : schema.id ∉ opened) :
    ∃ fewer, layers = fewer + 1 ∧
      contentType layers opened schema content = fieldType fewer (schema.id :: opened) content ∧
      Room arena fewer (schema.id :: opened) := by
  have hdistinct : (schema.id :: opened).Nodup := List.nodup_cons.mpr ⟨hnew, hroom.distinct⟩
  have hcontained : ∀ id ∈ schema.id :: opened, arena.contains id = true :=
    List.forall_mem_cons.mpr ⟨decide_eq_true schema.inside, hroom.contained⟩
  -- the open containers and this one are different schemas of the arena
  have hfit := Arena.length_le_size hdistinct hcontained
  have henough := hroom.enough
  rw [List.length_cons] at hfit
  obtain ⟨fewer, rfl⟩ : ∃ fewer, layers = fewer + 1 :=
    Nat.exists_eq_add_one_of_ne_zero (by omega)
  refine ⟨fewer, rfl, ?_, hdistinct, hcontained, ?_⟩
  · rw [contentType, if_neg (by simpa using hnew)]
  · rw [List.length_cons]
    omega

end ApiClasses
