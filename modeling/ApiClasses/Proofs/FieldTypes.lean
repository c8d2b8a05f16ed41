import ApiClasses.Decoration.Fields
import ApiClasses.Proofs.Answers
import ApiClasses.Proofs.Growth
import Mathlib.Logic.Relation

/-!
# What the type of a field is made of

The type of a schema opens its containers, one in another, and ends with an object or a
plain value. So besides built-in names it holds at most one more: that of the object the
containers come to (`Schema.ComesTo`), which is the object's own class name or an answer
to a request for it (`names_fieldType`). The count of layers never gets in the way of it:
containers that come to an object are pairwise distinct, so there are fewer of them
than schemas, and the object's name is always there (`exists_calledAs_fieldType`).
-/

namespace ApiClasses

open Relation (TransGen)

variable {arena : Arena} {schema content last owner property : Schema arena}
  {answers : List (NodeId × String)} {type : TypeRef} {name : String} {layers : Nat}
  {opened : List NodeId}

/-! ## Names in types -/

/-- The names of built-in types. -/
def builtInNames : List String :=
  ["String", "bool", "i64", "f64", "serde_json::Value", "Vec", "HashMap", "Option", "Box"]

namespace TypeRef

mutual

/-- All names in a type, at any depth. -/
def names : TypeRef → List String
  | ⟨base, arguments⟩ => base :: namesOfAll arguments

/-- All names in some types. -/
def namesOfAll : List TypeRef → List String
  | [] => []
  | type :: rest => type.names ++ namesOfAll rest

end

/-- The built-in types around another one. -/
def wrappers : List (TypeRef → TypeRef) := [list, map, boxed]

/-- They add built-in names. -/
theorem names_wrapper {wrap : TypeRef → TypeRef} (h : wrap ∈ wrappers) (type : TypeRef) :
    ∃ around, around ⊆ builtInNames ∧ (wrap type).names = around ++ type.names := by
  simp only [wrappers, List.mem_cons, List.not_mem_nil, or_false] at h
  rcases h with rfl | rfl | rfl
  · exact ⟨["Vec"], by decide, by simp [list, names, namesOfAll]⟩
  · exact ⟨["HashMap", "String"], by decide, by simp [map, names, namesOfAll]⟩
  · exact ⟨["Option", "Box"], by decide, by simp [boxed, names, namesOfAll]⟩

/-- They are types with arguments. -/
theorem arguments_wrapper {wrap : TypeRef → TypeRef} (h : wrap ∈ wrappers) (type : TypeRef) :
    (wrap type).arguments ≠ [] := by
  simp only [wrappers, List.mem_cons, List.not_mem_nil, or_false] at h
  rcases h with rfl | rfl | rfl <;> exact List.cons_ne_nil _ _

end TypeRef

/-! ## Containers -/

namespace Schema

/-- What a container holds: the items of an array, or the values of an object that is a
mere map and has no class name. -/
def content? (schema : Schema arena) : Option (Schema arena) :=
  match schema.shape with
  | .array _ => schema.items
  | .object properties _ =>
    if schema.className?.isNone && properties.isEmpty then schema.additional else none
  | _ => none

/-- Is it an object that a class stands for? -/
def HasClass (schema : Schema arena) : Prop :=
  schema.isObject = true ∧ schema.content? = none

/-- The containers, opened one in another, come to an object that a class stands for. -/
inductive ComesTo : Schema arena → Schema arena → Prop where
  /-- there is nothing to open -/
  | object {schema : Schema arena} : schema.HasClass → ComesTo schema schema
  /-- a container is opened -/
  | opened {schema content last : Schema arena} : schema.content? = some content →
    ComesTo content last → ComesTo schema last

theorem ComesTo.hasClass (h : schema.ComesTo last) : last.HasClass := by
  induction h with
  | object hclass => exact hclass
  | opened _ _ ih => exact ih

theorem ComesTo.isObject (h : schema.ComesTo last) : last.isObject = true := h.hasClass.1

/-- The second schema is what the first one, a container, holds. -/
def Opens (schema content : Schema arena) : Prop := schema.content? = some content

/-- Containers that come to an object do not hold themselves. -/
theorem ComesTo.not_within_itself (h : schema.ComesTo last) : ¬ TransGen Opens schema schema := by
  induction h with
  | object hclass =>
    intro hloop
    obtain ⟨_, hopens, -⟩ := TransGen.head'_iff.mp hloop
    cases hclass.2.symm.trans hopens
  | opened hcontent _ ih =>
    -- a loop through a container is a loop through its content
    intro hloop
    obtain ⟨_, hopens, hback⟩ := TransGen.head'_iff.mp hloop
    obtain rfl := Option.some.inj (hcontent.symm.trans hopens)
    exact ih (TransGen.tail' hback hcontent)

/-- The containers that have been opened on the way to a schema. -/
structure Inside (opened : List NodeId) (schema : Schema arena) : Prop where
  /-- each was opened once -/
  distinct : opened.Nodup
  /-- the schema is in all of them -/
  opens : ∀ id ∈ opened, ∃ outer : Schema arena, outer.id = id ∧ TransGen Opens outer schema

theorem Inside.nothing (schema : Schema arena) : Inside [] schema :=
  ⟨List.nodup_nil, nofun⟩

/-- Only so many containers can be open. -/
theorem Inside.length_le {opened : List NodeId} (h : Inside opened schema) :
    opened.length ≤ arena.size := by
  refine Arena.length_le_size h.distinct fun id hid => ?_
  obtain ⟨outer, rfl, -⟩ := h.opens id hid
  exact decide_eq_true outer.inside

/-- A container that comes to an object is none of those it is in. -/
theorem Inside.notMem {opened : List NodeId} (h : Inside opened schema)
    (hlast : schema.ComesTo last) : schema.id ∉ opened := by
  intro hmem
  obtain ⟨outer, hid, hpath⟩ := h.opens _ hmem
  rw [Schema.ext hid] at hpath
  exact hlast.not_within_itself hpath

/-- A container that is not open yet can be opened. -/
theorem Inside.push {opened : List NodeId} {content : Schema arena} (h : Inside opened schema)
    (hnew : schema.id ∉ opened) (hcontent : schema.content? = some content) :
    Inside (schema.id :: opened) content := by
  refine ⟨List.nodup_cons.mpr ⟨hnew, h.distinct⟩, ?_⟩
  refine List.forall_mem_cons.mpr ⟨⟨schema, rfl, .single hcontent⟩, fun id hid => ?_⟩
  obtain ⟨outer, hid, hpath⟩ := h.opens id hid
  exact ⟨outer, hid, hpath.tail hcontent⟩

end Schema

/-! ## How a type is put together -/

/-- The type of what a container holds. -/
def contentType (layers : Nat) (opened : List NodeId) (schema content : Schema arena) :
    Decoration arena TypeRef :=
  match layers with
  | 0 => pure .untyped
  | layers + 1 =>
    if opened.contains schema.id then pure .untyped
    else fieldType layers (schema.id :: opened) content

/-- The type of a schema in terms of what it holds. -/
theorem fieldType_eq (layers : Nat) (opened : List NodeId) (schema : Schema arena) :
    fieldType layers opened schema =
      match schema.shape with
      | .any => pure .untyped
      | .boolean => pure ⟨"bool", []⟩
      | .integer => pure ⟨"i64", []⟩
      | .number => pure ⟨"f64", []⟩
      | .string => pure ⟨"String", []⟩
      | .array _ =>
        match schema.items with
        | some item => TypeRef.list <$> contentType layers opened schema item
        | none => pure (.list .untyped)
      | .object properties _ =>
        match schema.className? with
        | some name => pure ⟨name, []⟩
        | none =>
          match schema.additional with
          | some value =>
            if properties.isEmpty then TypeRef.map <$> contentType layers opened schema value
            else Decoration.classOf schema
          | none => Decoration.classOf schema := by
  cases layers <;> rfl

/-- A container's type is that of what it holds, in a built-in type. -/
theorem fieldType_of_content (h : schema.content? = some content) :
    ∃ wrap ∈ TypeRef.wrappers,
      fieldType layers opened schema = wrap <$> contentType layers opened schema content := by
  rw [fieldType_eq]
  unfold Schema.content? at h
  split at h
  · next hshape => exact ⟨.list, by simp [TypeRef.wrappers], by simp only [hshape, h]⟩
  · next hshape =>
    split at h
    · next hmap =>
      obtain ⟨hname, hempty⟩ := Bool.and_eq_true_iff.mp hmap
      have hname := Option.isNone_iff_eq_none.mp hname
      refine ⟨.map, by simp [TypeRef.wrappers], ?_⟩
      simp only [hshape, hname, h, hempty, if_true]
    · cases h
  · cases h

/-- An object with a class name is typed by it. -/
theorem fieldType_of_className (hobject : schema.isObject = true)
    (hname : schema.className? = some name) :
    fieldType layers opened schema = pure ⟨name, []⟩ := by
  rw [fieldType_eq]
  unfold Schema.isObject Shape.isObject at hobject
  split at hobject
  · next hshape => simp only [hshape, hname]
  · cases hobject

/-- Any other object that a class stands for is asked for. -/
theorem fieldType_of_nameless (hclass : schema.HasClass) (hname : schema.className? = none) :
    fieldType layers opened schema = Decoration.classOf schema := by
  obtain ⟨hobject, hcontent⟩ := hclass
  rw [fieldType_eq]
  unfold Schema.isObject Shape.isObject at hobject
  split at hobject
  · next hshape =>
    unfold Schema.content? at hcontent
    simp only [hshape, hname, Option.isNone_none, Bool.true_and] at hcontent ⊢
    split
    · next hadditional =>
      split at hcontent
      · cases hadditional.symm.trans hcontent
      · next hdeclared => simp only [hdeclared, Bool.false_eq_true, if_false]
    · rfl
  · cases hobject

/-- Everything else has a built-in type. -/
theorem fieldType_of_plain (hplain : schema.isObject = false) (hcontent : schema.content? = none) :
    ∃ type : TypeRef, type.names ⊆ builtInNames ∧ fieldType layers opened schema = pure type := by
  rw [fieldType_eq]
  unfold Schema.content? at hcontent
  unfold Schema.isObject Shape.isObject at hplain
  split
  case h_6 hshape =>
    simp only [hshape] at hcontent
    simp only [hcontent]
    exact ⟨_, by decide, rfl⟩
  case h_7 hshape =>
    rw [hshape] at hplain
    cases hplain
  all_goals exact ⟨_, by decide, rfl⟩

/-- A schema is a container, an object that a class stands for, or plain. -/
theorem Schema.kinds (schema : Schema arena) :
    (∃ content, schema.content? = some content) ∨ schema.HasClass ∨
      (schema.isObject = false ∧ schema.content? = none) := by
  rcases hcontent : schema.content? with _ | content
  · rcases hobject : schema.isObject with _ | _
    · exact .inr (.inr ⟨rfl, rfl⟩)
    · exact .inr (.inl ⟨hobject, hcontent⟩)
  · exact .inl ⟨content, rfl⟩

/-! ## The name of the object -/

/-- The name under which a class stands for the schema: its own, or an answer. -/
def Schema.CalledAs (schema : Schema arena) (answers : List (NodeId × String)) (name : String) :
    Prop :=
  schema.className? = some name ∨ schema.className? = none ∧ (schema.id, name) ∈ answers

/-- A schema has one class name at most. -/
theorem Schema.CalledAs.eq_of_own {other : String} (h : schema.CalledAs answers other)
    (hname : schema.className? = some name) : other = name := by
  rcases h with hown | ⟨hnone, -⟩
  · exact Option.some.inj (hown.symm.trans hname)
  · cases hnone.symm.trans hname

/-- The type of an object that a class stands for is one name. -/
theorem eq_of_fieldType (hclass : schema.HasClass)
    (h : (fieldType layers opened schema).EndsIn answers type) :
    type.arguments = [] ∧ schema.CalledAs answers type.base := by
  rcases hname : schema.className? with _ | name
  · rw [fieldType_of_nameless hclass hname] at h
    obtain ⟨name, hanswer, rfl⟩ := Decoration.endsIn_classOf.mp h
    exact ⟨rfl, .inr ⟨hname, hanswer⟩⟩
  · rw [fieldType_of_className hclass.1 hname] at h
    obtain rfl : ⟨name, []⟩ = type := h
    exact ⟨rfl, .inl hname⟩

/-- The type of what a container holds is cut off, or one layer fewer is left for it. -/
theorem endsIn_contentType (h : (contentType layers opened schema content).EndsIn answers type) :
    type = .untyped ∨ ∃ fewer, layers = fewer + 1 ∧
      (fieldType fewer (schema.id :: opened) content).EndsIn answers type := by
  cases layers with
  | zero => exact .inl (Eq.symm h)
  | succ fewer =>
    rw [contentType] at h
    split at h
    · exact .inl (Eq.symm h)
    · exact .inr ⟨fewer, rfl, h⟩

/-- A name in a type is built-in, or a class stands under it for the object that the
containers come to. -/
theorem names_fieldType (h : (fieldType layers opened schema).EndsIn answers type)
    (hname : name ∈ type.names) :
    name ∈ builtInNames ∨ ∃ last, schema.ComesTo last ∧ last.CalledAs answers name := by
  induction layers using Nat.strongRecOn generalizing opened schema type with
  | ind layers ih =>
    rcases schema.kinds with ⟨content, hcontent⟩ | hclass | ⟨hplain, hcontent⟩
    · obtain ⟨wrap, hwrap, htype⟩ := fieldType_of_content hcontent
      rw [htype] at h
      obtain ⟨inner, hinner, rfl⟩ := Decoration.endsIn_map.mp h
      obtain ⟨around, hbuilt, hnames⟩ := TypeRef.names_wrapper hwrap inner
      rw [hnames] at hname
      rcases List.mem_append.mp hname with hname | hname
      · exact .inl (hbuilt hname)
      · rcases endsIn_contentType hinner with rfl | ⟨fewer, rfl, hheld⟩
        · obtain rfl := List.mem_singleton.mp hname
          exact .inl (by decide)
        · rcases ih fewer (Nat.lt_succ_self fewer) hheld hname with hbuilt | ⟨last, hlast, hcalled⟩
          · exact .inl hbuilt
          · exact .inr ⟨last, .opened hcontent hlast, hcalled⟩
    · obtain ⟨hdirect, hcalled⟩ := eq_of_fieldType hclass h
      obtain ⟨base, arguments⟩ := type
      obtain rfl : arguments = [] := hdirect
      obtain rfl := List.mem_singleton.mp hname
      exact .inr ⟨schema, .object hclass, hcalled⟩
    · obtain ⟨plain, hbuilt, htype⟩ := fieldType_of_plain hplain hcontent
      rw [htype] at h
      obtain rfl : plain = type := h
      exact .inl (hbuilt hname)

/-- The object that the containers come to is called by some name in the type, if the layers
and the open containers are together as many as there are schemas. -/
theorem exists_calledAs_fieldType (hlast : schema.ComesTo last)
    (hopened : Schema.Inside opened schema) (hlayers : arena.size ≤ layers + opened.length)
    (h : (fieldType layers opened schema).EndsIn answers type) :
    ∃ name ∈ type.names, last.CalledAs answers name := by
  induction hlast generalizing layers opened type with
  | object hclass =>
    obtain ⟨base, arguments⟩ := type
    exact ⟨base, List.mem_cons_self, (eq_of_fieldType hclass h).2⟩
  | @opened schema content last hcontent hlast ih =>
    -- the container is not open yet, so one more layer is left
    have hnew := hopened.notMem (.opened hcontent hlast)
    have hopened' := hopened.push hnew hcontent
    have hfit := hopened'.length_le
    rw [List.length_cons] at hfit
    obtain ⟨fewer, rfl⟩ : ∃ fewer, layers = fewer + 1 :=
      Nat.exists_eq_add_one_of_ne_zero (by omega)
    obtain ⟨wrap, hwrap, htype⟩ := fieldType_of_content hcontent
    rw [htype] at h
    obtain ⟨inner, hinner, rfl⟩ := Decoration.endsIn_map.mp h
    rw [contentType, if_neg (by simpa using hnew)] at hinner
    obtain ⟨around, -, hnames⟩ := TypeRef.names_wrapper hwrap inner
    obtain ⟨name, hname, hcalled⟩ := ih hopened' (by rw [List.length_cons]; omega) hinner
    exact ⟨name, hnames ▸ List.mem_append_right _ hname, hcalled⟩

/-- What is asked for is the object that the containers come to, if it has no class name. -/
theorem fieldType_asksOnly : (fieldType layers opened schema).AsksOnly fun asked =>
    schema.ComesTo asked ∧ asked.className? = none := by
  induction layers using Nat.strongRecOn generalizing opened schema with
  | ind layers ih =>
    rcases schema.kinds with ⟨content, hcontent⟩ | hclass | ⟨hplain, hcontent⟩
    · obtain ⟨wrap, -, htype⟩ := fieldType_of_content hcontent
      rw [htype]
      refine Decoration.asksOnly_map ?_
      cases layers with
      | zero => trivial
      | succ fewer =>
        rw [contentType]
        split
        · trivial
        · refine (ih fewer (Nat.lt_succ_self fewer)).imp fun asked hasked => ?_
          exact ⟨.opened hcontent hasked.1, hasked.2⟩
    · rcases hname : schema.className? with _ | name
      · rw [fieldType_of_nameless hclass hname]
        exact ⟨⟨.object hclass, hname⟩, fun _ => trivial⟩
      · rw [fieldType_of_className hclass.1 hname]
        trivial
    · obtain ⟨type, -, htype⟩ := fieldType_of_plain hplain hcontent
      rw [htype]
      trivial

/-! ## The type of a property's field -/

/-- The type of the field is that of the property, or the boxed one, if the property is
held by value and leads back to the owner. -/
theorem endsIn_propertyType : (propertyType owner property).EndsIn answers type ↔
    ∃ own, property.type.EndsIn answers own ∧ type =
      if property.isByValue && property.leadsTo owner.id then .boxed own else own := by
  rw [propertyType, Decoration.endsIn_bind]
  exact exists_congr fun own => and_congr_right fun _ => eq_comm

/-- The type of the field is that of the property, perhaps in a built-in type. -/
theorem names_of_propertyType (h : (propertyType owner property).EndsIn answers type) :
    ∃ own, property.type.EndsIn answers own ∧
      ∃ around, around ⊆ builtInNames ∧ type.names = around ++ own.names := by
  obtain ⟨own, hown, rfl⟩ := endsIn_propertyType.mp h
  refine ⟨own, hown, ?_⟩
  split
  · exact TypeRef.names_wrapper (by simp [TypeRef.wrappers]) own
  · exact ⟨[], List.nil_subset _, rfl⟩

/-- A name in the type of a field is built-in, or a class stands under it for the object
that the property comes to. -/
theorem names_propertyType (h : (propertyType owner property).EndsIn answers type)
    (hname : name ∈ type.names) :
    name ∈ builtInNames ∨ ∃ last, property.ComesTo last ∧ last.CalledAs answers name := by
  obtain ⟨own, hown, around, hbuilt, hnames⟩ := names_of_propertyType h
  rw [hnames] at hname
  rcases List.mem_append.mp hname with hname | hname
  · exact .inl (hbuilt hname)
  · exact names_fieldType hown hname

/-- The object that a property comes to is called by some name in the type of its field. -/
theorem exists_calledAs_propertyType (hlast : property.ComesTo last)
    (h : (propertyType owner property).EndsIn answers type) :
    ∃ name ∈ type.names, last.CalledAs answers name := by
  obtain ⟨own, hown, around, -, hnames⟩ := names_of_propertyType h
  obtain ⟨name, hname, hcalled⟩ :=
    exists_calledAs_fieldType hlast (.nothing _) (Nat.le_refl _) hown
  exact ⟨name, hnames ▸ List.mem_append_right _ hname, hcalled⟩

/-- If it has a class name, this is the name. -/
theorem mem_names_propertyType (hlast : property.ComesTo last)
    (hname : last.className? = some name)
    (h : (propertyType owner property).EndsIn answers type) : name ∈ type.names := by
  obtain ⟨found, hfound, hcalled⟩ := exists_calledAs_propertyType hlast h
  rwa [← hcalled.eq_of_own hname]

/-- A field that is typed by one name alone stands for an object, which a class stands
for under this name and which, if it is held by value, does not lead back; or the name
is built-in. -/
theorem eq_of_propertyType (h : (propertyType owner property).EndsIn answers type)
    (hdirect : type.arguments = []) :
    (property.HasClass ∧ property.CalledAs answers type.base ∧
        (property.isByValue = true → property.leadsTo owner.id = false)) ∨
      property.isObject = false ∧ type.base ∈ builtInNames := by
  obtain ⟨own, hown, rfl⟩ := endsIn_propertyType.mp h
  split at hdirect
  · cases hdirect
  · next hstays =>
    rw [if_neg hstays]
    rcases property.kinds with ⟨content, hcontent⟩ | hclass | ⟨hplain, hcontent⟩
    · obtain ⟨wrap, hwrap, htype⟩ := fieldType_of_content hcontent
      rw [Schema.type, Schema.typeInside, htype] at hown
      obtain ⟨inner, -, rfl⟩ := Decoration.endsIn_map.mp hown
      exact absurd hdirect (TypeRef.arguments_wrapper hwrap inner)
    · refine .inl ⟨hclass, (eq_of_fieldType hclass hown).2, fun hvalue => ?_⟩
      simpa [hvalue] using hstays
    · obtain ⟨plain, hbuilt, htype⟩ := fieldType_of_plain hplain hcontent
      rw [Schema.type, Schema.typeInside, htype] at hown
      obtain rfl : plain = own := hown
      obtain ⟨base, arguments⟩ := plain
      exact .inr ⟨hplain, hbuilt List.mem_cons_self⟩

end ApiClasses
