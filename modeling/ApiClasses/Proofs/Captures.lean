import ApiClasses.Proofs.Sizes

/-!
# Class names that stand for one thing

A field that holds an object is typed by a class name, and the reader of the code has no more
than this name to tell what is meant. The names come from two sources: objects with a class
name of their own use it, all others are asked for and get a name that is put together from
the settings.

Names of the second kind are never built-in and tell the schemas of one class apart
(`Generates.id_eq_of_answers`), and the objects at the top level have different class names.
So where two fields of a class for different objects share a name, or one has the name of a
built-in type, an object captures it with its own class name (`fields_apart_iff`).
-/

namespace ApiClasses

variable {text code name : String} {root : Json} {doc : Document} {trees : List ClassTree}
  {resourceClasses : List ClassDecl} {spot : Spot} {field : ClassField}

/-! ## Names in types of fields -/

namespace TypeRef

/-- The type without the box around it. -/
def unboxed : TypeRef → TypeRef
  | ⟨"Option", [⟨"Box", [type]⟩]⟩ => type
  | type => type

theorem unboxed_boxed (type : TypeRef) : type.boxed.unboxed = type := rfl

theorem unboxed_of_direct {type : TypeRef} (h : type.arguments = []) : type.unboxed = type := by
  obtain ⟨base, arguments⟩ := type
  obtain rfl : arguments = [] := h
  rw [unboxed]
  exact nofun

end TypeRef

/-- The names of the built-in types that stand where the name of a class could. -/
def emittedNames : List String := ["String", "Vec", "HashMap", "Option", "Box"]

/-- The field of an object is typed by the name under which a class stands for it. -/
theorem Types.calledAs {arena : Arena} {answers : List (NodeId × String)} {owner : Schema arena}
    {property : String × Schema arena} (h : Types answers owner property field)
    (hclass : property.2.HasClass) : property.2.CalledAs answers field.type.unboxed.base := by
  obtain ⟨own, hown, htype⟩ := endsIn_propertyType.mp h
  obtain ⟨hdirect, hcalled⟩ := eq_of_fieldType hclass hown
  have hunboxed : field.type.unboxed = own := by
    rw [htype]
    split
    · exact own.unboxed_boxed
    · exact TypeRef.unboxed_of_direct hdirect
  rwa [hunboxed]

/-! ## Fields of one class -/

/-- The class names in the fields of a class are not built-in, and those of fields for
different objects are different. -/
def FieldsApart (arena : Arena) (trees : List ClassTree) : Prop :=
  ∀ spot : Spot, spot.In trees → ∀ owner : Schema arena, owner.id = spot.tree.schema →
    ∀ one ∈ List.zip owner.properties spot.tree.decl.fields, one.1.2.HasClass →
      one.2.type.unboxed.base ∉ emittedNames ∧
        ∀ other ∈ List.zip owner.properties spot.tree.decl.fields, other.1.2.HasClass →
          other.1.2.id ≠ one.1.2.id → other.2.type.unboxed.base ≠ one.2.type.unboxed.base

/-- The property captures the name: it is the property's own class name, and it is built-in,
or a sibling without a class name is asked for under it, or it is the class name of another
sibling as well, while the property is none of the schemas at the top level. -/
def Captures (doc : Document) (spot : Spot) (owner property : Schema doc.arena) (name : String) :
    Prop :=
  property.className? = some name ∧
    (name ∈ emittedNames ∨ ∃ other ∈ owner.properties.map (·.2), other.HasClass ∧
      (other.className? = none ∧ (other.id, name) ∈ spot.tree.answers ∨
        other.className? = some name ∧ other.id ≠ property.id ∧
          ∀ entry ∈ doc.schemas, entry.2 ≠ property.id))

/-- What is put together from the standard settings is not built-in. -/
theorem notMem_emittedNames_of_isNested (h : Settings.IsNested {} name) : name ∉ emittedNames := by
  obtain ⟨trail, number, rfl⟩ := h
  have hinitial : ∀ name ∈ emittedNames, name.toList.head? ≠ some 'N' := by decide
  intro hmem
  refine hinitial _ hmem ?_
  simp [Settings.nestedName]

namespace Generates

variable (h : Generates text root doc trees resourceClasses code)

include h

/-- The fields of a class are those of the properties of its schema. -/
theorem types_of_in (hspot : spot.In trees) {owner : Schema doc.arena}
    (hid : owner.id = spot.tree.schema) :
    List.Forall₂ (Types spot.tree.answers owner) owner.properties spot.tree.decl.fields := by
  obtain ⟨tree, htree, hdescent⟩ := hspot
  obtain ⟨entry, -, hgrown⟩ := h.exists_entry htree
  obtain ⟨schema, hschema, htypes, -⟩ := Arena.fields_of_descent hgrown hdescent
  obtain rfl : owner = schema := Schema.ext (hid.trans hschema.symm)
  exact htypes

/-- An object without a class name is asked for under one name, which is put together from
the settings and means some class. -/
theorem answer_of_nameless (hspot : spot.In trees) {property : Schema doc.arena}
    (hnameless : property.className? = none) (hanswer : (property.id, name) ∈ spot.tree.answers) :
    Settings.IsNested {} name ∧
      (∃ other, Means trees (spot.tree :: spot.around) name other) ∧
      ∀ other, (property.id, other) ∈ spot.tree.answers → other = name := by
  obtain ⟨tree, htree, hdescent⟩ := hspot
  obtain ⟨entry, -, hgrown⟩ := h.exists_entry htree
  obtain ⟨top, topName, site, left, htop, hname, -, hschema, hplaced⟩ :=
    Arena.exists_placed hgrown hdescent
  -- the object at the top has a class name
  have hinside : property.id ≠ tree.schema := by
    intro heq
    obtain rfl : property = top := Schema.ext (heq.trans (hschema.trans htop.symm))
    cases hnameless.symm.trans hname
  have houter : ∀ entry ∈ (top.site (Decorator.standard {}) {} topName).before.outer,
      entry.1 = tree.schema := by
    intro entry hentry
    obtain rfl := top.site_outer topName entry hentry
    exact htop.trans hschema.symm
  refine ⟨?_, ?_, fun other hother => hplaced.answers_unique hother hanswer⟩
  · have hnested := hplaced.answer_nested (top.site_tidy topName) houter hanswer
    exact hnested.resolve_left hinside
  · obtain ⟨_, -, -, hdeclared⟩ := Arena.fields_of_descent hgrown hdescent
    rcases hdeclared _ hanswer with ⟨heq, -⟩ | ⟨outer, hmem, d, hd, -, hcalled, -⟩
    · exact absurd heq hinside
    · exact exists_means (.inr ⟨outer, hmem, d, hd, hcalled⟩)

/-- Objects without a class name that are asked for under one name are one. -/
theorem id_eq_of_answers (hspot : spot.In trees) {one other : Schema doc.arena}
    (hone : one.className? = none) (hother : other.className? = none)
    (honeAnswer : (one.id, name) ∈ spot.tree.answers)
    (hotherAnswer : (other.id, name) ∈ spot.tree.answers) : one.id = other.id := by
  obtain ⟨-, ⟨meant, hmeans⟩, -⟩ := h.answer_of_nameless hspot hone honeAnswer
  have honeMeant := h.means_of_answer hspot hone honeAnswer hmeans
  have hotherMeant := h.means_of_answer hspot hother hotherAnswer hmeans
  exact honeMeant.symm.trans hotherMeant

/-- Objects at the top level that have one class name are one. -/
theorem id_eq_of_classNames {one other : Schema doc.arena} {entry entry' : String × NodeId}
    (hentry : entry ∈ doc.schemas) (hone : one.id = entry.2) (hentry' : entry' ∈ doc.schemas)
    (hother : other.id = entry'.2) (honeObject : one.isObject = true)
    (hotherObject : other.isObject = true) (honeName : one.className? = some name)
    (hotherName : other.className? = some name) : one.id = other.id := by
  obtain ⟨tree, htree, hschema, hcalled⟩ := h.exists_tree hentry hone honeObject honeName
  exact hschema.symm.trans
    (h.schema_of_top hentry' hother hotherObject hotherName htree hcalled)

/-- Every property has its field. -/
theorem exists_field (hspot : spot.In trees) {owner property : Schema doc.arena}
    (hid : owner.id = spot.tree.schema) (hproperty : property ∈ owner.properties.map (·.2)) :
    ∃ entry ∈ List.zip owner.properties spot.tree.decl.fields, entry.1.2 = property := by
  have hlength := (h.types_of_in hspot hid).length_eq
  rw [← List.map_fst_zip (Nat.le_of_eq hlength), List.map_map] at hproperty
  exact List.mem_map.mp hproperty

/-- The field of an object is typed by a name of the object. -/
theorem calledAs_of_mem (hspot : spot.In trees) {owner : Schema doc.arena}
    (hid : owner.id = spot.tree.schema) {entry : (String × Schema doc.arena) × ClassField}
    (hentry : entry ∈ List.zip owner.properties spot.tree.decl.fields)
    (hclass : entry.1.2.HasClass) :
    entry.1.2.CalledAs spot.tree.answers entry.2.type.unboxed.base :=
  Types.calledAs (List.forall₂_zip (h.types_of_in hspot hid) hentry) hclass

/-- Of two objects under one name, one has captured it. -/
theorem captures_or_captures (hspot : spot.In trees) {owner one other : Schema doc.arena}
    (hone : one ∈ owner.properties.map (·.2)) (hother : other ∈ owner.properties.map (·.2))
    (honeClass : one.HasClass) (hotherClass : other.HasClass) (hne : other.id ≠ one.id)
    (honeCalled : one.CalledAs spot.tree.answers name)
    (hotherCalled : other.CalledAs spot.tree.answers name) :
    Captures doc spot owner one name ∨ Captures doc spot owner other name := by
  rcases honeCalled with honeName | ⟨honeNone, honeAnswer⟩
  · rcases hotherCalled with hotherName | ⟨hotherNone, hotherAnswer⟩
    · -- not both of them are at the top level
      by_cases honeTop : ∀ entry ∈ doc.schemas, entry.2 ≠ one.id
      · exact .inl ⟨honeName, .inr ⟨other, hother, hotherClass, .inr ⟨hotherName, hne, honeTop⟩⟩⟩
      · refine .inr ⟨hotherName, .inr ⟨one, hone, honeClass, .inr ⟨honeName, hne.symm, ?_⟩⟩⟩
        intro entry hentry hotherId
        refine honeTop fun entry' hentry' honeId => hne ?_
        exact h.id_eq_of_classNames hentry hotherId.symm hentry' honeId.symm hotherClass.1
          honeClass.1 hotherName honeName
    · exact .inl ⟨honeName, .inr ⟨other, hother, hotherClass, .inl ⟨hotherNone, hotherAnswer⟩⟩⟩
  · rcases hotherCalled with hotherName | ⟨hotherNone, hotherAnswer⟩
    · exact .inr ⟨hotherName, .inr ⟨one, hone, honeClass, .inl ⟨honeNone, honeAnswer⟩⟩⟩
    · exact absurd (h.id_eq_of_answers hspot hotherNone honeNone hotherAnswer honeAnswer) hne

end Generates

/-- **Names are captured by own class names only**: if a text generates code, the class names
in the fields of each class are not built-in and different for different objects, exactly if
no property captures a name. -/
theorem fields_apart_iff (h : generate text = .ok code) :
    ∃ root doc trees resourceClasses, Generates text root doc trees resourceClasses code ∧
      (FieldsApart doc.arena trees ↔
        ∀ spot : Spot, spot.In trees → ∀ owner : Schema doc.arena, owner.id = spot.tree.schema →
          ∀ property ∈ owner.properties.map (·.2), property.HasClass →
            ∀ name, ¬ Captures doc spot owner property name) := by
  obtain ⟨root, doc, trees, resourceClasses, hgen⟩ := exists_generates h
  refine ⟨root, doc, trees, resourceClasses, hgen, ?_, ?_⟩
  · rintro hapart spot hspot owner hid property hproperty hclass name ⟨hname, hcaptures⟩
    obtain ⟨one, hone, rfl⟩ := hgen.exists_field hspot hid hproperty
    have honeBase := (hgen.calledAs_of_mem hspot hid hone hclass).eq_of_own hname
    obtain ⟨hbuilt, hdistinct⟩ := hapart spot hspot owner hid one hone hclass
    rw [honeBase] at hbuilt hdistinct
    rcases hcaptures with hemitted | ⟨other, hother, hotherClass, hshares⟩
    · exact hbuilt hemitted
    · obtain ⟨two, htwo, rfl⟩ := hgen.exists_field hspot hid hother
      have htwoCalled := hgen.calledAs_of_mem hspot hid htwo hotherClass
      rcases hshares with ⟨hnone, hanswer⟩ | ⟨hotherName, hne, -⟩
      · -- the sibling is called as it was answered, and it is another one
        obtain ⟨-, htwoAnswer⟩ := htwoCalled.resolve_left fun hown => nomatch hnone.symm.trans hown
        obtain ⟨-, -, hunique⟩ := hgen.answer_of_nameless hspot hnone hanswer
        refine hdistinct two htwo hotherClass (fun heq => ?_) (hunique _ htwoAnswer)
        rw [Schema.ext heq] at hnone
        cases hnone.symm.trans hname
      · exact hdistinct two htwo hotherClass hne (htwoCalled.eq_of_own hotherName)
  · intro hnone spot hspot owner hid one hone hclass
    have hcalled := hgen.calledAs_of_mem hspot hid hone hclass
    have hmem {entry : (String × Schema doc.arena) × ClassField}
        (hentry : entry ∈ List.zip owner.properties spot.tree.decl.fields) :
        entry.1.2 ∈ owner.properties.map (·.2) := List.mem_map_of_mem (List.of_mem_zip hentry).1
    refine ⟨fun hemitted => ?_, fun other hother hotherClass hne heq => ?_⟩
    · rcases hcalled with hown | ⟨hnameless, hanswer⟩
      · exact hnone spot hspot owner hid _ (hmem hone) hclass _ ⟨hown, .inl hemitted⟩
      · obtain ⟨hnested, -, -⟩ := hgen.answer_of_nameless hspot hnameless hanswer
        exact notMem_emittedNames_of_isNested hnested hemitted
    · have hotherCalled := hgen.calledAs_of_mem hspot hid hother hotherClass
      rw [heq] at hotherCalled
      rcases hgen.captures_or_captures hspot (hmem hone) (hmem hother) hclass hotherClass hne
        hcalled hotherCalled with hcaptures | hcaptures
      · exact hnone spot hspot owner hid _ (hmem hone) hclass _ hcaptures
      · exact hnone spot hspot owner hid _ (hmem hother) hotherClass _ hcaptures

/-! ## A captured name -/

/-- One property of `A` is an object without a name, the other one refers to an object that
is called as the first one is going to be. -/
def capturedText : String :=
  "\x7b\"schemas\":\x7b\"A\":\x7b\"properties\":\x7b\"x\":\x7b\"type\":\"object\"\x7d,\"y\":" ++
    "\x7b\"$ref\":\"NestedClass1\"\x7d\x7d\x7d,\"NestedClass1\":\x7b\"type\":\"object\"\x7d\x7d\x7d"

/-- What is read from it. -/
def capturedRoot : Json :=
  .object [("schemas", .object [
    ("A", .object [("properties", .object [("x", .object [("type", .string "object")]),
      ("y", .object [("$ref", .string "NestedClass1")])])]),
    ("NestedClass1", .object [("type", .string "object")])])]

/-- The schemas of that document. -/
def capturedArena : Arena :=
  ⟨#[⟨some "A", none, .object [⟨"x", ⟨1⟩⟩, ⟨"y", ⟨2⟩⟩] none⟩, ⟨none, none, .object [] none⟩,
    ⟨some "NestedClass1", none, .object [] none⟩]⟩

theorem read_capturedText : Json.read capturedText = .ok capturedRoot := by
  unfold capturedText
  simp only [String.reduceAppend]
  exact Json.read_ofList (by decide)

theorem load_capturedText : (Document.load capturedText).toOption.map
    (fun doc => (doc.schemas, doc.arena, doc.resources.length)) =
      some ([("A", ⟨0⟩), ("NestedClass1", ⟨2⟩)], capturedArena, 0) := by
  rw [Document.load, read_capturedText]
  decide

theorem generate_capturedText : ∃ code, generate capturedText = .ok code := by
  refine exists_code ?_
  rw [generateClasses, Document.load, read_capturedText]
  decide +kernel

/-- Whatever is generated for the document, two fields for different objects share a name. -/
theorem not_fieldsApart_capturedText
    (h : Generates capturedText root doc trees resourceClasses code) :
    ¬ FieldsApart doc.arena trees := by
  obtain ⟨tree, htree, hschema, hfields⟩ : ∃ tree,
      capturedArena.classTree (Decorator.standard {}) {} ⟨0⟩ = .ok tree ∧ tree.schema = ⟨0⟩ ∧
        tree.decl.fields =
          [⟨"x", ⟨"NestedClass1", []⟩, none, none⟩, ⟨"y", ⟨"NestedClass1", []⟩, none, none⟩] :=
    ⟨_, rfl, rfl, by decide⟩
  obtain ⟨other, hother⟩ : ∃ other,
      capturedArena.classTree (Decorator.standard {}) {} ⟨2⟩ = .ok other := ⟨_, rfl⟩
  obtain ⟨rfl, -, harena⟩ := h.of_objects load_capturedText (by decide)
    (.cons htree (.cons hother .nil))
  rw [harena]
  intro hapart
  have hin : Spot.In ⟨tree, []⟩ [tree, other] := ⟨tree, List.mem_cons_self, .top⟩
  have hdistinct := hapart ⟨tree, []⟩ hin ⟨⟨0⟩, by decide⟩ hschema.symm
  rw [hfields] at hdistinct
  have hx := hdistinct _ (.head _) ⟨by decide, by decide⟩
  exact hx.2 _ (.tail _ (.head _)) ⟨by decide, by decide⟩ (by decide) rfl

/-- Both fields are of the type `NestedClass1`. -/
theorem captured_together : ∃ code root doc trees resourceClasses,
    generate capturedText = .ok code ∧
      Generates capturedText root doc trees resourceClasses code ∧
      ¬ FieldsApart doc.arena trees := by
  obtain ⟨code, hcode⟩ := generate_capturedText
  obtain ⟨root, doc, trees, resourceClasses, hgen⟩ := exists_generates hcode
  exact ⟨code, root, doc, trees, resourceClasses, hcode, hgen, not_fieldsApart_capturedText hgen⟩

/-- The cause is a property that captures the name. -/
theorem captured_by_own_name : ∃ code root doc trees resourceClasses,
    generate capturedText = .ok code ∧
      Generates capturedText root doc trees resourceClasses code ∧
      ∃ spot : Spot, spot.In trees ∧ ∃ owner : Schema doc.arena, owner.id = spot.tree.schema ∧
        ∃ property ∈ owner.properties.map (·.2), property.HasClass ∧
          ∃ name, Captures doc spot owner property name := by
  obtain ⟨code, hcode⟩ := generate_capturedText
  obtain ⟨root, doc, trees, resourceClasses, hgen, hiff⟩ := fields_apart_iff hcode
  refine ⟨code, root, doc, trees, resourceClasses, hcode, hgen, ?_⟩
  by_contra hnone
  refine not_fieldsApart_capturedText hgen (hiff.mpr ?_)
  intro spot hspot owner hid property hproperty hclass name hcaptures
  exact hnone ⟨spot, hspot, owner, hid, property, hproperty, hclass, name, hcaptures⟩

end ApiClasses
