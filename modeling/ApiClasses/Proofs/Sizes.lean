import ApiClasses.Proofs.Chains
import ApiClasses.Proofs.Meanings
import ApiClasses.Proofs.Scopes

/-!
# Classes of finite size

A class whose fields hold it by value, directly or through other classes, would be
infinitely large, so a field that would close such a circle is boxed. What decides is
chains of schemas, and what counts in the end is chains of classes. The two agree as long
as the type of a field means the class of the property's own schema: then every step of a
circle of classes is a step of a circle of schemas, which the search would have found
(`leadsTo_iff`).

The type of a nameless object always means its own class (`Placed.answer_means`). A field
can only go astray where an object has a class name of its own, which some other class
has as well, or where a class is called like a built-in type. So circles of classes are
exactly the circles that pass through such a field (`finite_size_iff`).
-/

namespace ApiClasses

open Loading (Mirrors)
open Relation (ReflTransGen TransGen)

variable {text code : String} {root : Json} {doc : Document} {trees : List ClassTree}
  {resourceClasses : List ClassDecl} {arena : Arena} {spot other : Spot}

/-! ## Fields by value -/

/-- The class at the first spot has a field that is by itself of the type of the class at
the second one, not inside another type. -/
def Contains (trees : List ClassTree) (spot other : Spot) : Prop :=
  ∃ field ∈ spot.tree.decl.fields, field.type.arguments = [] ∧
    Means trees (spot.tree :: spot.around) field.type.base other

/-- Why a name that the type of a property takes may mean a class that is not the
property's: the schema has the name as its own, but it is none of those at the top level,
or else a class further in is meant; or the type is built-in. -/
def Misleading (doc : Document) (property : Schema doc.arena) (name : String) (spot : Spot) :
    Prop :=
  property.className? = some name ∧
      ((∀ entry ∈ doc.schemas, entry.2 ≠ property.id) ∨ spot.around ≠ []) ∨
    property.isObject = false ∧ name ∈ builtInNames

/-- Such a field stands for a property whose type misleads, and the class that its type
means is generated from another schema than the property's. -/
def Astray (doc : Document) (trees : List ClassTree) (spot other : Spot) : Prop :=
  ∃ owner : Schema doc.arena, owner.id = spot.tree.schema ∧
    ∃ entry ∈ List.zip owner.properties spot.tree.decl.fields,
      Misleading doc entry.1.2 entry.2.type.base other ∧ entry.2.type.arguments = [] ∧
      Means trees (spot.tree :: spot.around) entry.2.type.base other ∧
      other.tree.schema ≠ entry.1.2.id

/-- Such a field stands for a property that is held by value and does not lead back, and
the class that its type means is generated from the property's schema. -/
def Faithful (arena : Arena) (spot other : Spot) : Prop :=
  ∃ owner property : Schema arena, owner.id = spot.tree.schema ∧
    property.id = other.tree.schema ∧ owner.Holds property ∧ property.leadsTo owner.id = false

theorem Contains.spot_in (h : Contains trees spot other) (hspot : spot.In trees) :
    other.In trees := by
  obtain ⟨_, _, _, hmeans⟩ := h
  refine hmeans.spot_in ?_
  rintro c rest ⟨⟩
  exact hspot

/-- A field that goes astray is a field all the same. -/
theorem Astray.contains (h : Astray doc trees spot other) : Contains trees spot other := by
  obtain ⟨owner, -, entry, hentry, -, hdirect, hmeans, -⟩ := h
  exact ⟨entry.2, (List.of_mem_zip hentry).2, hdirect, hmeans⟩

/-! ## Circles -/

/-- Faithful fields follow a chain of properties held by value. -/
theorem holds_of_faithful (h : ReflTransGen (Faithful arena) spot other) {schema : Schema arena}
    (hid : schema.id = spot.tree.schema) :
    ∃ last : Schema arena, ReflTransGen Schema.Holds schema last ∧
      last.id = other.tree.schema := by
  induction h with
  | refl => exact ⟨schema, .refl, hid⟩
  | tail _ hstep ih =>
    obtain ⟨last, hpath, hlast⟩ := ih
    obtain ⟨owner, property, howner, hproperty, hholds, -⟩ := hstep
    obtain rfl : last = owner := Schema.ext (hlast.trans howner.symm)
    exact ⟨property, hpath.tail hholds, hproperty⟩

/-- There are no circles of faithful fields. -/
theorem not_faithful_circle : ¬ TransGen (Faithful arena) spot spot := by
  intro hcircle
  obtain ⟨next, ⟨owner, property, howner, hproperty, -, hnot⟩, hback⟩ :=
    TransGen.head'_iff.mp hcircle
  obtain ⟨last, hpath, hlast⟩ := holds_of_faithful hback hproperty
  have hleads : property.leadsTo owner.id = true :=
    leadsTo_iff.mpr ⟨last, hpath, hlast.trans howner.symm⟩
  rw [hnot] at hleads
  cases hleads

/-! ## Loaded arenas -/

theorem exists_of_rel_some {α β : Type} {R : α → β → Prop} {value? : Option α} {b : β}
    (h : Option.Rel R value? (some b)) : ∃ a, R a b := by
  cases h with
  | some hrel => exact ⟨_, hrel⟩

/-- In the arena of a document, what an object says about other keys is in the arena. -/
theorem Charts.additional_in {place : Schema arena → String} (h : Charts root place)
    (schema : Schema arena) {id : NodeId} (hid : schema.shape.additional = some id) :
    ∃ child : Schema arena, child.id = id := by
  obtain ⟨members, hmembers⟩ := h.mirrors schema
  have hchildren := hmembers.children
  unfold Shape.additional at hid
  split at hid
  · next hshape =>
    obtain rfl := hid
    rw [hshape] at hchildren
    obtain ⟨_, child, hchild, -⟩ := exists_of_rel_some hchildren.2
    exact ⟨child, hchild⟩
  · cases hid

/-- There, an object that a class stands for is held by value. -/
theorem Charts.isByValue {place : Schema arena → String} (h : Charts root place)
    {schema : Schema arena} (hclass : schema.HasClass) : schema.isByValue = true := by
  obtain ⟨hobject, hcontent⟩ := hclass
  unfold Schema.isObject Shape.isObject at hobject
  split at hobject
  · next properties additional hshape =>
    simp only [Schema.content?, hshape] at hcontent
    simp only [Schema.isByValue, hshape]
    rcases hname : schema.className? with _ | name
    · rcases properties with _ | ⟨property, rest⟩
      · -- a mere map has an id for its values, and that is in the arena
        rcases additional with _ | id
        · rfl
        · obtain ⟨child, rfl⟩ := h.additional_in schema (congrArg Shape.additional hshape)
          simp [hname, Schema.additional, hshape, Shape.additional] at hcontent
      · rfl
    · rfl
  · cases hobject

/-! ## Fields that are faithful and fields that go astray -/

namespace Generates

variable {place : Schema doc.arena → String}

/-- The class at a spot has grown in a tree of an object that has the name of the tree's
class. -/
theorem exists_placed (h : Generates text root doc trees resourceClasses code)
    (hspot : spot.In trees) :
    ∃ (tree : ClassTree) (schema : Schema doc.arena) (name : String) (site : Site doc.arena)
      (left : Nesting doc.arena), schema.id = tree.schema ∧ schema.isObject = true ∧
        schema.className? = some name ∧
        Placed (Decorator.standard {}) (schema.site (Decorator.standard {}) {} name) tree
          spot.around spot.tree site left := by
  obtain ⟨tree, htree, hdescent⟩ := hspot
  obtain ⟨entry, hentry, hgrown⟩ := h.exists_entry htree
  obtain ⟨schema, name, site, left, hid, hname, -, htop, hplaced⟩ :=
    Arena.exists_placed hgrown hdescent
  obtain ⟨-, hobject⟩ := (Document.mem_objectSchemas_iff hid).mp hentry
  exact ⟨tree, schema, name, site, left, hid.trans htop.symm, hobject, hname, hplaced⟩

/-- Classes stand for objects. -/
theorem isObject_of_in (h : Generates text root doc trees resourceClasses code)
    (hspot : spot.In trees) {schema : Schema doc.arena} (hid : schema.id = spot.tree.schema) :
    schema.isObject = true := by
  obtain ⟨tree, top, name, site, left, -, hobject, -, hplaced⟩ := h.exists_placed hspot
  obtain rfl : schema = site.schema := Schema.ext (hid.trans hplaced.grown.schema)
  exact hplaced.isObject_standard hobject

/-- The name that a nameless object is asked for under means its own class. -/
theorem means_of_answer (h : Generates text root doc trees resourceClasses code)
    (hspot : spot.In trees) {property : Schema doc.arena} {name : String}
    (hnameless : property.className? = none) (hanswer : (property.id, name) ∈ spot.tree.answers)
    (hmeans : Means trees (spot.tree :: spot.around) name other) :
    other.tree.schema = property.id := by
  obtain ⟨tree, top, topName, site, left, htop, -, hname, hplaced⟩ := h.exists_placed hspot
  have houter : ∀ entry ∈ (top.site (Decorator.standard {}) {} topName).before.outer,
      entry.1 = tree.schema := by
    intro entry hentry
    obtain rfl := top.site_outer topName entry hentry
    exact htop
  rcases hplaced.answer_means (Decorator.standard_appendsOnly {}) (top.site_tidy topName) houter
    hanswer hmeans with heq | hown
  · -- the object at the top has a class name
    obtain rfl : property = top := Schema.ext (heq.trans htop.symm)
    cases hnameless.symm.trans hname
  · exact hown

/-- A class at the top level that has the class name of a schema at the top level is
generated from it. -/
theorem schema_of_top (h : Generates text root doc trees resourceClasses code)
    {entry : String × NodeId} {schema : Schema doc.arena} {name : String} {tree : ClassTree}
    (hentry : entry ∈ doc.schemas) (hid : schema.id = entry.2) (hobject : schema.isObject = true)
    (hname : schema.className? = some name) (htree : tree ∈ trees)
    (hcalled : tree.decl.name = name) : tree.schema = schema.id := by
  obtain ⟨own, hown, hschema, hdecl⟩ := h.exists_tree hentry hid hobject hname
  have hdistinct := h.distinct
  rw [List.map_append, List.map_map] at hdistinct
  have hnames := hdistinct.of_append_left
  have hsame : own.decl.name = tree.decl.name := hdecl.trans hcalled.symm
  obtain rfl : own = tree := List.inj_on_of_nodup_map hnames hown htree hsame
  exact hschema

/-- A class that another one contains is contained by a faithful field or by one that goes
astray. -/
theorem faithful_or_astray (h : Generates text root doc trees resourceClasses code)
    (hcharts : Charts root place) (hspot : spot.In trees) (hcontains : Contains trees spot other) :
    Faithful doc.arena spot other ∨ Astray doc trees spot other := by
  have hother := hcontains.spot_in hspot
  obtain ⟨tree, top, name, site, left, -, -, -, hplaced⟩ := h.exists_placed hspot
  obtain ⟨field, hfield, hdirect, hmeans⟩ := hcontains
  have hschema := hplaced.grown.schema.symm
  have htypes := hplaced.fields_standard
  -- the property that the field stands for
  rw [← List.map_snd_zip (Nat.le_of_eq htypes.length_eq.symm)] at hfield
  obtain ⟨⟨⟨key, property⟩, _⟩, hentry, rfl⟩ := List.mem_map.mp hfield
  have hproperty : (key, property) ∈ site.schema.properties := (List.of_mem_zip hentry).1
  rcases eq_of_propertyType (List.forall₂_zip htypes hentry) hdirect with
    ⟨hclass, hcalled, hstays⟩ | ⟨hplain, hbuilt⟩
  · have hvalue := hcharts.isByValue hclass
    have hholds : site.schema.Holds property :=
      List.mem_filter.mpr ⟨List.mem_map.mpr ⟨_, hproperty, rfl⟩, hvalue⟩
    by_cases hsame : property.id = other.tree.schema
    · exact .inl ⟨site.schema, property, hschema, hsame, hholds, hstays hvalue⟩
    · rcases hcalled with hown | ⟨hnameless, hanswer⟩
      · refine .inr ⟨site.schema, hschema, _, hentry, .inl ⟨hown, ?_⟩, hdirect, hmeans,
          Ne.symm hsame⟩
        by_cases htop : other.around = []
        · -- if both are at the top level, they are one
          refine .inl fun entry hlisted hid => ?_
          obtain ⟨htree, hcalled⟩ := hmeans.at_top htop
          exact hsame (h.schema_of_top hlisted hid.symm hclass.1 hown htree hcalled).symm
        · exact .inr htop
      · exact absurd (h.means_of_answer hspot hnameless hanswer hmeans).symm hsame
  · -- no class stands for what is no object
    refine .inr ⟨site.schema, hschema, _, hentry, .inr ⟨hplain, hbuilt⟩, hdirect, hmeans, ?_⟩
    intro hsame
    have hobject := h.isObject_of_in hother hsame.symm
    rw [hplain] at hobject
    cases hobject

/-- A way from class to class is faithful all along, or a field goes astray on it. -/
theorem path_faithful_or_astray (h : Generates text root doc trees resourceClasses code)
    (hcharts : Charts root place) (hspot : spot.In trees)
    (hpath : TransGen (Contains trees) spot other) :
    TransGen (Faithful doc.arena) spot other ∨
      ∃ one two, one.In trees ∧ Astray doc trees one two ∧
        ReflTransGen (Contains trees) spot one ∧ ReflTransGen (Contains trees) two other := by
  have hin {last : Spot} (hway : ReflTransGen (Contains trees) spot last) : last.In trees := by
    induction hway with
    | refl => exact hspot
    | tail _ hstep ih => exact hstep.spot_in ih
  induction hpath with
  | single hstep =>
    rcases h.faithful_or_astray hcharts hspot hstep with hfaithful | hastray
    · exact .inl (.single hfaithful)
    · exact .inr ⟨_, _, hspot, hastray, .refl, .refl⟩
  | tail hway hstep ih =>
    rcases ih with hfaithful | ⟨one, two, hone, hastray, hbefore, hafter⟩
    · have hmiddle := hin hway.to_reflTransGen
      rcases h.faithful_or_astray hcharts hmiddle hstep with hlast | hastray
      · exact .inl (hfaithful.tail hlast)
      · exact .inr ⟨_, _, hmiddle, hastray, hway.to_reflTransGen, .refl⟩
    · exact .inr ⟨one, two, hone, hastray, hbefore, hafter.tail hstep⟩

end Generates

/-- **Classes have finite size up to fields that go astray**: if a text generates code,
no class contains itself by value, exactly if no field that goes astray lies on a circle.
-/
theorem finite_size_iff (h : generate text = .ok code) :
    ∃ root doc trees resourceClasses, Generates text root doc trees resourceClasses code ∧
      ((∀ spot : Spot, spot.In trees → ¬ TransGen (Contains trees) spot spot) ↔
        ∀ spot other : Spot, spot.In trees → Astray doc trees spot other →
          ¬ ReflTransGen (Contains trees) other spot) := by
  obtain ⟨root, doc, trees, resourceClasses, hgen⟩ := exists_generates h
  obtain ⟨place, hcharts, -⟩ := hgen.exists_places
  refine ⟨root, doc, trees, resourceClasses, hgen, ?_, ?_⟩
  · intro hfinite spot other hspot hastray hback
    exact hfinite spot hspot (TransGen.head' hastray.contains hback)
  · intro hnone spot hspot hcircle
    rcases hgen.path_faithful_or_astray hcharts hspot hcircle with
      hfaithful | ⟨one, two, hone, hastray, hbefore, hafter⟩
    · exact not_faithful_circle hfaithful
    · exact hnone one two hone hastray (hafter.trans hbefore)

/-! ## A namesake -/

/-- The property of `A` is an object that its `id` calls `A` as well. -/
def namesakeText : String :=
  "\x7b\"schemas\":\x7b\"A\":\x7b\"properties\":\x7b\"x\":\x7b\"id\":\"A\",\"type\":" ++
    "\"object\"\x7d\x7d\x7d\x7d\x7d"

/-- What is read from it. -/
def namesakeRoot : Json :=
  .object [("schemas", .object [("A", .object [
    ("properties", .object [("x", .object [("id", .string "A"), ("type", .string "object")])])])])]

/-- The schemas of that document. -/
def namesakeArena : Arena :=
  ⟨#[⟨some "A", none, .object [⟨"x", ⟨1⟩⟩] none⟩, ⟨some "A", none, .object [] none⟩]⟩

theorem read_namesakeText : Json.read namesakeText = .ok namesakeRoot := by
  unfold namesakeText
  simp only [String.reduceAppend]
  exact Json.read_ofList (by decide)

theorem load_namesakeText : (Document.load namesakeText).toOption.map
    (fun doc => (doc.schemas, doc.arena, doc.resources.length)) =
      some ([("A", ⟨0⟩)], namesakeArena, 0) := by
  rw [Document.load, read_namesakeText]
  decide

theorem generate_namesakeText : ∃ code, generate namesakeText = .ok code := by
  refine exists_code ?_
  rw [generateClasses, Document.load, read_namesakeText]
  decide +kernel

/-- Whatever is generated for the document, its class contains itself. -/
theorem circle_namesakeText (h : Generates namesakeText root doc trees resourceClasses code) :
    ∃ spot : Spot, spot.In trees ∧ TransGen (Contains trees) spot spot := by
  obtain ⟨tree, htree, hname, hinner, hfields⟩ : ∃ tree,
      namesakeArena.classTree (Decorator.standard {}) {} ⟨0⟩ = .ok tree ∧ tree.decl.name = "A" ∧
        tree.inner.length = 0 ∧ tree.decl.fields = [⟨"x", ⟨"A", []⟩, none, none⟩] :=
    ⟨_, rfl, by decide, rfl, by decide⟩
  obtain ⟨rfl, -, -⟩ := h.of_objects load_namesakeText (by decide) (.cons htree .nil)
  refine ⟨⟨tree, []⟩, ⟨tree, List.mem_cons_self, .top⟩, .single ?_⟩
  refine ⟨_, hfields ▸ List.mem_cons_self, rfl, .outward ?_ (.top List.mem_cons_self hname)⟩
  rw [List.length_eq_zero_iff.mp hinner]
  exact fun _ hmem => absurd hmem List.not_mem_nil

/-- `A` has a field of the type `A`. -/
theorem namesake_infinite : ∃ code root doc trees resourceClasses,
    generate namesakeText = .ok code ∧
      Generates namesakeText root doc trees resourceClasses code ∧
      ∃ spot : Spot, spot.In trees ∧ TransGen (Contains trees) spot spot := by
  obtain ⟨code, hcode⟩ := generate_namesakeText
  obtain ⟨root, doc, trees, resourceClasses, hgen⟩ := exists_generates hcode
  exact ⟨code, root, doc, trees, resourceClasses, hcode, hgen, circle_namesakeText hgen⟩

/-- The cause is a field that goes astray. -/
theorem namesake_astray : ∃ code root doc trees resourceClasses,
    generate namesakeText = .ok code ∧
      Generates namesakeText root doc trees resourceClasses code ∧
      ∃ spot other : Spot, spot.In trees ∧ Astray doc trees spot other ∧
        ReflTransGen (Contains trees) other spot := by
  obtain ⟨code, hcode⟩ := generate_namesakeText
  obtain ⟨root, doc, trees, resourceClasses, hgen, hiff⟩ := finite_size_iff hcode
  obtain ⟨spot, hspot, hcircle⟩ := circle_namesakeText hgen
  refine ⟨code, root, doc, trees, resourceClasses, hcode, hgen, ?_⟩
  by_contra hnone
  refine hiff.mpr ?_ spot hspot hcircle
  intro one two hone hastray hback
  exact hnone ⟨one, two, hone, hastray, hback⟩

end ApiClasses
