import ApiClasses.Proofs.ResourceTrees
import ApiClasses.Proofs.Scopes

/-!
# Keys and class names at the top level

The keys of the document are what its check looks at and what responses name; the classes
at the top level are called after the schemas that the keys lead to. Where an object stands
at the key itself, it is called like the key (`className?_of_own`). A key that holds a
reference leads to a schema that stands elsewhere and has a name of its own, or none.
-/

namespace ApiClasses

open Json.Pointer (child slash_notMem_escape unescape_escape)
open Loading (Answers HoldsReference HoldsSchema Hop holdsReference_of_link schemasLocation
  topNames)
open Relation (ReflTransGen)

variable {text code location key : String} {root : Json} {doc : Document}
  {trees : List ClassTree} {resourceClasses : List ClassDecl} {arena : Arena}
  {place : Schema arena → String} {schema : Schema arena} {id : NodeId}

/-! ## Own schemas and references -/

/-- A location from which references lead to a schema holds the schema or a reference. -/
theorem Loading.Answers.own_or_reference (h : Answers root place location id) :
    HoldsSchema root location ∨ HoldsReference root location := by
  obtain ⟨schema, -, hpath, hholds⟩ := h
  rcases ReflTransGen.cases_head hpath with rfl | ⟨_, ⟨reference, hfind, -⟩, -⟩
  · exact .inl hholds
  · exact .inr (holdsReference_of_link hfind)

/-- A schema that stands at a key is called like the key. -/
theorem Charts.name_of_own (h : Charts root place)
    (hanswers : Answers root place (child schemasLocation key) schema.id)
    (hown : HoldsSchema root (child schemasLocation key)) : schema.name = some key := by
  obtain ⟨other, hid, hleads⟩ := hanswers
  obtain rfl := Schema.ext hid
  have hplace : place other = child schemasLocation key := hleads.unique ⟨.refl, hown⟩
  obtain ⟨members, hmembers⟩ := h.mirrors other
  rw [hmembers.nameByPlace _ (slash_notMem_escape key) hplace, unescape_escape]

/-- So it has the key's class name. -/
theorem Charts.className?_of_own (h : Charts root place)
    (hanswers : Answers root place (child schemasLocation key) schema.id)
    (hown : HoldsSchema root (child schemasLocation key)) :
    schema.className? = Identifier.forClass? key := by
  rw [Schema.className?, h.name_of_own hanswers hown]
  rfl

/-! ## Names of classes -/

namespace Document

/-- The class name of the schema that an entry leads to. -/
def classNameAt (doc : Document) (entry : String × NodeId) : Option String :=
  (doc.arena.get? entry.2).bind (·.className?)

/-- The objects at the top level, in order. -/
def objects (doc : Document) : List (Schema doc.arena) :=
  doc.schemas.filterMap fun entry => (doc.arena.get? entry.2).filter (·.isObject)

/-- The names of the classes at the top level, put together from some settings: those of the
objects there and those that resources are called after. -/
def classNamesBy (doc : Document) (settings : Settings) : List (Option String) :=
  doc.objects.map (·.className?) ++
    doc.resources.map fun resource =>
      (Identifier.forClass? resource.name).map settings.resourceName

/-- These names by the standard settings. -/
def classNames (doc : Document) : List (Option String) :=
  doc.classNamesBy {}

theorem classNameAt_eq {entry : String × NodeId} {schema : Schema doc.arena}
    (hid : schema.id = entry.2) : doc.classNameAt entry = schema.className? := by
  rw [classNameAt, ← hid, Arena.get?_id]
  rfl

/-- What depends on the objects' ids can be said of the entries that lead to them. -/
theorem map_objects {β : Type} (f : NodeId → β) :
    doc.objects.map (f ·.id) = doc.objectSchemas.map (f ·.2) := by
  rw [objects, objectSchemas]
  generalize doc.schemas = entries
  induction entries with
  | nil => rfl
  | cons entry rest ih =>
    obtain hget | ⟨schema, hget⟩ := Option.eq_none_or_eq_some (doc.arena.get? entry.2)
    · simpa [List.filterMap_cons, List.filter_cons, hget] using ih
    · have hid : schema.id = entry.2 := Arena.get?_eq_some.mp hget
      by_cases hobject : schema.isObject = true
      · simpa [List.filterMap_cons, List.filter_cons, Option.filter, hget, hobject, hid] using ih
      · simpa [List.filterMap_cons, List.filter_cons, Option.filter, hget, hobject] using ih

/-- In particular, classes are those of the objects if they are those of the entries. -/
theorem forall₂_objects {settings : Settings} {classes : List ClassDecl} :
    List.Forall₂
        (fun schema c =>
          doc.arena.classDecl (Decorator.standard settings) settings schema.id = .ok c)
        doc.objects classes ↔
      List.Forall₂
        (fun entry c =>
          doc.arena.classDecl (Decorator.standard settings) settings entry.2 = .ok c)
        doc.objectSchemas classes := by
  have hids : doc.objects.map (·.id) = doc.objectSchemas.map (·.2) := map_objects fun id => id
  have hmapped {α : Type} {f : α → NodeId} {as : List α} :=
    List.forall₂_map_left_iff (f := f) (l := as) (u := classes)
      (R := fun id c => doc.arena.classDecl (Decorator.standard settings) settings id = .ok c)
  rw [← hmapped, hids, hmapped]

/-- Their class names are those at the entries. -/
theorem map_className?_objects :
    doc.objects.map (·.className?) = doc.objectSchemas.map doc.classNameAt := by
  refine Eq.trans ?_ (map_objects fun id => (doc.arena.get? id).bind (·.className?))
  refine List.map_congr_left fun schema _ => ?_
  rw [Arena.get?_id]
  rfl

/-- The tree of an entry is called as the entry's schema is. -/
theorem classNameAt_of_tree {settings : Settings} {entry : String × NodeId} {tree : ClassTree}
    (h : doc.arena.classTree (Decorator.standard settings) settings entry.2 = .ok tree) :
    doc.classNameAt entry = some tree.decl.name := by
  obtain ⟨schema, name, -, -, hid, hname, hdecl, -, -⟩ := Arena.exists_placed h .top
  rw [classNameAt_eq hid, hname, hdecl]

/-- The classes at the top level have the names that the document and the settings say. -/
theorem classNamesBy_eq {settings : Settings} {schemaClasses resourceClasses : List ClassDecl}
    (hgrown : List.Forall₂
      (fun entry c => doc.arena.classDecl (Decorator.standard settings) settings entry.2 = .ok c)
      doc.objectSchemas schemaClasses)
    (hmade : List.Forall₂
      (fun resource c => ResourceClasses.classDecl
        ⟨doc.name, ResourceDecorator.standard, settings⟩ resource = .ok c)
      doc.resources resourceClasses) :
    (schemaClasses ++ resourceClasses).map (some ·.name) = doc.classNamesBy settings := by
  have hschemas : doc.objectSchemas.map doc.classNameAt = schemaClasses.map (some ·.name) := by
    refine map_eq_map_of_forall₂ hgrown fun hc => ?_
    obtain ⟨tree, htree, rfl⟩ := Arena.classDecl_eq_ok.mp hc
    exact classNameAt_of_tree htree
  have hresources : (doc.resources.map fun resource =>
        (Identifier.forClass? resource.name).map settings.resourceName) =
      resourceClasses.map (some ·.name) := by
    refine map_eq_map_of_forall₂ hmade fun hc => ?_
    obtain ⟨hname, -, -⟩ := ResourceClasses.classAt_standard hc
    exact ResourceClasses.className_eq_ok.mp hname
  rw [classNamesBy, map_className?_objects, hschemas, hresources, List.map_append]

end Document

/-- The classes of a generation have the names that the document says. -/
theorem Generates.classNames_eq (h : Generates text root doc trees resourceClasses code) :
    (trees.map (·.decl) ++ resourceClasses).map (some ·.name) = doc.classNames :=
  Document.classNamesBy_eq h.grown_decls h.made

/-! ## Resources at any depth -/

/-- Every resource has its class… -/
theorem Generates.exists_class (h : Generates text root doc trees resourceClasses code)
    {resource : Resource} (hresource : resource ∈ doc.resources.flatMap Resource.walk) :
    ∃ top ∈ resourceClasses, ∃ c, top.Descent c ∧
      ∃ way, doc.resourceGenerator.classAt way resource = .ok c := by
  obtain ⟨first, hfirst, hwalk⟩ := List.mem_flatMap.mp hresource
  obtain ⟨top, htop, hmade⟩ := exists_of_forall₂_left h.made hfirst
  obtain ⟨c, way, hc, hmade⟩ :=
    ResourceClasses.exists_class hmade (Resource.mem_walk_iff.mp hwalk)
  exact ⟨top, htop, c, hc, way, hmade⟩

/-- …and every class that is in a resource class comes from a resource. -/
theorem Generates.exists_resource (h : Generates text root doc trees resourceClasses code)
    {top c : ClassDecl} (htop : top ∈ resourceClasses) (hc : top.Descent c) :
    ∃ resource ∈ doc.resources.flatMap Resource.walk,
      ∃ way, doc.resourceGenerator.classAt way resource = .ok c := by
  obtain ⟨first, hfirst, hmade⟩ := exists_of_forall₂_right h.made htop
  obtain ⟨resource, way, hresource, hmade⟩ := ResourceClasses.exists_resource hmade hc
  exact ⟨resource, List.mem_flatMap.mpr ⟨first, hfirst, Resource.mem_walk_iff.mpr hresource⟩,
    way, hmade⟩

end ApiClasses
