import ApiClasses.Proofs.Loading.Graph
import ApiClasses.Proofs.Output
import ApiClasses.Proofs.Placement

/-!
# Names in field types are declared

A name in the type of a field comes from one of three places. It is built-in; or it was
given as an answer, and then it is declared around the field; or it is the class name of
a named object. Objects that have their name from the top level are generated there. But
an object also has a class name if it only says in its `id` what it is called, wherever
it stands, and for such a stray no class is generated: the fields of a document's classes
are declared exactly if every stray that one of them comes to happens to be called like
something in scope (`fields_declared_iff`).
-/

namespace ApiClasses

open Json.Pointer (child)
open Loading (Answers HoldsSchema Mirrors Reachable nameAtTop? schemasLocation topNames)

variable {text code : String} {root : Json} {doc : Document} {trees : List ClassTree}
  {resourceClasses : List ClassDecl} {tree c : ClassTree} {above : List ClassTree} {name : String}

/-! ## Scopes -/

/-- Seen from inside some classes, the name means a class: one of those at the top level,
or one that is directly inside one of them. -/
def InScope (classes : List ClassDecl) (around : List ClassTree) (name : String) : Prop :=
  (∃ c ∈ classes, c.name = name) ∨ ∃ outer ∈ around, ∃ d ∈ outer.decl.innerClasses, d.name = name

/-- Every name in the type of a field, at any depth, is built-in or in scope. -/
def FieldsDeclared (classes : List ClassDecl) (trees : List ClassTree) : Prop :=
  ∀ tree ∈ trees, ∀ above c, tree.Descent above c → ∀ field ∈ c.decl.fields,
    ∀ name ∈ field.type.names, name ∈ builtInNames ∨ InScope classes (c :: above) name

/-- Every object that a property of a class comes to, and that stands away from the top
level, has a class name that is built-in or in scope, if it has one. -/
def StraysDeclared {arena : Arena} (place : Schema arena → String) (classes : List ClassDecl)
    (trees : List ClassTree) : Prop :=
  ∀ tree ∈ trees, ∀ above c, tree.Descent above c →
    ∀ schema : Schema arena, schema.id = c.schema → ∀ property ∈ schema.properties,
      ∀ last, property.2.ComesTo last → nameAtTop? (place last) = none →
        ∀ name, last.className? = some name →
          name ∈ builtInNames ∨ InScope classes (c :: above) name

/-- What is declared in a tree is in scope. -/
theorem ClassTree.Declares.inScope {entry : NodeId × String} {around : List ClassTree}
    (h : tree.Declares around entry) (htree : tree ∈ trees) :
    InScope (trees.map (·.decl) ++ resourceClasses) around entry.2 := by
  rcases h with ⟨-, hname⟩ | ⟨outer, houter, d, -, -, hname, hmem⟩
  · exact .inl ⟨tree.decl, List.mem_append_left _ (List.mem_map_of_mem htree), hname.symm⟩
  · exact .inr ⟨outer, houter, d.decl, hmem, hname⟩

/-! ## Classes at the top level -/

/-- Each schema of the arena has its place in the document, where it mirrors an object,
and the places are all pointers to objects without a reference that can be reached. -/
structure Charts {arena : Arena} (root : Json) (place : Schema arena → String) : Prop where
  /-- each schema has a place of its own -/
  injective : Function.Injective place
  /-- it says what the object there says -/
  mirrors : ∀ schema, ∃ members, Mirrors root place schema members
  /-- the places are those that can be reached -/
  reached : ∀ location,
    (∃ schema, place schema = location) ↔ Reachable root location ∧ HoldsSchema root location

/-- The schemas of a document that loads have places, and those at the top level answer to
its keys, in order. -/
theorem exists_charts (hread : Json.read text = .ok root) (hload : Document.load text = .ok doc) :
    ∃ place : Schema doc.arena → String, Charts root place ∧
      List.Forall₂
        (fun key (entry : String × NodeId) => entry.1 = key ∧
          Answers root place (child schemasLocation key) entry.2)
        (topNames root) doc.schemas := by
  obtain ⟨ids, memory, -, harena, hnamed, hloads⟩ := Loading.loads_of_load hread hload
  obtain ⟨place, hinjective, hmirrors, hreached, hanswers⟩ := hloads.graph
  rw [harena, hnamed]
  exact ⟨place, ⟨hinjective, hmirrors, hreached⟩, hloads.top hanswers⟩

theorem Shape.isObject_iff (shape : Shape) : shape.isObject = true ↔ shape.keyword = "object" := by
  cases shape <;> simp [isObject, keyword]

namespace Generates

/-- Every tree is that of an object schema at the top level. -/
theorem exists_entry (h : Generates text root doc trees resourceClasses code)
    (htree : tree ∈ trees) :
    ∃ entry ∈ doc.objectSchemas,
      doc.arena.classTree (Decorator.standard {}) {} entry.2 = .ok tree :=
  exists_of_forall₂_right h.grown htree

/-- An object schema at the top level has its class there. -/
theorem exists_tree (h : Generates text root doc trees resourceClasses code)
    {entry : String × NodeId} {schema : Schema doc.arena} (hentry : entry ∈ doc.schemas)
    (hid : schema.id = entry.2) (hobject : schema.isObject = true)
    (hname : schema.className? = some name) :
    ∃ tree ∈ trees, tree.schema = schema.id ∧ tree.decl.name = name := by
  have hmem := (Document.mem_objectSchemas_iff hid).mpr ⟨hentry, hobject⟩
  obtain ⟨tree, htree, hgrown⟩ := exists_of_forall₂_left h.grown hmem
  obtain ⟨owner, ownName, -, -, howner, hown, hdecl, htop, -⟩ := Arena.exists_placed hgrown .top
  obtain rfl : owner = schema := Schema.ext (howner.trans hid.symm)
  exact ⟨tree, htree, htop.trans hid.symm, hdecl.trans (Option.some.inj (hown.symm.trans hname))⟩

/-- The schemas have places, and an object that has its name from the top level has its
class there. -/
theorem exists_places (h : Generates text root doc trees resourceClasses code) :
    ∃ place : Schema doc.arena → String, Charts root place ∧
      ∀ schema key name, schema.isObject = true → nameAtTop? (place schema) = some key →
        schema.className? = some name → ∃ tree ∈ trees, tree.decl.name = name := by
  obtain ⟨place, hcharts, htop⟩ := exists_charts h.read h.load
  refine ⟨place, hcharts, ?_⟩
  intro schema key name hobject hkey hname
  obtain ⟨members, hmembers⟩ := hcharts.mirrors schema
  obtain ⟨hreach, -⟩ := (hcharts.reached _).mp ⟨schema, rfl⟩
  -- the schema known under the key is of the same kind and has the same name
  obtain ⟨hmem, -⟩ := Loading.resolve?_of_nameAtTop? hreach hmembers.object hkey
  obtain ⟨entry, hentry, -, top, hid, hleads⟩ := exists_of_forall₂_left htop hmem
  obtain ⟨others, hothers⟩ := hcharts.mirrors top
  obtain ⟨hsameName, hsameKind⟩ := hmembers.like_top hothers hreach hkey hleads
  have htopObject : top.isObject = true :=
    (Shape.isObject_iff _).mpr (hsameKind.trans ((Shape.isObject_iff _).mp hobject))
  have htopName : top.className? = some name := by
    rw [Schema.className?, hsameName]
    exact hname
  obtain ⟨tree, htree, -, hdecl⟩ := h.exists_tree hentry hid htopObject htopName
  exact ⟨tree, htree, hdecl⟩

end Generates

/-! ## Fields -/

/-- **Fields are declared up to strays**: if a text generates code, every name in the
type of a field, at any depth, is built-in or means a class there, exactly if this holds
of the class names of the objects that the properties come to and that do not stand at
the top level, where each object that has a class name is generated. -/
theorem fields_declared_iff (h : generate text = .ok code) :
    ∃ root doc trees resourceClasses, Generates text root doc trees resourceClasses code ∧
      ∃ place : Schema doc.arena → String, Charts root place ∧
        (FieldsDeclared (trees.map (·.decl) ++ resourceClasses) trees ↔
          StraysDeclared place (trees.map (·.decl) ++ resourceClasses) trees) := by
  obtain ⟨root, doc, trees, resourceClasses, hgen⟩ := exists_generates h
  obtain ⟨place, hcharts, htop⟩ := hgen.exists_places
  refine ⟨root, doc, trees, resourceClasses, hgen, place, hcharts, ?_, ?_⟩
  · -- the class name of what a property comes to is in the type of its field
    intro hfields tree htree above c hc schema hid property hproperty last hlast _ name hname
    obtain ⟨entry, -, hgrown⟩ := hgen.exists_entry htree
    obtain ⟨owner, howner, htypes, -⟩ := Arena.fields_of_descent hgrown hc
    obtain rfl : owner = schema := Schema.ext (howner.trans hid.symm)
    obtain ⟨field, hfield, htype⟩ := exists_of_forall₂_left htypes hproperty
    exact hfields tree htree above c hc field hfield name
      (mem_names_propertyType hlast hname htype)
  · -- a name in a type is built-in, the name of an object or an answer
    intro hstrays tree htree above c hc field hfield name hname
    obtain ⟨entry, -, hgrown⟩ := hgen.exists_entry htree
    obtain ⟨schema, hid, htypes, hanswers⟩ := Arena.fields_of_descent hgrown hc
    obtain ⟨property, hproperty, htype⟩ := exists_of_forall₂_right htypes hfield
    rcases names_propertyType htype hname with hbuilt | ⟨last, hlast, hown | ⟨-, hanswer⟩⟩
    · exact .inl hbuilt
    · rcases hkey : nameAtTop? (place last) with _ | key
      · exact hstrays tree htree above c hc schema hid property hproperty last hlast hkey name hown
      · obtain ⟨other, hother, hdecl⟩ := htop last key name hlast.isObject hkey hown
        exact .inr (.inl ⟨other.decl, List.mem_append_left _ (List.mem_map_of_mem hother), hdecl⟩)
    · exact .inr ((hanswers _ hanswer).inScope htree)

/-! ## A stray -/

/-- A document with some objects at the top level, and no resources, gives their trees. -/
theorem Generates.of_objects (h : Generates text root doc trees resourceClasses code)
    {arena : Arena} {entries : List (String × NodeId)} {grown : List ClassTree}
    (hload : (Document.load text).toOption.map
      (fun doc => (doc.schemas, doc.arena, doc.resources.length)) = some (entries, arena, 0))
    (hobjects : entries.all (fun entry => (arena.get? entry.2).any (·.isObject)) = true)
    (hgrown : List.Forall₂
      (fun entry tree => arena.classTree (Decorator.standard {}) {} entry.2 = .ok tree)
      entries grown) :
    trees = grown ∧ resourceClasses = [] ∧ doc.arena = arena := by
  obtain ⟨-, hdoc, -, htrees, hmade, -, -⟩ := h
  rw [hdoc] at hload
  obtain ⟨docName, docArena, schemas, resources⟩ := doc
  obtain ⟨rfl, rfl, rfl⟩ := by simpa [Except.toOption] using hload
  have hall : Document.objectSchemas ⟨docName, docArena, schemas, []⟩ = schemas :=
    List.filter_eq_self.mpr (List.all_eq_true.mp hobjects)
  rw [hall] at htrees
  refine ⟨?_, List.forall₂_nil_left_iff.mp hmade, rfl⟩
  have hunique : Relator.RightUnique fun (entry : String × NodeId) tree =>
      docArena.classTree (Decorator.standard {}) {} entry.2 = .ok tree :=
    fun _ _ _ hone hother => Except.ok.inj (hone.symm.trans hother)
  exact hunique.forall₂ htrees hgrown

/-- The property of `A` is an object that only its `id` calls `Zed`. -/
def strayText : String :=
  "\x7b\"schemas\":\x7b\"A\":\x7b\"properties\":\x7b\"x\":\x7b\"id\":\"Zed\",\"type\":" ++
    "\"object\"\x7d\x7d\x7d\x7d\x7d"

/-- What is read from it. -/
def strayRoot : Json :=
  .object [("schemas", .object [("A", .object [
    ("properties", .object [
      ("x", .object [("id", .string "Zed"), ("type", .string "object")])])])])]

/-- The schemas of that document. -/
def strayArena : Arena :=
  ⟨#[⟨some "A", none, .object [⟨"x", ⟨1⟩⟩] none⟩, ⟨some "Zed", none, .object [] none⟩]⟩

theorem read_strayText : Json.read strayText = .ok strayRoot := by
  unfold strayText
  simp only [String.reduceAppend]
  exact Json.read_ofList (by decide)

theorem load_strayText : (Document.load strayText).toOption.map
    (fun doc => (doc.schemas, doc.arena, doc.resources.length)) =
      some ([("A", ⟨0⟩)], strayArena, 0) := by
  rw [Document.load, read_strayText]
  decide

theorem generate_strayText : ∃ code, generate strayText = .ok code := by
  refine exists_code ?_
  rw [generateClasses, Document.load, read_strayText]
  decide +kernel

/-- Whatever is generated for the document, the type of a field is not declared. -/
theorem not_fieldsDeclared_strayText
    (h : Generates strayText root doc trees resourceClasses code) :
    ¬ FieldsDeclared (trees.map (·.decl) ++ resourceClasses) trees := by
  obtain ⟨tree, htree, hname, hinner, hfields⟩ : ∃ tree,
      strayArena.classTree (Decorator.standard {}) {} ⟨0⟩ = .ok tree ∧ tree.decl.name = "A" ∧
        tree.decl.innerClasses.length = 0 ∧ tree.decl.fields = [⟨"x", ⟨"Zed", []⟩, none, none⟩] :=
    ⟨_, rfl, by decide, by decide, by decide⟩
  obtain ⟨rfl, rfl, -⟩ := h.of_objects load_strayText (by decide) (.cons htree .nil)
  intro hdeclared
  have hzed := hdeclared tree List.mem_cons_self [] tree .top ⟨"x", ⟨"Zed", []⟩, none, none⟩
    (hfields ▸ List.mem_cons_self) "Zed" List.mem_cons_self
  obtain hinner := List.length_eq_zero_iff.mp hinner
  rcases hzed with hbuilt | ⟨c, hc, hcalled⟩ | ⟨outer, houter, d, hd, -⟩
  · exact absurd hbuilt (by decide)
  · obtain rfl : c = tree.decl := by simpa using hc
    exact absurd (hname.symm.trans hcalled) (by decide)
  · obtain rfl := List.mem_singleton.mp houter
    rw [hinner] at hd
    cases hd

/-- `Zed` is the type of a field, but no class is called so. -/
theorem stray_undeclared : ∃ code root doc trees resourceClasses,
    generate strayText = .ok code ∧
      Generates strayText root doc trees resourceClasses code ∧
      ¬ FieldsDeclared (trees.map (·.decl) ++ resourceClasses) trees := by
  obtain ⟨code, hcode⟩ := generate_strayText
  obtain ⟨root, doc, trees, resourceClasses, hgen⟩ := exists_generates hcode
  exact ⟨code, root, doc, trees, resourceClasses, hcode, hgen, not_fieldsDeclared_strayText hgen⟩

/-- The cause is the stray. -/
theorem stray_out_of_scope : ∃ code root doc trees resourceClasses,
    generate strayText = .ok code ∧
      Generates strayText root doc trees resourceClasses code ∧
      ∃ place : Schema doc.arena → String, Charts root place ∧
        ¬ StraysDeclared place (trees.map (·.decl) ++ resourceClasses) trees := by
  obtain ⟨code, hcode⟩ := generate_strayText
  obtain ⟨root, doc, trees, resourceClasses, hgen, place, hcharts, hiff⟩ :=
    fields_declared_iff hcode
  exact ⟨code, root, doc, trees, resourceClasses, hcode, hgen, place, hcharts,
    fun hstrays => not_fieldsDeclared_strayText hgen (hiff.mpr hstrays)⟩

end ApiClasses
