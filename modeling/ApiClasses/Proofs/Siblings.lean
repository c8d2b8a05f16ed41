import ApiClasses.Proofs.Meanings
import ApiClasses.Proofs.Output
import ApiClasses.Proofs.ResourceTrees
import Mathlib.Data.Option.Basic

/-!
# Names of classes side by side

Classes that stand side by side need different names. At the top level the generator
refuses a name that comes twice, and the classes inside a schema class are told apart by
their numbers (`Placed.nodup_inner`). The classes inside a resource class have their names
from the resources below, and different resources may well give the same class name. That
is the only way in which names can clash (`siblings_distinct_iff`).
-/

namespace ApiClasses

variable {text code : String} {root : Json} {doc : Document} {trees : List ClassTree}
  {resourceClasses : List ClassDecl} {arena : Arena} {decorators : List Decorator}
  {settings : Settings} {schema : Schema arena} {site : Site arena} {after : Nesting arena}
  {tree c : ClassTree} {above : List ClassTree} {name : String}

/-- The classes have different names, and so have the classes directly inside each of them,
at any depth. -/
def SiblingsDistinct (classes : List ClassDecl) : Prop :=
  (classes.map (·.name)).Nodup ∧
    ∀ top ∈ classes, ∀ c, top.Descent c → (c.innerClasses.map (·.name)).Nodup

/-! ## Schema classes -/

namespace Placed

/-- Classes inside one class have different names, by their numbers. -/
theorem nodup_inner (happ : ∀ decorator ∈ decorators, decorator.AppendsOnly)
    (h : Placed decorators (schema.site decorators settings name) tree above c site after) :
    (c.inner.map (·.decl.name)).Nodup := by
  have hnames : (after.numbered.map fun entry => after.nestedName entry.2) =
      c.inner.map (·.decl.name) :=
    map_eq_map_of_forall₂ (h.grown.inner.numbered happ) fun hentry => hentry.2.symm
  have hnumbers : (after.numbered.map Prod.snd).Nodup := by
    rw [Nesting.numbered, List.zipIdx_map_snd]
    exact List.nodup_range' 1
  have hsplit : (after.numbered.map fun entry => after.nestedName entry.2) =
      (after.numbered.map Prod.snd).map after.nestedName := by
    rw [List.map_map]
    rfl
  rw [← hnames, hsplit]
  exact hnumbers.map fun _ _ => Nesting.nestedName_inj

end Placed

/-- Inside standard schema classes no name comes twice. -/
theorem Arena.nodup_innerClasses {id : NodeId} {d : ClassDecl}
    (h : arena.classTree (Decorator.standard settings) settings id = .ok tree)
    (hd : tree.decl.Descent d) : (d.innerClasses.map (·.name)).Nodup := by
  obtain ⟨schema, name, above, c, site, left, hplaced, rfl⟩ := Arena.exists_placed_decl h hd
  rw [hplaced.innerClasses_decl, List.map_map]
  exact hplaced.nodup_inner (Decorator.standard_appendsOnly settings)

/-! ## Resource classes -/

/-- The classes inside the class of a resource have different names exactly if the class
names that the resources below give are different. -/
theorem ResourceClasses.nodup_innerClasses_iff {service path : String} {resource : Resource}
    {d : ClassDecl}
    (h : ResourceClasses.classAt ⟨service, ResourceDecorator.standard, settings⟩ path resource =
      .ok d) :
    (d.innerClasses.map (·.name)).Nodup ↔
      (resource.resources.map fun below => Identifier.forClass? below.name).Nodup := by
  obtain ⟨-, -, hbelow⟩ := ResourceClasses.classAt_standard h
  have hnames : (resource.resources.map fun below => Identifier.forClass? below.name).map
        (Option.map settings.resourceName) =
      (d.innerClasses.map (·.name)).map some := by
    rw [List.map_map, List.map_map]
    refine map_eq_map_of_forall₂ hbelow fun hmade => ?_
    obtain ⟨hname, -, -⟩ := ResourceClasses.classAt_standard hmade
    exact ResourceClasses.className_eq_ok.mp hname
  have hending : Function.Injective settings.resourceName := by
    intro one other heq
    exact (String.append_left_inj _).mp heq
  rw [← List.nodup_map_iff (Option.some_injective _), ← hnames,
    List.nodup_map_iff (Option.map_injective hending)]

/-! ## All classes -/

/-- **Names clash only below resources**: if a text generates code, the names of classes
side by side are different, at the top level and inside every class, exactly if no two
resources side by side below a resource give the same class name. Inside schema classes
they always are. -/
theorem siblings_distinct_iff (h : generate text = .ok code) :
    ∃ root doc trees resourceClasses, Generates text root doc trees resourceClasses code ∧
      SiblingsDistinct (trees.map (·.decl)) ∧
      (SiblingsDistinct (trees.map (·.decl) ++ resourceClasses) ↔
        ∀ resource ∈ doc.resources.flatMap Resource.walk,
          (resource.resources.map fun below => Identifier.forClass? below.name).Nodup) := by
  obtain ⟨root, doc, trees, resourceClasses, hgen⟩ := exists_generates h
  have hschemas : ∀ top ∈ trees.map (·.decl), ∀ d, top.Descent d →
      (d.innerClasses.map (·.name)).Nodup := by
    intro top htop d hd
    obtain ⟨tree, htree, rfl⟩ := List.mem_map.mp htop
    obtain ⟨entry, -, hgrown⟩ := exists_of_forall₂_right hgen.grown htree
    exact Arena.nodup_innerClasses hgrown hd
  have hdistinct := hgen.distinct
  rw [List.map_append] at hdistinct
  refine ⟨root, doc, trees, resourceClasses, hgen, ⟨hdistinct.of_append_left, hschemas⟩, ?_, ?_⟩
  · -- the classes inside the class of a resource are those of the resources below
    rintro ⟨-, hinside⟩ resource hresource
    obtain ⟨top, htop, hwalk⟩ := List.mem_flatMap.mp hresource
    obtain ⟨c, hc, hmade⟩ := exists_of_forall₂_left hgen.made htop
    obtain ⟨d, way, hd, hmade⟩ :=
      ResourceClasses.exists_class hmade (Resource.mem_walk_iff.mp hwalk)
    have hnames := hinside c (List.mem_append_right _ hc) d hd
    exact (ResourceClasses.nodup_innerClasses_iff hmade).mp hnames
  · intro hapart
    refine ⟨hgen.distinct, fun top htop d hd => ?_⟩
    rcases List.mem_append.mp htop with htop | htop
    · exact hschemas top htop d hd
    · obtain ⟨resource, hresource, hmade⟩ := exists_of_forall₂_right hgen.made htop
      obtain ⟨last, way, hlast, hmade⟩ := ResourceClasses.exists_resource hmade hd
      have hwalk := List.mem_flatMap.mpr ⟨resource, hresource, Resource.mem_walk_iff.mpr hlast⟩
      exact (ResourceClasses.nodup_innerClasses_iff hmade).mpr (hapart last hwalk)

/-! ## Twins -/

/-- Below `r` there are two resources that give the same class name. -/
def twinsText : String :=
  "\x7b\"name\":\"s\",\"resources\":\x7b\"r\":\x7b\"resources\":\x7b\"a-b\":\x7b\x7d,\"a_b\":" ++
    "\x7b\x7d\x7d\x7d\x7d\x7d"

/-- What is read from it. -/
def twinsRoot : Json :=
  .object [("name", .string "s"), ("resources", .object [
    ("r", .object [("resources", .object [("a-b", .object []), ("a_b", .object [])])])])]

theorem read_twinsText : Json.read twinsText = .ok twinsRoot := by
  unfold twinsText
  simp only [String.reduceAppend]
  exact Json.read_ofList (by decide)

theorem classes_twinsText : ∃ classes, generateClasses twinsText = .ok classes ∧
    classes.map (fun c => c.innerClasses.map (·.name)) = [["ABResource", "ABResource"]] := by
  rw [generateClasses, Document.load, read_twinsText]
  exact Loading.exists_of_toOption (by decide +kernel)

theorem generate_twinsText : ∃ code, generate twinsText = .ok code := by
  obtain ⟨classes, hclasses, -⟩ := classes_twinsText
  exact exists_code (congrArg (·.toOption.isSome) hclasses)

/-- Whatever is generated for the document, two classes side by side share a name. -/
theorem not_siblingsDistinct_twinsText
    (h : Generates twinsText root doc trees resourceClasses code) :
    ¬ SiblingsDistinct (trees.map (·.decl) ++ resourceClasses) := by
  obtain ⟨classes, hclasses, hshown⟩ := classes_twinsText
  obtain rfl := Except.ok.inj (hclasses.symm.trans h.classes)
  obtain ⟨c, hc, hnames⟩ := List.mem_map.mp (hshown ▸ List.mem_singleton_self _)
  rintro ⟨-, hinside⟩
  have hnodup := hinside c hc c .top
  rw [hnames] at hnodup
  exact absurd hnodup (by decide)

/-- Two classes inside the class of `r` are called `ABResource`. -/
theorem twins_clash : ∃ code root doc trees resourceClasses,
    generate twinsText = .ok code ∧
      Generates twinsText root doc trees resourceClasses code ∧
      ¬ SiblingsDistinct (trees.map (·.decl) ++ resourceClasses) := by
  obtain ⟨code, hcode⟩ := generate_twinsText
  obtain ⟨root, doc, trees, resourceClasses, hgen⟩ := exists_generates hcode
  exact ⟨code, root, doc, trees, resourceClasses, hcode, hgen,
    not_siblingsDistinct_twinsText hgen⟩

/-- The cause is the class name that they give. -/
theorem twins_same_class_name : ∃ code root doc trees resourceClasses,
    generate twinsText = .ok code ∧
      Generates twinsText root doc trees resourceClasses code ∧
      ¬ ∀ resource ∈ doc.resources.flatMap Resource.walk,
        (resource.resources.map fun below => Identifier.forClass? below.name).Nodup := by
  obtain ⟨code, hcode⟩ := generate_twinsText
  obtain ⟨root, doc, trees, resourceClasses, hgen, -, hiff⟩ := siblings_distinct_iff hcode
  exact ⟨code, root, doc, trees, resourceClasses, hcode, hgen,
    fun hapart => not_siblingsDistinct_twinsText hgen (hiff.mpr hapart)⟩

end ApiClasses
