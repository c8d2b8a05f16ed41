import ApiClasses.Proofs.Siblings
import ApiClasses.Proofs.SmallLetters
import ApiClasses.Proofs.TopLevel

/-!
# Modules side by side

Behind a class with classes inside, their module is printed, into the scope that the class is
in itself. Class names that differ in capitals alone give modules of one name, and a class
name without letters may be the name of its own module. The generator looks at class names
only.

Inside schema classes nothing can happen, because the names there come from the settings.
Below resources, modules can clash with each other, and at the top level they can clash with
structs as well (`printed_apart_iff`). Whether a class has a module can be read off the
document: a schema class has one exactly if a property comes to an object without a class name
(`Arena.innerClasses_ne_nil_iff`).
-/

namespace ApiClasses

open Identifier (forModule forModule_ne eq_of_forModule_nestedName)

variable {text code name : String} {root : Json} {doc : Document} {trees : List ClassTree}
  {resourceClasses scope : List ClassDecl} {arena : Arena} {tree : ClassTree} {c d : ClassDecl}

/-! ## Printed modules -/

/-- The module that is printed behind the class, if there are classes inside. -/
def ClassDecl.printedModule? (c : ClassDecl) : Option String :=
  if c.innerClasses.isEmpty then none else some c.moduleName

/-- The modules that are printed in a scope. -/
def printedModules (scope : List ClassDecl) : List String :=
  scope.filterMap (·.printedModule?)

/-- The modules in a scope have different names, and none is called like a struct there. -/
def ModulesApart (scope : List ClassDecl) : Prop :=
  (printedModules scope).Nodup ∧ ∀ c ∈ scope, c.name ∉ printedModules scope

/-- So it is at the top level and inside all classes. -/
def PrintedApart (classes : List ClassDecl) : Prop :=
  ModulesApart classes ∧ ∀ top ∈ classes, ∀ c, top.Descent c → ModulesApart c.innerClasses

/-- The line of the module says how it is called. -/
theorem ClassDecl.moduleLines_eq (c : ClassDecl) (inner : List Line) :
    c.moduleLines inner =
      match c.printedModule? with
      | none => []
      | some module =>
        .code 0 ("/// Nested types of [`" ++ c.name ++ "`].") ::
          .code 0 ("pub mod " ++ module ++ " \x7b") ::
          (.code 0 "use super::*;" :: .blank :: inner).map Line.inside ++
            [.code 0 "\x7d", .blank] := by
  rw [moduleLines, printedModule?]
  split <;> rfl

theorem mem_printedModules {module : String} :
    module ∈ printedModules scope ↔
      ∃ c ∈ scope, c.innerClasses ≠ [] ∧ forModule c.name = module := by
  simp [printedModules, ClassDecl.printedModule?, ClassDecl.moduleName, List.mem_filterMap]

theorem printedModules_eq (scope : List ClassDecl) :
    printedModules scope =
      ((scope.filter fun c => !c.innerClasses.isEmpty).map (·.name)).map forModule := by
  induction scope with
  | nil => rfl
  | cons c rest ih =>
    have hcons : printedModules (c :: rest) = c.printedModule?.toList ++ printedModules rest := by
      rw [printedModules, List.filterMap_cons]
      cases c.printedModule? <;> rfl
    rw [hcons, ih, ClassDecl.printedModule?]
    by_cases hempty : c.innerClasses.isEmpty = true
    · simp [hempty]
    · simp [hempty, ClassDecl.moduleName]

/-- If the classes have different names, so have their modules, as long as no two names give one
module. -/
theorem nodup_printedModules_iff (h : (scope.map (·.name)).Nodup) :
    (printedModules scope).Nodup ↔
      ∀ one ∈ scope, one.innerClasses ≠ [] → ∀ other ∈ scope, other.innerClasses ≠ [] →
        forModule one.name = forModule other.name → one.name = other.name := by
  have hdistinct : ((scope.filter fun c => !c.innerClasses.isEmpty).map (·.name)).Nodup :=
    h.sublist (List.filter_sublist.map _)
  have hmem {name : String} :
      name ∈ (scope.filter fun c => !c.innerClasses.isEmpty).map (·.name) ↔
        ∃ c ∈ scope, c.innerClasses ≠ [] ∧ c.name = name := by
    simp [and_assoc]
  rw [printedModules_eq, List.nodup_map_iff_inj_on hdistinct]
  constructor
  · intro hinj one hone honeInner other hother hotherInner
    exact hinj _ (hmem.mpr ⟨one, hone, honeInner, rfl⟩) _
      (hmem.mpr ⟨other, hother, hotherInner, rfl⟩)
  · intro hapart oneName honeName otherName hotherName
    obtain ⟨one, hone, honeInner, rfl⟩ := hmem.mp honeName
    obtain ⟨other, hother, hotherInner, rfl⟩ := hmem.mp hotherName
    exact hapart one hone honeInner other hother hotherInner

/-! ## Schema classes -/

/-- One of the properties comes to an object without a class name. -/
def Schema.Houses (schema : Schema arena) : Prop :=
  ∃ property ∈ schema.properties, ∃ last, property.2.ComesTo last ∧ last.className? = none

namespace Placed

variable {decorators : List Decorator} {top site : Site arena} {above : List ClassTree}
  {outer : ClassTree} {after : Nesting arena}

/-- The settings are the same all the way down. -/
theorem settings_eq (h : Placed decorators top tree above outer site after) :
    after.settings = top.before.settings := by
  induction h with
  | top hgrown => exact (Nesting.run_later hgrown.run).settings
  | inner _ _ _ hgrown ih => exact (Nesting.run_later hgrown.run).settings.trans ih

end Placed

/-- The class of a schema has classes inside exactly if one of the properties comes to an object
without a class name. -/
theorem Arena.innerClasses_ne_nil_iff {settings : Settings} {schema : Schema arena}
    (h : arena.classTree (Decorator.standard settings) settings schema.id = .ok tree) :
    tree.decl.innerClasses ≠ [] ↔ schema.Houses := by
  obtain ⟨top, name, site, left, hid, hname, -, -, hplaced⟩ := Arena.exists_placed h .top
  obtain rfl : top = schema := Schema.ext hid
  rw [hplaced.innerClasses_decl, Ne, List.map_eq_nil_iff]
  cases hplaced with
  | top hgrown =>
    have hplaced := Placed.top hgrown
    constructor
    · intro hinner
      obtain ⟨d, hd⟩ := List.exists_mem_of_ne_nil _ hinner
      obtain ⟨entry, hentry, -⟩ := hgrown.exists_of_mem_inner hd
      have hnamed := List.mem_of_getElem? (Nesting.mem_numbered.mp hentry).2
      obtain ⟨property, hproperty, hlast, hnone⟩ := hplaced.named_standard _ hnamed
      exact ⟨property, hproperty, entry.1, hlast, hnone⟩
    · rintro ⟨property, hproperty, last, hlast, hnone⟩
      obtain ⟨field, -, htype⟩ := exists_of_forall₂_left hplaced.fields_standard hproperty
      obtain ⟨asked, -, hcalled⟩ := exists_calledAs_propertyType hlast htype
      obtain ⟨-, hanswer⟩ := hcalled.resolve_left fun hown => nomatch hnone.symm.trans hown
      rw [hgrown.answers] at hanswer
      have hseen := (hplaced.tidy (top.site_tidy name)).answered _ hanswer
      rcases Nesting.mem_outerInside.mp hseen with ⟨found, number, hnumbered, -, -⟩ | houter
      · obtain ⟨d, hd, -⟩ := hgrown.exists_of_mem_numbered hnumbered
        exact List.ne_nil_of_mem hd
      · -- from outside only the schema itself is seen, and it has a class name
        rw [(Nesting.run_later hgrown.run).outer] at houter
        have hself := congrArg Prod.fst (top.site_outer name _ houter)
        obtain rfl : last = top := Schema.ext hself
        cases hnone.symm.trans hname

/-- Inside schema classes, modules are called apart. -/
theorem Arena.modulesApart {id : NodeId}
    (h : arena.classTree (Decorator.standard {}) {} id = .ok tree) (hd : tree.decl.Descent d) :
    ModulesApart d.innerClasses := by
  have hdistinct := Arena.nodup_innerClasses h hd
  obtain ⟨schema, name, above, c, site, left, hplaced, rfl⟩ := Arena.exists_placed_decl h hd
  have hnumber : ∀ inner ∈ c.decl.innerClasses, ∃ number,
      inner.name = Settings.nestedName {} left.trail number := by
    intro inner hinner
    rw [hplaced.innerClasses_decl] at hinner
    obtain ⟨last, hlast, rfl⟩ := List.mem_map.mp hinner
    obtain ⟨entry, -, -, hcalled⟩ :=
      hplaced.exists_of_mem_inner (Decorator.standard_appendsOnly {}) hlast
    refine ⟨entry.2, hcalled.trans ?_⟩
    rw [Nesting.nestedName, hplaced.settings_eq]
    rfl
  refine ⟨(nodup_printedModules_iff hdistinct).mpr ?_, fun inner hinner hmem => ?_⟩
  · intro one hone _ other hother _ hmodule
    obtain ⟨number, honeName⟩ := hnumber one hone
    obtain ⟨second, hotherName⟩ := hnumber other hother
    rw [honeName, hotherName] at hmodule ⊢
    rw [eq_of_forModule_nestedName hmodule]
  · -- the stem begins with a capital
    obtain ⟨number, hname⟩ := hnumber inner hinner
    obtain ⟨other, -, -, hmodule⟩ := mem_printedModules.mp hmem
    have hcapital : 'N' ∈ inner.name.toList := by
      simp [hname, Settings.nestedName]
    exact forModule_ne (by decide) hcapital hmodule

/-! ## Resource classes -/

/-- The module that is printed behind the class of the resource, if there are resources below. -/
def Resource.module? (resource : Resource) : Option String :=
  if resource.resources.isEmpty then none
  else
    (Identifier.forClass? resource.name).map fun base => forModule (Settings.resourceName {} base)

namespace ResourceClasses

variable {service path : String} {resource : Resource}

/-- The class of a resource is called so by the standard settings. -/
theorem name_standard
    (h : ResourceClasses.classAt ⟨service, ResourceDecorator.standard, {}⟩ path resource = .ok c) :
    (Identifier.forClass? resource.name).map (Settings.resourceName {}) = some c.name := by
  obtain ⟨hname, -, -⟩ := classAt_standard h
  exact className_eq_ok.mp hname

/-- Every such name has a capital. -/
theorem capital_mem_name
    (h : ResourceClasses.classAt ⟨service, ResourceDecorator.standard, {}⟩ path resource = .ok c) :
    'R' ∈ c.name.toList := by
  obtain ⟨base, -, hname⟩ := Option.map_eq_some_iff.mp (name_standard h)
  rw [← hname, Settings.resourceName, String.toList_append]
  exact List.mem_append_right _ (by decide)

/-- A resource class has classes inside exactly if there are resources below. -/
theorem innerClasses_eq_nil_iff
    (h : ResourceClasses.classAt ⟨service, ResourceDecorator.standard, {}⟩ path resource = .ok c) :
    c.innerClasses = [] ↔ resource.resources = [] := by
  obtain ⟨-, -, hbelow⟩ := classAt_standard h
  rw [← List.length_eq_zero_iff, ← List.length_eq_zero_iff, hbelow.length_eq]

/-- The module is the one that the resource says. -/
theorem printedModule?_eq
    (h : ResourceClasses.classAt ⟨service, ResourceDecorator.standard, {}⟩ path resource = .ok c) :
    resource.module? = c.printedModule? := by
  have hname : (Identifier.forClass? resource.name).map
      (fun base => forModule (Settings.resourceName {} base)) = some (forModule c.name) := by
    rw [← Option.map_some (f := forModule), ← name_standard h, Option.map_map, Function.comp_def]
  rw [Resource.module?, ClassDecl.printedModule?, ClassDecl.moduleName, hname]
  by_cases hempty : resource.resources = []
  · rw [hempty, (innerClasses_eq_nil_iff h).mpr hempty]
    rfl
  · have hinner := mt (innerClasses_eq_nil_iff h).mp hempty
    simp [hempty, hinner]

/-- Inside a resource class, modules are called apart exactly if the resources below give
different modules. -/
theorem modulesApart_iff
    (h : ResourceClasses.classAt ⟨service, ResourceDecorator.standard, {}⟩ path resource = .ok d) :
    ModulesApart d.innerClasses ↔ (resource.resources.filterMap Resource.module?).Nodup := by
  obtain ⟨-, -, hbelow⟩ := classAt_standard h
  have hmodules :
      printedModules d.innerClasses = resource.resources.filterMap Resource.module? := by
    have hmap : resource.resources.map Resource.module? =
        d.innerClasses.map (·.printedModule?) :=
      map_eq_map_of_forall₂ hbelow printedModule?_eq
    have hreduce {α β : Type} (f : α → Option β) (l : List α) :
        l.filterMap f = (l.map f).filterMap id := by
      rw [List.filterMap_map]
      rfl
    rw [printedModules, hreduce, ← hmap, ← hreduce]
  rw [ModulesApart, hmodules, and_iff_left_iff_imp]
  -- no struct is called like a module, because of the ending
  intro _ inner hinner hmem
  rw [← hmodules] at hmem
  obtain ⟨below, -, hmade⟩ := exists_of_forall₂_right hbelow hinner
  obtain ⟨other, -, -, hmodule⟩ := mem_printedModules.mp hmem
  exact forModule_ne (by decide) (capital_mem_name hmade) hmodule

end ResourceClasses

/-! ## The top level -/

/-- The class of this name at the top level has a module. -/
inductive Document.HasModule (doc : Document) : String → Prop where
  /-- it is that of an object schema, and there are classes inside -/
  | schema {entry : String × NodeId} {schema : Schema doc.arena} {name : String} :
    entry ∈ doc.objectSchemas → schema.id = entry.2 → schema.className? = some name →
    schema.Houses → HasModule doc name
  /-- it is that of a resource, and there are resources below -/
  | resource {resource : Resource} {base : String} :
    resource ∈ doc.resources → resource.resources ≠ [] →
    Identifier.forClass? resource.name = some base →
    HasModule doc (Settings.resourceName {} base)

/-- The names in the document go well with modules. -/
structure Document.ModulesFit (doc : Document) : Prop where
  /-- at the top level, classes with different names have different modules -/
  apart : ∀ one other, doc.HasModule one → doc.HasModule other → forModule one = forModule other →
    one = other
  /-- no module there is called like the class of an object schema -/
  free : ∀ name, doc.HasModule name → ∀ entry ∈ doc.objectSchemas,
    doc.classNameAt entry ≠ some (forModule name)
  /-- resources side by side below a resource give different modules -/
  below : ∀ resource ∈ doc.resources.flatMap Resource.walk,
    (resource.resources.filterMap Resource.module?).Nodup

namespace Generates

variable (h : Generates text root doc trees resourceClasses code)

include h

/-- The classes with modules are those that the document says. -/
theorem hasModule_iff : doc.HasModule name ↔
    ∃ c ∈ trees.map (·.decl) ++ resourceClasses, c.innerClasses ≠ [] ∧ c.name = name := by
  constructor
  · rintro (⟨hentry, hid, hname, hhouses⟩ | ⟨hresource, hbelow, hbase⟩)
    · obtain ⟨tree, htree, hgrown⟩ := exists_of_forall₂_left h.grown hentry
      have hcalled := Document.classNameAt_of_tree hgrown
      rw [Document.classNameAt_eq hid, hname] at hcalled
      rw [← hid] at hgrown
      exact ⟨tree.decl, List.mem_append_left _ (List.mem_map_of_mem htree),
        (Arena.innerClasses_ne_nil_iff hgrown).mpr hhouses, (Option.some.inj hcalled).symm⟩
    · obtain ⟨c, hc, hmade⟩ := exists_of_forall₂_left h.made hresource
      have hcalled := ResourceClasses.name_standard hmade
      rw [hbase] at hcalled
      exact ⟨c, List.mem_append_right _ hc,
        mt (ResourceClasses.innerClasses_eq_nil_iff hmade).mp hbelow,
        (Option.some.inj hcalled).symm⟩
  · rintro ⟨c, hc, hinner, rfl⟩
    rcases List.mem_append.mp hc with hc | hc
    · obtain ⟨tree, htree, rfl⟩ := List.mem_map.mp hc
      obtain ⟨entry, hentry, hgrown⟩ := h.exists_entry htree
      obtain ⟨schema, name, -, -, hid, hname, hcalled, -, -⟩ := Arena.exists_placed hgrown .top
      rw [← hid] at hgrown
      exact .schema hentry hid (hcalled ▸ hname) ((Arena.innerClasses_ne_nil_iff hgrown).mp hinner)
    · obtain ⟨resource, hresource, hmade⟩ := exists_of_forall₂_right h.made hc
      obtain ⟨base, hbase, hcalled⟩ :=
        Option.map_eq_some_iff.mp (ResourceClasses.name_standard hmade)
      rw [← hcalled]
      exact .resource hresource
        (mt (ResourceClasses.innerClasses_eq_nil_iff hmade).mpr hinner) hbase

/-- At the top level, modules are called apart exactly if the names of the classes there go well
with them. -/
theorem modulesApart_iff : ModulesApart (trees.map (·.decl) ++ resourceClasses) ↔
    (∀ one other, doc.HasModule one → doc.HasModule other → forModule one = forModule other →
      one = other) ∧
    ∀ name, doc.HasModule name → ∀ entry ∈ doc.objectSchemas,
      doc.classNameAt entry ≠ some (forModule name) := by
  rw [ModulesApart, nodup_printedModules_iff h.distinct]
  refine and_congr ⟨?_, ?_⟩ ⟨?_, ?_⟩
  · intro hapart one other hone hother hmodule
    obtain ⟨c, hc, hinner, rfl⟩ := h.hasModule_iff.mp hone
    obtain ⟨d, hd, hotherInner, rfl⟩ := h.hasModule_iff.mp hother
    exact hapart c hc hinner d hd hotherInner hmodule
  · intro hapart c hc hinner d hd hotherInner hmodule
    have hone := h.hasModule_iff.mpr ⟨c, hc, hinner, rfl⟩
    have hother := h.hasModule_iff.mpr ⟨d, hd, hotherInner, rfl⟩
    exact hapart _ _ hone hother hmodule
  · intro hfree name hname entry hentry heq
    obtain ⟨c, hc, hinner, rfl⟩ := h.hasModule_iff.mp hname
    obtain ⟨tree, htree, hgrown⟩ := exists_of_forall₂_left h.grown hentry
    have hcalled := (Document.classNameAt_of_tree hgrown).symm.trans heq
    refine hfree tree.decl (List.mem_append_left _ (List.mem_map_of_mem htree)) ?_
    exact mem_printedModules.mpr ⟨c, hc, hinner, (Option.some.inj hcalled).symm⟩
  · intro hfree c hc hmem
    obtain ⟨other, hother, hinner, hmodule⟩ := mem_printedModules.mp hmem
    rcases List.mem_append.mp hc with hc | hc
    · obtain ⟨tree, htree, rfl⟩ := List.mem_map.mp hc
      obtain ⟨entry, hentry, hgrown⟩ := h.exists_entry htree
      have hname := h.hasModule_iff.mpr ⟨other, hother, hinner, rfl⟩
      refine hfree other.name hname entry hentry ?_
      rw [Document.classNameAt_of_tree hgrown, hmodule]
    · -- resource classes have a capital in the ending
      obtain ⟨resource, -, hmade⟩ := exists_of_forall₂_right h.made hc
      exact forModule_ne (by decide) (ResourceClasses.capital_mem_name hmade) hmodule

end Generates

/-- **Modules clash only over names in the document**: if a text generates code, modules are
called apart from each other and from the structs beside them, at the top level and inside every
class, exactly if the names in the document go well with modules. Inside schema classes they
always are. -/
theorem printed_apart_iff (h : generate text = .ok code) :
    ∃ root doc trees resourceClasses, Generates text root doc trees resourceClasses code ∧
      (∀ tree ∈ trees, ∀ c, tree.decl.Descent c → ModulesApart c.innerClasses) ∧
      (PrintedApart (trees.map (·.decl) ++ resourceClasses) ↔ doc.ModulesFit) := by
  obtain ⟨root, doc, trees, resourceClasses, hgen⟩ := exists_generates h
  have hschemas : ∀ tree ∈ trees, ∀ c, tree.decl.Descent c → ModulesApart c.innerClasses := by
    intro tree htree c hc
    obtain ⟨entry, -, hgrown⟩ := hgen.exists_entry htree
    exact Arena.modulesApart hgrown hc
  refine ⟨root, doc, trees, resourceClasses, hgen, hschemas, ?_, ?_⟩
  · rintro ⟨htop, hinside⟩
    obtain ⟨hapart, hfree⟩ := hgen.modulesApart_iff.mp htop
    refine ⟨hapart, hfree, fun resource hresource => ?_⟩
    -- what is below a resource is inside its class
    obtain ⟨top, htop, c, hc, way, hmade⟩ := hgen.exists_class hresource
    exact (ResourceClasses.modulesApart_iff hmade).mp
      (hinside top (List.mem_append_right _ htop) c hc)
  · intro hfit
    refine ⟨hgen.modulesApart_iff.mpr ⟨hfit.apart, hfit.free⟩, fun top htop c hc => ?_⟩
    rcases List.mem_append.mp htop with htop | htop
    · obtain ⟨tree, htree, rfl⟩ := List.mem_map.mp htop
      exact hschemas tree htree c hc
    · obtain ⟨resource, hresource, way, hmade⟩ := hgen.exists_resource htop hc
      exact (ResourceClasses.modulesApart_iff hmade).mpr (hfit.below resource hresource)

/-! ## Two capitals or one -/

/-- The objects `AB` and `Ab` both have a class inside. -/
def acronymText : String :=
  "\x7b\"schemas\":\x7b\"AB\":\x7b\"properties\":\x7b\"x\":\x7b\"type\":\"object\"\x7d\x7d\x7d," ++
    "\"Ab\":\x7b\"properties\":\x7b\"x\":\x7b\"type\":\"object\"\x7d\x7d\x7d\x7d\x7d"

/-- What is read from it. -/
def acronymRoot : Json :=
  .object [("schemas", .object [
    ("AB", .object [("properties", .object [("x", .object [("type", .string "object")])])]),
    ("Ab", .object [("properties", .object [("x", .object [("type", .string "object")])])])])]

theorem read_acronymText : Json.read acronymText = .ok acronymRoot := by
  unfold acronymText
  simp only [String.reduceAppend]
  exact Json.read_ofList (by decide)

theorem classes_acronymText : ∃ classes, generateClasses acronymText = .ok classes ∧
    printedModules classes = ["ab", "ab"] := by
  rw [generateClasses, Document.load, read_acronymText]
  exact Loading.exists_of_toOption (by decide +kernel)

theorem generate_acronymText : ∃ code, generate acronymText = .ok code := by
  obtain ⟨classes, hclasses, -⟩ := classes_acronymText
  exact exists_code (congrArg (·.toOption.isSome) hclasses)

/-- Whatever is generated for the document, two modules at the top level share a name. -/
theorem not_printedApart_acronymText
    (h : Generates acronymText root doc trees resourceClasses code) :
    ¬ PrintedApart (trees.map (·.decl) ++ resourceClasses) := by
  obtain ⟨classes, hclasses, hshown⟩ := classes_acronymText
  obtain rfl := Except.ok.inj (hclasses.symm.trans h.classes)
  rintro ⟨⟨hnodup, -⟩, -⟩
  rw [hshown] at hnodup
  exact absurd hnodup (by decide)

/-- Two modules are called `ab`. -/
theorem acronym_clash : ∃ code root doc trees resourceClasses,
    generate acronymText = .ok code ∧
      Generates acronymText root doc trees resourceClasses code ∧
      ¬ PrintedApart (trees.map (·.decl) ++ resourceClasses) := by
  obtain ⟨code, hcode⟩ := generate_acronymText
  obtain ⟨root, doc, trees, resourceClasses, hgen⟩ := exists_generates hcode
  exact ⟨code, root, doc, trees, resourceClasses, hcode, hgen, not_printedApart_acronymText hgen⟩

/-- The names of the two objects do not go well with modules. -/
theorem acronym_misfit : ∃ code root doc trees resourceClasses,
    generate acronymText = .ok code ∧
      Generates acronymText root doc trees resourceClasses code ∧ ¬ doc.ModulesFit := by
  obtain ⟨code, hcode⟩ := generate_acronymText
  obtain ⟨root, doc, trees, resourceClasses, hgen, -, hiff⟩ := printed_apart_iff hcode
  exact ⟨code, root, doc, trees, resourceClasses, hcode, hgen,
    fun hfit => not_printedApart_acronymText hgen (hiff.mpr hfit)⟩

end ApiClasses
