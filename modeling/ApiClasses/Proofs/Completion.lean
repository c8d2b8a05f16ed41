import ApiClasses.Proofs.Checks
import ApiClasses.Proofs.TopLevel
import Mathlib.Data.Option.Basic

/-!
# What a generation can fail for

The standard decorators never give up and never ask for a schema of another arena,
whatever they are answered (`Decoration.Completes`), so every schema with a class name gets
its class (`Arena.exists_classTree`). A checked document without resources can then only
fail for a reference at its top level, one that leads to an object without a class name or
with the class name of another one (`generation_succeeds_iff`). The check looks at the keys,
and there the class names are those of other places.
-/

namespace ApiClasses

open Json.Pointer (child)
open Loading (HoldsReference schemasLocation)

variable {text : String} {root : Json} {doc : Document} {arena : Arena} {α β : Type}
  {settings : Settings} {schema owner : Schema arena} {name : String}

/-! ## Decorations that complete -/

namespace Decoration

/-- Whatever the answers are, the program ends in a result, and it asks for schemas of the
arena alone. -/
def Completes : Decoration arena α → Prop
  | done _ => True
  | fail _ => False
  | request _ next => ∀ type, (next type).Completes
  | requestStranger _ _ => False

theorem completes_bind {m : Decoration arena α} {f : α → Decoration arena β} (hm : m.Completes)
    (hf : ∀ a, (f a).Completes) : (m >>= f).Completes := by
  induction m with
  | done result => exact hf result
  | fail error => exact hm.elim
  | request schema next ih => exact fun type => ih type (hm type)
  | requestStranger id next ih => exact hm.elim

theorem completes_map {m : Decoration arena α} {f : α → β} (hm : m.Completes) :
    (f <$> m).Completes := by
  rw [map_eq_pure_bind]
  exact completes_bind hm fun _ => trivial

/-- Steps in a row complete if each of them does. -/
theorem completes_foldlM {f : α → β → Decoration arena α} (hf : ∀ a step, (f a step).Completes)
    (steps : List β) (a : α) : (steps.foldlM f a).Completes := by
  induction steps generalizing a with
  | nil => trivial
  | cons step rest ih => exact completes_bind (hf a step) ih

end Decoration

/-- A run of such a decoration has a result, and no stranger is left behind. -/
theorem Nesting.run_completes {m : Decoration arena α} (hm : m.Completes)
    (nesting : Nesting arena) :
    ∃ a after, nesting.run m = .ok (a, after) ∧ after.strangers = nesting.strangers := by
  induction m generalizing nesting with
  | done result => exact ⟨result, nesting, rfl, rfl⟩
  | fail error => exact hm.elim
  | request schema next ih =>
    obtain ⟨a, after, hrun, hsame⟩ := ih _ (hm _) (nesting.request schema).2
    exact ⟨a, after, hrun, hsame.trans (strangers_request nesting schema)⟩
  | requestStranger id next ih => exact hm.elim

/-- The type of a schema can always be found. -/
theorem fieldType_completes {layers : Nat} {opened : List NodeId} :
    (fieldType layers opened schema).Completes := by
  induction layers using Nat.strongRecOn generalizing opened schema with
  | ind layers ih =>
    rcases schema.kinds with ⟨content, hcontent⟩ | hclass | ⟨hplain, hcontent⟩
    · obtain ⟨wrap, -, htype⟩ := fieldType_of_content hcontent
      rw [htype]
      refine Decoration.completes_map ?_
      cases layers with
      | zero => trivial
      | succ fewer =>
        rw [contentType]
        split
        · trivial
        · exact ih fewer (Nat.lt_succ_self fewer)
    · rcases hname : schema.className? with _ | name
      · rw [fieldType_of_nameless hclass hname]
        exact fun _ => trivial
      · rw [fieldType_of_className hclass.1 hname]
        trivial
    · obtain ⟨type, -, htype⟩ := fieldType_of_plain hplain hcontent
      rw [htype]
      trivial

theorem addProperties_completes (c : ClassDecl) : (addProperties owner c).Completes := by
  refine Decoration.completes_foldlM (fun c property => ?_) _ c
  refine Decoration.completes_bind ?_ fun _ => trivial
  exact Decoration.completes_bind fieldType_completes fun _ => trivial

/-! ## Trees -/

/-- A class whose decoration is going to complete. -/
structure Site.Ready (site : Site arena) : Prop where
  /-- no stranger has been asked for -/
  strangers : site.before.strangers = []
  /-- the decorators come to an end -/
  completes : site.decoration.Completes

/-- The standard decorators are ready for every top-level class… -/
theorem Schema.site_ready (schema : Schema arena) (name : String) :
    (schema.site (Decorator.standard settings) settings name).Ready := by
  refine ⟨rfl, ?_⟩
  obtain ⟨c, -, hall⟩ := Decorator.allAtTop_standard schema { name } settings
  rw [Schema.site, hall]
  exact addProperties_completes c

/-- …and for all classes inside. -/
theorem Nesting.site_ready (nesting : Nesting arena) :
    ∀ site ∈ nesting.sites (Decorator.standard settings), site.Ready := by
  intro site hsite
  obtain ⟨entry, -, rfl⟩ := List.mem_map.mp hsite
  refine ⟨rfl, ?_⟩
  obtain ⟨c, -, hall⟩ := Decorator.allInside_standard entry.1
    { name := nesting.nestedName entry.2 } settings (nesting.nestedName entry.2)
  rw [Nesting.site, hall]
  exact addProperties_completes c

/-- What grows at sites that are ready is complete. -/
theorem Grows.exists_ok {sites : List (Site arena)}
    {result : Except GenerationError (List ClassTree)}
    (h : Grows (Decorator.standard settings) sites result) (hready : ∀ site ∈ sites, site.Ready) :
    ∃ trees, result = .ok trees := by
  have hrun {site : Site arena} (hsite : site.Ready) :
      ∃ c after, site.before.decorating site.decoration = .ok (c, after) ∧
        after.strangers = [] := by
    obtain ⟨c, after, hok, hsame⟩ := Nesting.run_completes hsite.completes site.before
    exact ⟨c, after, Nesting.decorating_eq_ok.mpr hok, hsame.trans hsite.strangers⟩
  induction h with
  | nil => exact ⟨[], rfl⟩
  | undecorated hfails =>
    obtain ⟨c, after, hok, -⟩ := hrun (hready _ List.mem_cons_self)
    cases hok.symm.trans hfails
  | stranger hdone hstranger =>
    obtain ⟨c, after, hok, hnone⟩ := hrun (hready _ List.mem_cons_self)
    obtain ⟨-, rfl⟩ := Prod.mk.inj (Except.ok.inj (hok.symm.trans hdone))
    cases hnone.symm.trans hstranger
  | inside _ _ _ ih =>
    obtain ⟨trees, herror⟩ := ih (Nesting.site_ready _)
    cases herror
  | cons _ _ _ _ _ ih =>
    obtain ⟨trees, rfl⟩ := ih (List.forall_mem_cons.mp hready).2
    exact ⟨_, rfl⟩

namespace Arena

/-- A schema with a class name gets its class. -/
theorem exists_classTree (hname : schema.className? = some name) :
    ∃ tree, arena.classTree (Decorator.standard settings) settings schema.id = .ok tree := by
  obtain ⟨trees, htrees⟩ :=
    (schema.classTree_grows name).exists_ok (List.forall_mem_singleton.mpr (schema.site_ready name))
  rw [classTree, get?_id]
  simp only [hname]
  rcases htree : schema.classTree (Decorator.standard settings) settings name with error | tree
  · rw [htree] at htrees
    cases htrees
  · exact ⟨tree, rfl⟩

/-- So the class of a schema can only fail for want of a class name. -/
theorem classDecl_error {error : GenerationError}
    (h : arena.classDecl (Decorator.standard settings) settings schema.id = .error error) :
    error = .misuse (.unnamedSchema schema.id) := by
  rw [classDecl] at h
  rcases hname : schema.className? with _ | name
  · rw [classTree, get?_id] at h
    simp only [hname] at h
    exact (Except.error.inj h).symm
  · obtain ⟨tree, htree⟩ : ∃ tree,
        arena.classTree (Decorator.standard settings) settings schema.id = .ok tree :=
      exists_classTree hname
    rw [htree] at h
    cases h

end Arena

/-! ## Documents without resources -/

/-- Every reference at the top level that leads to an object leads to one with a class name,
which is that of no other object there. -/
def ReferencesFit (root : Json) (doc : Document) : Prop :=
  ∀ entry ∈ doc.objectSchemas, HoldsReference root (child schemasLocation entry.1) →
    (∃ name, doc.classNameAt entry = some name) ∧
      ∀ other ∈ doc.objectSchemas, other ≠ entry → doc.classNameAt other ≠ doc.classNameAt entry

theorem resources_of_load (hread : Json.read text = .ok root)
    (hnone : root.get? "resources" = none) (hload : Document.load text = .ok doc) :
    doc.resources = [] := by
  have hresources := Loading.topResources_of_load hread hload
  rw [hnone] at hresources
  exact (Except.ok.inj hresources).symm

/-- An entry at the top level is called like its key, or its key holds a reference. -/
theorem Document.classNameAt_of_key (hread : Json.read text = .ok root)
    (hload : Document.load text = .ok doc) {entry : String × NodeId}
    (hentry : entry ∈ doc.schemas) :
    (∃ schema : Schema doc.arena, schema.id = entry.2) ∧
      (doc.classNameAt entry = Identifier.forClass? entry.1 ∨
        HoldsReference root (child schemasLocation entry.1)) := by
  obtain ⟨place, hcharts, htop⟩ := exists_charts hread hload
  obtain ⟨_, -, rfl, hanswers⟩ := exists_of_forall₂_right htop hentry
  obtain ⟨schema, hid, -⟩ := id hanswers
  refine ⟨⟨schema, hid⟩, ?_⟩
  rcases hanswers.own_or_reference with hown | hreference
  · left
    rw [classNameAt_eq hid]
    exact hcharts.className?_of_own (hid ▸ hanswers) hown
  · exact .inr hreference

/-- Members that all have a partner make up a list of partners. -/
theorem exists_forall₂ {R : α → β → Prop} {as : List α} (h : ∀ a ∈ as, ∃ b, R a b) :
    ∃ bs, List.Forall₂ R as bs := by
  induction as with
  | nil => exact ⟨[], .nil⟩
  | cons a rest ih =>
    obtain ⟨hfirst, hrest⟩ := List.forall_mem_cons.mp h
    obtain ⟨b, hb⟩ := hfirst
    obtain ⟨bs, hbs⟩ := ih hrest
    exact ⟨b :: bs, .cons hb hbs⟩

section Fit

variable (hread : Json.read text = .ok root) (hload : Document.load text = .ok doc)
  (hcheck : doc.check = .ok ()) (hfit : ReferencesFit root doc)

include hread hload hcheck hfit

/-- If the references fit, all objects at the top level have class names… -/
theorem ReferencesFit.exists_name {entry : String × NodeId} (hentry : entry ∈ doc.objectSchemas) :
    ∃ name, doc.classNameAt entry = some name := by
  have hlisted := List.mem_of_mem_filter hentry
  obtain ⟨-, hkey | hreference⟩ := Document.classNameAt_of_key hread hload hlisted
  · obtain ⟨name, hname⟩ := ((Document.check_eq_ok_iff doc).mp hcheck).named entry hlisted
    exact ⟨name, hkey.trans hname⟩
  · exact (hfit entry hentry hreference).1

/-- …and these are different. -/
theorem ReferencesFit.nodup_names : (doc.objectSchemas.map doc.classNameAt).Nodup := by
  have hgood := (Document.check_eq_ok_iff doc).mp hcheck
  have hdistinct : doc.objectSchemas.Nodup := hgood.keys.of_map.filter _
  refine hdistinct.map_on fun one hone other hother hsame => ?_
  by_contra hne
  have honeListed := List.mem_of_mem_filter hone
  have hotherListed := List.mem_of_mem_filter hother
  obtain ⟨-, honeKey | hreference⟩ := Document.classNameAt_of_key hread hload honeListed
  · obtain ⟨-, hotherKey | hreference⟩ := Document.classNameAt_of_key hread hload hotherListed
    · -- both are called like their keys, and those give different names
      have hkeys := honeKey.symm.trans (hsame.trans hotherKey)
      exact hne (List.inj_on_of_nodup_map hgood.distinct honeListed hotherListed hkeys)
    · exact (hfit other hother hreference).2 one hone hne hsame
  · exact (hfit one hone hreference).2 other hother (Ne.symm hne) hsame.symm

/-- So all of them get their classes, which make up the code. -/
theorem ReferencesFit.exists_code (hresources : doc.resources = []) :
    ∃ code, generate text = .ok code := by
  have htrees : ∀ entry ∈ doc.objectSchemas, ∃ tree,
      doc.arena.classTree (Decorator.standard {}) {} entry.2 = .ok tree := by
    intro entry hentry
    obtain ⟨⟨schema, hid⟩, -⟩ :=
      Document.classNameAt_of_key hread hload (List.mem_of_mem_filter hentry)
    obtain ⟨name, hname⟩ := hfit.exists_name hread hload hcheck hentry
    rw [Document.classNameAt_eq hid] at hname
    rw [← hid]
    exact Arena.exists_classTree hname
  obtain ⟨trees, hgrown⟩ := exists_forall₂ htrees
  have hdistinct := hfit.nodup_names hread hload hcheck
  rw [map_eq_map_of_forall₂ hgrown Document.classNameAt_of_tree] at hdistinct
  have hgen : Generates text root doc trees []
      (header ++ sourceOfAll (trees.map (·.decl) ++ [])) := {
    read := hread
    load := hload
    checked := hcheck
    grown := hgrown
    made := hresources ▸ .nil
    distinct := by
      rw [List.append_nil, List.map_map]
      refine List.Nodup.of_map some ?_
      rwa [List.map_map]
    printed := rfl }
  exact ⟨_, hgen.generate_eq⟩

end Fit

/-- The references of a document that gives code fit. -/
theorem Generates.referencesFit {code : String} {trees : List ClassTree}
    {resourceClasses : List ClassDecl}
    (h : Generates text root doc trees resourceClasses code) : ReferencesFit root doc := by
  intro entry hentry _
  obtain ⟨tree, -, htree⟩ := exists_of_forall₂_left h.grown hentry
  -- the classes at the top level have different names
  have hnames : doc.classNames.Nodup := by
    rw [← h.classNames_eq]
    have hmap := h.distinct.map (Option.some_injective String)
    rwa [List.map_map] at hmap
  rw [Document.classNames, Document.classNamesBy, Document.map_className?_objects] at hnames
  refine ⟨⟨_, Document.classNameAt_of_tree htree⟩, fun other hother hne hsame => hne ?_⟩
  exact List.inj_on_of_nodup_map hnames.of_append_left hother hentry hsame

/-- Without resources, what fails after the check is a class at the top level. -/
theorem error_of_generate {error : GenerationError} (hread : Json.read text = .ok root)
    (hload : Document.load text = .ok doc) (hcheck : doc.check = .ok ())
    (hresources : doc.resources = []) (h : generate text = .error error) :
    (∃ id, error = .misuse (.unnamedSchema id)) ∨
      ∃ name, error = .conflict (.classNameTwice name) := by
  rw [generate, generateClasses, hload] at h
  dsimp only at h
  rw [Document.standardClasses, Document.classes, hcheck] at h
  dsimp only at h
  rw [Document.classesOfChecked, hresources] at h
  rcases hschemas : doc.objectSchemas.foldlM (fun classes entry => do
    addDistinct classes (← doc.arena.classDecl (Decorator.standard {}) {} entry.2)) [] with
      found | classes
  · rw [hschemas] at h
    obtain rfl := Except.error.inj h
    rcases foldlM_addDistinct_error hschemas with ⟨entry, hentry, hfails⟩ | hclash
    · obtain ⟨⟨schema, hid⟩, -⟩ :=
        Document.classNameAt_of_key hread hload (List.mem_of_mem_filter hentry)
      rw [← hid] at hfails
      exact .inl ⟨schema.id, Arena.classDecl_error hfails⟩
    · exact .inr hclash
  · rw [hschemas] at h
    cases h

/-- **Generation fails only for references at the top level**: a text without resources whose
document loads and passes the check gives code exactly if the references at the top level
fit. If it gives none, an object has no class name, or two have the same one. -/
theorem generation_succeeds_iff (hread : Json.read text = .ok root)
    (hnone : root.get? "resources" = none) (hload : Document.load text = .ok doc)
    (hcheck : doc.check = .ok ()) :
    ((∃ code, generate text = .ok code) ↔ ReferencesFit root doc) ∧
      ∀ error, generate text = .error error →
        (∃ id, error = .misuse (.unnamedSchema id)) ∨
          ∃ name, error = .conflict (.classNameTwice name) := by
  have hresources := resources_of_load hread hnone hload
  refine ⟨⟨?_, ?_⟩, fun error h => error_of_generate hread hload hcheck hresources h⟩
  · rintro ⟨code, hcode⟩
    obtain ⟨root', doc', trees, resourceClasses, hgen⟩ := exists_generates hcode
    obtain rfl : root' = root := Except.ok.inj (hgen.read.symm.trans hread)
    obtain rfl : doc' = doc := Except.ok.inj (hgen.load.symm.trans hload)
    exact hgen.referencesFit
  · intro hfit
    exact hfit.exists_code hread hload hcheck hresources

/-! ## Two keys for one object -/

/-- `B` refers to `A`. -/
def aliasText : String :=
  "\x7b\"schemas\":\x7b\"A\":\x7b\"type\":\"object\"\x7d,\"B\":\x7b\"$ref\":\"A\"\x7d\x7d\x7d"

/-- What is read from it. -/
def aliasRoot : Json :=
  .object [("schemas", .object [("A", .object [("type", .string "object")]),
    ("B", .object [("$ref", .string "A")])])]

theorem read_aliasText : Json.read aliasText = .ok aliasRoot :=
  Json.read_ofList (by decide)

theorem load_aliasText : ∃ doc, Document.load aliasText = .ok doc ∧ doc.check = .ok () := by
  rw [Document.load, read_aliasText]
  obtain ⟨doc, hload, hcheck⟩ : ∃ doc, Loading.document aliasRoot = .ok doc ∧
      doc.check.toOption.map (fun _ => ()) = some () :=
    Loading.exists_of_toOption (by decide)
  obtain ⟨⟨⟩, hcheck, -⟩ := Loading.exists_of_toOption hcheck
  exact ⟨doc, hload, hcheck⟩

theorem generate_aliasText :
    generate aliasText = .error (.conflict (.classNameTwice "A")) := by
  rw [generate, generateClasses, Document.load, read_aliasText]
  decide +kernel

/-- The check has nothing against the document, but nothing is generated for it. -/
theorem alias_refused : ∃ root doc, Json.read aliasText = .ok root ∧
    root.get? "resources" = none ∧ Document.load aliasText = .ok doc ∧ doc.check = .ok () ∧
    generate aliasText = .error (.conflict (.classNameTwice "A")) := by
  obtain ⟨doc, hload, hcheck⟩ := load_aliasText
  exact ⟨aliasRoot, doc, read_aliasText, rfl, hload, hcheck, generate_aliasText⟩

/-- The cause is the reference. -/
theorem alias_misfit : ∃ root doc, Json.read aliasText = .ok root ∧
    root.get? "resources" = none ∧ Document.load aliasText = .ok doc ∧ doc.check = .ok () ∧
    ¬ ReferencesFit root doc := by
  obtain ⟨doc, hload, hcheck⟩ := load_aliasText
  refine ⟨aliasRoot, doc, read_aliasText, rfl, hload, hcheck, fun hfit => ?_⟩
  obtain ⟨code, hcode⟩ := (generation_succeeds_iff read_aliasText rfl hload hcheck).1.mpr hfit
  cases generate_aliasText.symm.trans hcode

end ApiClasses
