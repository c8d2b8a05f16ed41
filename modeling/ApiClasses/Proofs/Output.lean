import ApiClasses.Generation
import ApiClasses.Proofs.Growth
import ApiClasses.Proofs.Loading.Documents
import Mathlib.Data.List.Forall2
import Mathlib.Data.List.Nodup

/-!
# What a generation goes through

A generation that succeeds has read and loaded its text, checked the document, grown a
tree for every object schema at the top level and made a class for every resource; the
names of all these classes are distinct, and their declarations are what is printed
(`Generates`). Everything that is said of generated code is said of the trees.
-/

namespace ApiClasses

open Loading (bind_eq_error bind_eq_ok)

variable {text code : String} {α : Type} {entries : List α}
  {f : α → Except GenerationError ClassDecl} {before after : List ClassDecl}

/-! ## Classes one after the other -/

theorem addDistinct_eq_ok {c : ClassDecl} (h : addDistinct before c = .ok after) :
    after = before ++ [c] ∧ c.name ∉ before.map (·.name) := by
  rw [addDistinct] at h
  split at h
  · cases h
  · next hnew =>
    refine ⟨(Except.ok.inj h).symm, ?_⟩
    simpa [List.mem_map] using hnew

/-- Classes that are added one after the other keep their order, and their names are
distinct. -/
theorem foldlM_addDistinct
    (h : entries.foldlM (fun classes entry => do addDistinct classes (← f entry)) before =
      .ok after)
    (hbefore : (before.map (·.name)).Nodup) :
    ∃ added, after = before ++ added ∧ List.Forall₂ (fun entry c => f entry = .ok c) entries added ∧
      (after.map (·.name)).Nodup := by
  induction entries generalizing before with
  | nil =>
    obtain rfl := Except.ok.inj h
    exact ⟨[], (List.append_nil _).symm, .nil, hbefore⟩
  | cons entry rest ih =>
    rw [List.foldlM_cons] at h
    obtain ⟨next, hnext, hrest⟩ := bind_eq_ok h
    obtain ⟨c, hc, hadded⟩ := bind_eq_ok hnext
    obtain ⟨rfl, hnew⟩ := addDistinct_eq_ok hadded
    have hdistinct : ((before ++ [c]).map (·.name)).Nodup := by
      rw [List.map_append, List.nodup_append]
      refine ⟨hbefore, List.nodup_singleton _, ?_⟩
      intro name hname other hother heq
      obtain rfl : other = c.name := List.mem_singleton.mp hother
      exact hnew (heq ▸ hname)
    obtain ⟨added, rfl, hall, hnodup⟩ := ih hrest hdistinct
    exact ⟨c :: added, List.append_assoc .., .cons hc hall, hnodup⟩

theorem addDistinct_of_notMem {c : ClassDecl} (h : c.name ∉ before.map (·.name)) :
    addDistinct before c = .ok (before ++ [c]) := by
  rw [addDistinct, if_neg]
  simpa [List.mem_map] using h

/-- Classes can be added one after the other if their names are distinct. -/
theorem foldlM_addDistinct_of_nodup {added : List ClassDecl}
    (h : List.Forall₂ (fun entry c => f entry = .ok c) entries added)
    (hdistinct : ((before ++ added).map (·.name)).Nodup) :
    entries.foldlM (fun classes entry => do addDistinct classes (← f entry)) before =
      .ok (before ++ added) := by
  induction h generalizing before with
  | nil =>
    rw [List.append_nil]
    rfl
  | @cons entry c rest added hc _ ih =>
    have hnew : c.name ∉ before.map (·.name) := by
      intro hmem
      rw [List.map_append, List.nodup_append] at hdistinct
      exact hdistinct.2.2 c.name hmem c.name List.mem_cons_self rfl
    have hstep : (f entry >>= addDistinct before) = .ok (before ++ [c]) := by
      rw [hc]
      exact addDistinct_of_notMem hnew
    rw [List.append_cons] at hdistinct ⊢
    rw [List.foldlM_cons, hstep]
    exact ih hdistinct

/-- Adding classes one after the other fails with an error of one of them, or because two of
them share a name. -/
theorem foldlM_addDistinct_error {error : GenerationError}
    (h : entries.foldlM (fun classes entry => do addDistinct classes (← f entry)) before =
      .error error) :
    (∃ entry ∈ entries, f entry = .error error) ∨
      ∃ name, error = .conflict (.classNameTwice name) := by
  induction entries generalizing before with
  | nil => cases h
  | cons entry rest ih =>
    rw [List.foldlM_cons] at h
    rcases bind_eq_error h with hstep | ⟨next, -, hrest⟩
    · rcases bind_eq_error hstep with hfirst | ⟨c, -, hadd⟩
      · exact .inl ⟨entry, List.mem_cons_self, hfirst⟩
      · rw [addDistinct] at hadd
        split at hadd
        · exact .inr ⟨c.name, (Except.error.inj hadd).symm⟩
        · cases hadd
    · rcases ih hrest with ⟨other, hother, hfails⟩ | hclash
      · exact .inl ⟨other, List.mem_cons_of_mem _ hother, hfails⟩
      · exact .inr hclash

/-- Declarations of trees come with the trees. -/
theorem exists_trees {arena : Arena} {decorators : List Decorator} {settings : Settings}
    {entries : List (String × NodeId)} {decls : List ClassDecl}
    (h : List.Forall₂ (fun entry c => arena.classDecl decorators settings entry.2 = .ok c)
      entries decls) :
    ∃ trees : List ClassTree, decls = trees.map (·.decl) ∧
      List.Forall₂ (fun entry tree => arena.classTree decorators settings entry.2 = .ok tree)
        entries trees := by
  induction h with
  | nil => exact ⟨[], rfl, .nil⟩
  | cons hc _ ih =>
    obtain ⟨trees, rfl, hall⟩ := ih
    obtain ⟨tree, htree, rfl⟩ := Arena.classDecl_eq_ok.mp hc
    exact ⟨tree :: trees, rfl, .cons htree hall⟩

/-- The classes of a document are those of its object schemas and then those of its
resources, each as it is made alone. The document has to pass the check, and the names have to
be distinct. -/
theorem Document.standardClasses_eq_ok {doc : Document} {settings : Settings}
    {classes : List ClassDecl} :
    doc.standardClasses settings = .ok classes ↔
      doc.check = .ok () ∧ ∃ schemaClasses resourceClasses,
        classes = schemaClasses ++ resourceClasses ∧
        List.Forall₂
          (fun entry c =>
            doc.arena.classDecl (Decorator.standard settings) settings entry.2 = .ok c)
          doc.objectSchemas schemaClasses ∧
        List.Forall₂
          (fun resource c => ResourceClasses.classDecl
            ⟨doc.name, ResourceDecorator.standard, settings⟩ resource = .ok c)
          doc.resources resourceClasses ∧
        (classes.map (·.name)).Nodup := by
  rw [standardClasses, Document.classes]
  rcases hcheck : doc.check with error | ⟨⟩
  · simp
  · dsimp only
    rw [classesOfChecked]
    constructor
    · intro h
      obtain ⟨schemaClasses, hschemas, h⟩ := bind_eq_ok h
      obtain ⟨_, rfl, hgrown, hdistinct⟩ := foldlM_addDistinct hschemas List.nodup_nil
      obtain ⟨resourceClasses, rfl, hmade, hdistinct⟩ := foldlM_addDistinct h hdistinct
      exact ⟨rfl, schemaClasses, resourceClasses, rfl, hgrown, hmade, hdistinct⟩
    · rintro ⟨-, schemaClasses, resourceClasses, rfl, hgrown, hmade, hdistinct⟩
      have hnodup : (([] ++ schemaClasses).map ClassDecl.name).Nodup := by
        rw [List.map_append] at hdistinct
        exact hdistinct.of_append_left
      have hschemas := foldlM_addDistinct_of_nodup hgrown hnodup
      have hresources := foldlM_addDistinct_of_nodup hmade hdistinct
      exact (congrArg (· >>= _) hschemas).trans hresources

/-! ## Whole generations -/

/-- The resource classes of a document. -/
def Document.resourceGenerator (doc : Document) : ResourceClasses :=
  ⟨doc.name, ResourceDecorator.standard, {}⟩

/-- The object schemas at the top level are the entries that lead to an object. -/
theorem Document.mem_objectSchemas_iff {doc : Document} {entry : String × NodeId}
    {schema : Schema doc.arena} (hid : schema.id = entry.2) :
    entry ∈ doc.objectSchemas ↔ entry ∈ doc.schemas ∧ schema.isObject = true := by
  rw [objectSchemas, List.mem_filter]
  dsimp only
  rw [← hid, Arena.get?_id]
  rfl

/-- The text becomes the code, by way of a document, a tree for each of its top-level
object schemas and a class for each of its top-level resources. -/
structure Generates (text : String) (root : Json) (doc : Document) (trees : List ClassTree)
    (resourceClasses : List ClassDecl) (code : String) : Prop where
  /-- the text is read -/
  read : Json.read text = .ok root
  /-- it is loaded as a document -/
  load : Document.load text = .ok doc
  /-- the document passes the check -/
  checked : doc.check = .ok ()
  /-- every object schema at the top level has its tree -/
  grown : List.Forall₂
    (fun entry tree => doc.arena.classTree (Decorator.standard {}) {} entry.2 = .ok tree)
    doc.objectSchemas trees
  /-- every resource at the top level has its class -/
  made : List.Forall₂ (fun resource c => doc.resourceGenerator.classDecl resource = .ok c)
    doc.resources resourceClasses
  /-- the names of the classes at the top level are distinct -/
  distinct : ((trees.map (·.decl) ++ resourceClasses).map (·.name)).Nodup
  /-- the classes are what is printed -/
  printed : code = header ++ sourceOfAll (trees.map (·.decl) ++ resourceClasses)

/-- A generation that succeeds has gone through all of its stages. -/
theorem exists_generates (h : generate text = .ok code) :
    ∃ root doc trees resourceClasses, Generates text root doc trees resourceClasses code := by
  rw [generate] at h
  rcases hclasses : generateClasses text with error | classes
  · rw [hclasses] at h
    cases h
  · rw [hclasses] at h
    obtain rfl := Except.ok.inj h
    rw [generateClasses] at hclasses
    rcases hload : Document.load text with error | doc
    · rw [hload] at hclasses
      cases hclasses
    · rw [hload] at hclasses
      obtain ⟨hcheck, schemaClasses, resourceClasses, rfl, hgrown, hmade, hdistinct⟩ :=
        Document.standardClasses_eq_ok.mp hclasses
      obtain ⟨trees, rfl, htrees⟩ := exists_trees hgrown
      obtain ⟨root, hread⟩ := Loading.exists_read_of_load hload
      exact ⟨root, doc, trees, resourceClasses, hread, hload, hcheck, htrees, hmade, hdistinct, rfl⟩

/-- The declarations of the trees are what is made of the object schemas alone. -/
theorem Generates.grown_decls {root : Json} {doc : Document} {trees : List ClassTree}
    {resourceClasses : List ClassDecl}
    (h : Generates text root doc trees resourceClasses code) :
    List.Forall₂ (fun entry c => doc.arena.classDecl (Decorator.standard {}) {} entry.2 = .ok c)
      doc.objectSchemas (trees.map (·.decl)) :=
  List.forall₂_map_right_iff.mpr (h.grown.imp fun _ tree htree =>
    Arena.classDecl_eq_ok.mpr ⟨tree, htree, rfl⟩)

/-- The classes of a generation are what the generator gives. -/
theorem Generates.classes {root : Json} {doc : Document} {trees : List ClassTree}
    {resourceClasses : List ClassDecl}
    (h : Generates text root doc trees resourceClasses code) :
    generateClasses text = .ok (trees.map (·.decl) ++ resourceClasses) := by
  rw [generateClasses, h.load]
  exact Document.standardClasses_eq_ok.mpr
    ⟨h.checked, _, _, rfl, h.grown_decls, h.made, h.distinct⟩

/-- Nothing but the stages is needed for the code. -/
theorem Generates.generate_eq {root : Json} {doc : Document} {trees : List ClassTree}
    {resourceClasses : List ClassDecl}
    (h : Generates text root doc trees resourceClasses code) : generate text = .ok code := by
  rw [generate, h.classes, h.printed]
  rfl

/-- There is code if there are classes. -/
theorem exists_code (h : (generateClasses text).toOption.isSome = true) :
    ∃ code, generate text = .ok code := by
  rcases hclasses : generateClasses text with error | classes
  · rw [hclasses] at h
    cases h
  · rw [generate, hclasses]
    exact ⟨_, rfl⟩

end ApiClasses
