import ApiClasses.Proofs.Completion

/-!
# When classes are generated

What a document must be like for its classes to be generated (`Document.Fit`): it passes the
check, its objects at the top level have class names, the names of all classes there are
different, and every resource, at any depth, has a class name and methods with names of their
own. Nothing else is needed (`classes_iff_fit`). The standard decorators never give up on
schemas, and on resources only for the names of methods, because the check has already looked
at what they answer with and at the name of the service.
-/

namespace ApiClasses

open Loading (bind_eq_ok)

/-! ## Methods -/

section Methods

variable {path service className : String} {settings : Settings} {resource : Resource}
  {endpoint : Endpoint} {c : ClassDecl}

/-- What the endpoint answers with has a class name. -/
def Endpoint.Answerable (endpoint : Endpoint) : Prop :=
  ∀ response, endpoint.response = some response →
    ∃ answer, Identifier.forClass? response = some answer

theorem exists_answerClass_iff :
    (∃ answer, answerClass className endpoint = .ok answer) ↔ endpoint.Answerable := by
  rw [Endpoint.Answerable, answerClass]
  rcases endpoint.response with _ | response
  · simp
  · rcases hname : Identifier.forClass? response with _ | answer <;> simp [hname]

/-- Methods can be added one after the other exactly if their answers have class names, and
the methods have names of their own. -/
theorem exists_foldlM_addRequest_iff {endpoints : List Endpoint} :
    (∃ decorated, endpoints.foldlM (addRequest path) c = .ok decorated) ↔
      (∀ endpoint ∈ endpoints, endpoint.Answerable) ∧
      (∀ endpoint ∈ endpoints, c.declares (Identifier.forMember endpoint.name) = false) ∧
      (endpoints.map fun endpoint => Identifier.forMember endpoint.name).Nodup := by
  induction endpoints generalizing c with
  | nil =>
    exact ⟨fun _ => ⟨List.forall_mem_nil _, List.forall_mem_nil _, List.nodup_nil⟩,
      fun _ => ⟨c, rfl⟩⟩
  | cons endpoint rest ih =>
    rw [List.foldlM_cons, addRequest]
    by_cases hdeclared : c.declares (Identifier.forMember endpoint.name) = true
    · simp [hdeclared, bind, Except.bind]
    · rcases hanswer : answerClass c.name endpoint with error | answer
      · have hunanswered : ¬ endpoint.Answerable := by
          rw [← exists_answerClass_iff, hanswer]
          simp
        simp [hdeclared, hunanswered, bind, Except.bind]
      · have hanswered : endpoint.Answerable := exists_answerClass_iff.mp ⟨answer, hanswer⟩
        have hdeclares (other : Endpoint) :
            (c.addMethod (requestMethod path endpoint answer)).declares
                (Identifier.forMember other.name) = false ↔
              c.declares (Identifier.forMember other.name) = false ∧
                Identifier.forMember endpoint.name ≠ Identifier.forMember other.name := by
          simp [requestMethod]
        rw [if_neg hdeclared]
        refine ih.trans ⟨?_, ?_⟩
        · rintro ⟨hanswers, hfree, hdistinct⟩
          refine ⟨List.forall_mem_cons.mpr ⟨hanswered, hanswers⟩, ?_, ?_⟩
          · refine List.forall_mem_cons.mpr ⟨eq_false_of_ne_true hdeclared, ?_⟩
            exact fun other hother => ((hdeclares other).mp (hfree other hother)).1
          · refine List.nodup_cons.mpr ⟨fun hmem => ?_, hdistinct⟩
            obtain ⟨other, hother, hsame⟩ := List.mem_map.mp hmem
            exact ((hdeclares other).mp (hfree other hother)).2 hsame.symm
        · rintro ⟨hanswers, hfree, hdistinct⟩
          obtain ⟨hnew, hdistinct⟩ := List.nodup_cons.mp hdistinct
          refine ⟨fun other hother => hanswers other (List.mem_cons_of_mem _ hother), ?_, hdistinct⟩
          refine fun other hother => (hdeclares other).mpr ⟨?_, fun hsame => hnew ?_⟩
          · exact hfree other (List.mem_cons_of_mem _ hother)
          · exact List.mem_map.mpr ⟨other, hother, hsame.symm⟩

end Methods

/-! ## Resources -/

/-- What a resource must be like for its class to be generated. -/
structure Resource.Fit (resource : Resource) : Prop where
  /-- its name gives a class name -/
  named : ∃ base, Identifier.forClass? resource.name = some base
  /-- its methods have different names -/
  distinct : (resource.endpoints.map fun endpoint => Identifier.forMember endpoint.name).Nodup
  /-- none of them is called like the handle -/
  free : "service" ∉ resource.endpoints.map fun endpoint => Identifier.forMember endpoint.name

namespace ResourceClasses

variable {generator : ResourceClasses} {path service : String} {settings : Settings}
  {resource last : Resource} {name : String} {c : ClassDecl}

/-- The standard decorators give up only for the name of the service, an answer, or the name of
a method. -/
theorem exists_decorated_iff :
    (∃ decorated, ResourceClasses.decorated ⟨service, ResourceDecorator.standard, settings⟩ path
        resource { name } = .ok decorated) ↔
      (∃ base, Identifier.forClass? service = some base) ∧
      (∀ endpoint ∈ resource.endpoints, endpoint.Answerable) ∧
      "service" ∉ (resource.endpoints.map fun endpoint => Identifier.forMember endpoint.name) ∧
      (resource.endpoints.map fun endpoint => Identifier.forMember endpoint.name).Nodup := by
  have hempty (member : String) : ClassDecl.declares { name } member = false := rfl
  have hfree (base : String) : (∀ endpoint ∈ resource.endpoints,
        (ClassDecl.addField { name } (handleField base path)).declares
          (Identifier.forMember endpoint.name) = false) ↔
      "service" ∉ (resource.endpoints.map fun endpoint => Identifier.forMember endpoint.name) := by
    simp [handleField, hempty, @eq_comm _ "service"]
  constructor
  · rintro ⟨decorated, h⟩
    obtain ⟨base, hbase, hfold⟩ := decorated_eq_ok_iff.mp h
    obtain ⟨hanswers, hnew, hdistinct⟩ := exists_foldlM_addRequest_iff.mp ⟨decorated, hfold⟩
    exact ⟨⟨base, hbase⟩, hanswers, (hfree base).mp hnew, hdistinct⟩
  · rintro ⟨⟨base, hbase⟩, hanswers, hnew, hdistinct⟩
    obtain ⟨decorated, hfold⟩ :=
      exists_foldlM_addRequest_iff.mpr ⟨hanswers, (hfree base).mpr hnew, hdistinct⟩
    exact ⟨decorated, decorated_eq_ok_iff.mpr ⟨base, hbase, hfold⟩⟩

theorem classesBelow_of_forall₂ {resources : List Resource} {decls : List ClassDecl}
    (h : List.Forall₂
      (fun below d => generator.classAt (path ++ "." ++ below.name) below = .ok d)
      resources decls) :
    generator.classesBelow path resources = .ok decls := by
  induction h with
  | nil => rfl
  | cons hd _ ih =>
    rw [classesBelow, hd, ih]
    rfl

/-- A resource has a class if it has a class name, the decorators do not give up, and all
resources directly below have classes. -/
theorem exists_classAt (hname : generator.className resource.name = .ok name)
    {decorated : ClassDecl}
    (hdecorated : generator.decorated path resource { name } = .ok decorated)
    (hbelow : ∀ below ∈ resource.resources, ∀ way, ∃ d, generator.classAt way below = .ok d) :
    ∃ c, generator.classAt path resource = .ok c := by
  obtain ⟨decls, hdecls⟩ := exists_forall₂ fun below hmem =>
    hbelow below hmem (path ++ "." ++ below.name)
  obtain ⟨own, endpoints, resources⟩ := resource
  rw [classAt, hname]
  dsimp only [bind, Except.bind]
  rw [hdecorated, classesBelow_of_forall₂ hdecls]
  exact ⟨_, rfl⟩

/-- If the service and all answers have class names, the standard decorators make a class of a
resource tree exactly if every resource in it is fit. -/
theorem exists_classAt_iff (hservice : ∃ base, Identifier.forClass? service = some base)
    (hanswers : ∀ last ∈ resource.walk, ∀ endpoint ∈ last.endpoints, endpoint.Answerable) :
    (∃ c, ResourceClasses.classAt ⟨service, ResourceDecorator.standard, settings⟩ path resource =
        .ok c) ↔
      ∀ last ∈ resource.walk, last.Fit := by
  constructor
  · rintro ⟨c, hc⟩ last hlast
    obtain ⟨d, way, -, hmade⟩ := exists_class hc (Resource.mem_walk_iff.mp hlast)
    obtain ⟨name, decorated, -, hname, hdecorated, -, -⟩ := classAt_eq_ok hmade
    obtain ⟨base, hbase, -⟩ := Option.map_eq_some_iff.mp (className_eq_ok.mp hname)
    obtain ⟨-, -, hfree, hdistinct⟩ := exists_decorated_iff.mp ⟨decorated, hdecorated⟩
    exact ⟨⟨base, hbase⟩, hdistinct, hfree⟩
  · intro hfit
    induction resource using Resource.induction_below generalizing path with
    | step resource ih =>
      rw [Resource.walk_eq] at hfit hanswers
      obtain ⟨hself, hrest⟩ := List.forall_mem_cons.mp hfit
      obtain ⟨hanswered, hlater⟩ := List.forall_mem_cons.mp hanswers
      obtain ⟨base, hbase⟩ := hself.named
      obtain ⟨decorated, hdecorated⟩ := exists_decorated_iff.mpr
        ⟨hservice, hanswered, hself.free, hself.distinct⟩
      have hname : ResourceClasses.className ⟨service, ResourceDecorator.standard, settings⟩
          resource.name = .ok (settings.resourceName base) :=
        className_eq_ok.mpr (congrArg (Option.map settings.resourceName) hbase)
      refine exists_classAt hname hdecorated fun below hbelow way => ?_
      have hwalk {last : Resource} (hlast : last ∈ below.walk) :
          last ∈ resource.resources.flatMap Resource.walk :=
        List.mem_flatMap.mpr ⟨below, hbelow, hlast⟩
      exact ih below hbelow (fun last hlast => hlater last (hwalk hlast))
        fun last hlast => hrest last (hwalk hlast)

end ResourceClasses

/-! ## Checked resources -/

namespace Document

variable {doc : Document} {resource : Resource}

/-- In a checked document, all answers have class names. -/
theorem answerable_of_check (h : doc.check = .ok ()) :
    ∀ resource ∈ doc.resources.flatMap Resource.walk, ∀ endpoint ∈ resource.endpoints,
      endpoint.Answerable := by
  intro resource hresource endpoint hendpoint response hresponse
  have hgood := (check_eq_ok_iff doc).mp h
  -- a known response is a key, and all keys have class names
  have hknown := hgood.known resource hresource endpoint hendpoint response hresponse
  obtain ⟨entry, hentry, rfl⟩ := List.mem_map.mp hknown
  exact hgood.named entry hentry

/-- A checked document with resources has a service name. -/
theorem exists_service_of_check (h : doc.check = .ok ()) (hresource : resource ∈ doc.resources) :
    ∃ base, Identifier.forClass? doc.name = some base := by
  rcases ((check_eq_ok_iff doc).mp h).service with hnone | hservice
  · exact absurd hresource (hnone ▸ List.not_mem_nil)
  · exact hservice

/-! ## Documents -/

/-- What a document must be like for its classes to be generated. -/
structure Fit (doc : Document) (settings : Settings) : Prop where
  /-- it passes the check -/
  checked : doc.check = .ok ()
  /-- every object at the top level has a class name -/
  named : ∀ schema ∈ doc.objects, ∃ name, schema.className? = some name
  /-- the classes at the top level have different names -/
  distinct : (doc.classNamesBy settings).Nodup
  /-- every resource, at any depth, is fit -/
  resources : ∀ resource ∈ doc.resources.flatMap Resource.walk, resource.Fit

variable {settings : Settings}

/-- A schema has a class exactly if it has a class name. -/
theorem exists_classDecl_iff (settings : Settings) {schema : Schema doc.arena} :
    (∃ c, doc.arena.classDecl (Decorator.standard settings) settings schema.id = .ok c) ↔
      ∃ name, schema.className? = some name := by
  constructor
  · rintro ⟨c, hc⟩
    obtain ⟨tree, htree, rfl⟩ := Arena.classDecl_eq_ok.mp hc
    obtain ⟨found, name, -, -, hid, hname, -⟩ := Arena.exists_placed htree .top
    obtain rfl := Schema.ext hid
    exact ⟨name, hname⟩
  · rintro ⟨name, hname⟩
    obtain ⟨tree, htree⟩ : ∃ tree,
        doc.arena.classTree (Decorator.standard settings) settings schema.id = .ok tree :=
      Arena.exists_classTree hname
    exact ⟨tree.decl, Arena.classDecl_eq_ok.mpr ⟨tree, htree, rfl⟩⟩

/-- The resources of a checked document have classes exactly if all of them are fit. -/
theorem exists_resourceClass_iff (settings : Settings) (hcheck : doc.check = .ok ()) :
    (∀ resource ∈ doc.resources, ∃ c, ResourceClasses.classDecl
        ⟨doc.name, ResourceDecorator.standard, settings⟩ resource = .ok c) ↔
      ∀ resource ∈ doc.resources.flatMap Resource.walk, resource.Fit := by
  have hone {resource : Resource} (hresource : resource ∈ doc.resources) :
      (∃ c, ResourceClasses.classDecl ⟨doc.name, ResourceDecorator.standard, settings⟩ resource =
          .ok c) ↔
        ∀ last ∈ resource.walk, last.Fit :=
    ResourceClasses.exists_classAt_iff (exists_service_of_check hcheck hresource)
      fun last hlast => answerable_of_check hcheck last (List.mem_flatMap.mpr ⟨_, hresource, hlast⟩)
  constructor
  · intro h last hlast
    obtain ⟨resource, hresource, hwalk⟩ := List.mem_flatMap.mp hlast
    exact (hone hresource).mp (h resource hresource) last hwalk
  · intro h resource hresource
    refine (hone hresource).mpr fun last hlast => h last ?_
    exact List.mem_flatMap.mpr ⟨resource, hresource, hlast⟩

/-- A fit document gives the classes that are made of its schemas and resources alone. -/
theorem Fit.standardClasses_eq (h : doc.Fit settings)
    {schemaClasses resourceClasses : List ClassDecl}
    (hgrown : List.Forall₂
      (fun entry c => doc.arena.classDecl (Decorator.standard settings) settings entry.2 = .ok c)
      doc.objectSchemas schemaClasses)
    (hmade : List.Forall₂
      (fun resource c => ResourceClasses.classDecl
        ⟨doc.name, ResourceDecorator.standard, settings⟩ resource = .ok c)
      doc.resources resourceClasses) :
    doc.standardClasses settings = .ok (schemaClasses ++ resourceClasses) := by
  have hdistinct : ((schemaClasses ++ resourceClasses).map (·.name)).Nodup := by
    have hnames := h.distinct
    rw [← classNamesBy_eq hgrown hmade] at hnames
    refine List.Nodup.of_map some ?_
    rwa [List.map_map]
  exact standardClasses_eq_ok.mpr ⟨h.checked, _, _, rfl, hgrown, hmade, hdistinct⟩

/-- There are such classes. -/
theorem Fit.exists_classes (h : doc.Fit settings) :
    ∃ classes, doc.standardClasses settings = .ok classes := by
  have hschemas := fun schema hschema =>
    (exists_classDecl_iff settings).mpr (h.named schema hschema)
  have hresources := (exists_resourceClass_iff settings h.checked).mpr h.resources
  obtain ⟨schemaClasses, hgrown⟩ := exists_forall₂ hschemas
  obtain ⟨resourceClasses, hmade⟩ := exists_forall₂ hresources
  exact ⟨_, h.standardClasses_eq (forall₂_objects.mp hgrown) hmade⟩

/-- A document that gives classes is fit. -/
theorem fit_of_standardClasses {classes : List ClassDecl}
    (h : doc.standardClasses settings = .ok classes) : doc.Fit settings := by
  obtain ⟨hcheck, schemaClasses, resourceClasses, rfl, hgrown, hmade, hdistinct⟩ :=
    standardClasses_eq_ok.mp h
  exact {
    checked := hcheck
    named := by
      intro schema hschema
      obtain ⟨c, -, hc⟩ := exists_of_forall₂_left (forall₂_objects.mpr hgrown) hschema
      exact (exists_classDecl_iff settings).mp ⟨c, hc⟩
    distinct := by
      have hnames := hdistinct.map (Option.some_injective String)
      rwa [List.map_map, Function.comp_def, classNamesBy_eq hgrown hmade] at hnames
    resources := by
      refine (exists_resourceClass_iff settings hcheck).mp fun resource hresource => ?_
      obtain ⟨c, -, hc⟩ := exists_of_forall₂_left hmade hresource
      exact ⟨c, hc⟩ }

end Document

/-- **Classes are generated exactly for documents that are fit**, whether they are loaded or put
together by hand, and whatever the settings are. The classes are then those of the objects
at the top level, in order, followed by those of the resources there, in order, each
as it is made alone. -/
theorem classes_iff_fit (doc : Document) (settings : Settings) :
    ((∃ classes, doc.standardClasses settings = .ok classes) ↔ doc.Fit settings) ∧
      ∀ classes, doc.standardClasses settings = .ok classes ↔
        doc.Fit settings ∧ ∃ schemaClasses resourceClasses,
          classes = schemaClasses ++ resourceClasses ∧
          List.Forall₂
            (fun schema c =>
              doc.arena.classDecl (Decorator.standard settings) settings schema.id = .ok c)
            doc.objects schemaClasses ∧
          List.Forall₂
            (fun resource c => ResourceClasses.classDecl
              ⟨doc.name, ResourceDecorator.standard, settings⟩ resource = .ok c)
            doc.resources resourceClasses := by
  refine ⟨⟨?_, Document.Fit.exists_classes⟩, fun classes => ⟨fun h => ?_, ?_⟩⟩
  · rintro ⟨classes, h⟩
    exact Document.fit_of_standardClasses h
  · obtain ⟨-, schemaClasses, resourceClasses, heq, hgrown, hmade, -⟩ :=
      Document.standardClasses_eq_ok.mp h
    exact ⟨Document.fit_of_standardClasses h, schemaClasses, resourceClasses, heq,
      Document.forall₂_objects.mpr hgrown, hmade⟩
  · rintro ⟨hfit, schemaClasses, resourceClasses, rfl, hgrown, hmade⟩
    exact hfit.standardClasses_eq (Document.forall₂_objects.mp hgrown) hmade

/-- The ring as the schema of a service, with a resource that answers with it. -/
def Document.ringService : Document where
  name := "maps"
  arena := .ring
  schemas := [("Graph", ⟨0⟩)]
  resources := [{ name := "graphs", endpoints := [⟨"get", "GET", "/graphs", some "Graph"⟩] }]

/-- The service of the ring is fit: it gives two classes. -/
theorem ringService_fit : Document.ringService.Fit {} ∧
    ∃ classes, Document.ringService.standardClasses {} = .ok classes ∧
      classes.map (·.name) = ["Graph", "GraphsResource"] := by
  obtain ⟨classes, hclasses, hnames⟩ : ∃ classes,
      Document.ringService.standardClasses {} = .ok classes ∧
        classes.map (·.name) = ["Graph", "GraphsResource"] :=
    Loading.exists_of_toOption (by decide +kernel)
  exact ⟨(classes_iff_fit Document.ringService {}).1.mp ⟨classes, hclasses⟩, classes, hclasses,
    hnames⟩

end ApiClasses
