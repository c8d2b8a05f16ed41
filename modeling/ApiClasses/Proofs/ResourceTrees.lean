import ApiClasses.Decoration.Requests
import ApiClasses.Proofs.Growth
import ApiClasses.Proofs.Loading.Documents
import ApiClasses.ResourceClass

/-!
# Classes of resource trees

The classes of a resource tree are that tree over again. Each resource has one class, made
by `ResourceClasses.classAt` for the path that leads there, and the classes directly inside
it are those of the resources directly below, in order (`classAt_eq_ok`). So whatever is to
be said of all classes of a tree can be said of one class and its resource: going down the
class tree and going down the resource tree are the same (`exists_resource`,
`exists_class`).

With the standard decorators the methods of a class are those of the endpoints of its
resource, each answered by the class that the endpoint names (`classAt_standard`).
-/

namespace ApiClasses

open Loading (bind_eq_ok)

/-! ## Going down -/

namespace Resource

/-- The resource itself or one below it, at any depth. -/
inductive Descent (top : Resource) : Resource → Prop where
  /-- the resource itself -/
  | top : Descent top top
  /-- one step further down -/
  | inner {resource next} : Descent top resource → next ∈ resource.resources → Descent top next

theorem Descent.head {top resource last : Resource} (hresource : resource ∈ top.resources)
    (h : resource.Descent last) : top.Descent last := by
  induction h with
  | top => exact .inner .top hresource
  | inner _ hnext ih => exact .inner ih hnext

/-- What holds of a resource whenever it holds of all directly below it, holds of every
resource. -/
theorem induction_below {motive : Resource → Prop}
    (step : ∀ resource, (∀ below ∈ resource.resources, motive below) → motive resource)
    (resource : Resource) : motive resource := by
  refine step resource fun below hbelow => ?_
  have hsmaller : sizeOf below < sizeOf resource := by
    obtain ⟨name, endpoints, resources⟩ := resource
    have hlist : sizeOf below < sizeOf resources := List.sizeOf_lt_of_mem hbelow
    simp only [Resource.mk.sizeOf_spec]
    omega
  exact induction_below step below
termination_by sizeOf resource

/-- The walk lists the resource and everything below it. -/
theorem mem_walk_iff {top resource : Resource} : resource ∈ top.walk ↔ top.Descent resource := by
  constructor
  · intro h
    induction top using induction_below with
    | step top ih =>
      rw [walk_eq] at h
      rcases List.mem_cons.mp h with rfl | h
      · exact .top
      · obtain ⟨below, hbelow, h⟩ := List.mem_flatMap.mp h
        exact (ih below hbelow h).head hbelow
  · intro h
    -- what is below a resource of the walk is in the walk as well
    have hclosed (top : Resource) : ∀ resource ∈ top.walk, ∀ below ∈ resource.resources,
        below ∈ top.walk := by
      induction top using induction_below with
      | step top ih =>
        intro resource hresource below hbelow
        rw [walk_eq] at hresource ⊢
        refine List.mem_cons_of_mem _ (List.mem_flatMap.mpr ?_)
        rcases List.mem_cons.mp hresource with rfl | hresource
        · refine ⟨below, hbelow, ?_⟩
          rw [walk_eq]
          exact List.mem_cons_self
        · obtain ⟨next, hnext, hresource⟩ := List.mem_flatMap.mp hresource
          exact ⟨next, hnext, ih next hnext resource hresource below hbelow⟩
    induction h with
    | top =>
      rw [walk_eq]
      exact List.mem_cons_self
    | inner _ hnext ih => exact hclosed top _ ih _ hnext

end Resource

/-! ## Ways -/

/-- One more key is joined with a dot. -/
theorem intercalate_concat {way : List String} (hway : way ≠ []) (key : String) :
    ".".intercalate (way ++ [key]) = ".".intercalate way ++ "." ++ key := by
  refine String.toList_inj.mp ?_
  simp only [String.toList_append, String.toList_intercalate, List.map_append, List.map_cons,
    List.map_nil]
  induction way with
  | nil => exact absurd rfl hway
  | cons first rest ih =>
    cases rest with
    | nil => simp
    | cons second others =>
      simp only [List.map_cons, List.cons_append, List.intercalate_cons_cons,
        List.append_assoc] at ih ⊢
      rw [ih (List.cons_ne_nil _ _)]

/-! ## One class -/

namespace ResourceClasses

variable {generator : ResourceClasses} {path service : String} {settings : Settings}
  {resource last : Resource} {c d decorated : ClassDecl}

/-- A resource class is called as the resource's class name and the settings say. -/
theorem className_eq_ok {name className : String} :
    generator.className name = .ok className ↔
      (Identifier.forClass? name).map generator.settings.resourceName = some className := by
  rw [ResourceClasses.className]
  rcases Identifier.forClass? name with _ | base <;> simp

theorem classesBelow_eq_ok {resources : List Resource} {decls : List ClassDecl}
    (h : generator.classesBelow path resources = .ok decls) :
    List.Forall₂ (fun below d => generator.classAt (path ++ "." ++ below.name) below = .ok d)
      resources decls := by
  induction resources generalizing decls with
  | nil =>
    obtain rfl := Except.ok.inj h
    exact .nil
  | cons below rest ih =>
    rw [classesBelow] at h
    obtain ⟨d, hd, h⟩ := bind_eq_ok h
    obtain ⟨later, hlater, h⟩ := bind_eq_ok h
    obtain rfl := Except.ok.inj h
    exact .cons hd (ih hlater)

/-- The class of a resource is what the decorators make of its name, with the classes of the
resources below added at the end. -/
theorem classAt_eq_ok (h : generator.classAt path resource = .ok c) :
    ∃ name decorated below, generator.className resource.name = .ok name ∧
      generator.decorated path resource { name } = .ok decorated ∧
      List.Forall₂ (fun next d => generator.classAt (path ++ "." ++ next.name) next = .ok d)
        resource.resources below ∧
      c = decorated.addInner below := by
  obtain ⟨name, endpoints, resources⟩ := resource
  rw [classAt] at h
  obtain ⟨className, hname, h⟩ := bind_eq_ok h
  obtain ⟨decorated, hdecorated, h⟩ := bind_eq_ok h
  obtain ⟨below, hbelow, h⟩ := bind_eq_ok h
  exact ⟨className, decorated, below, hname, hdecorated, classesBelow_eq_ok hbelow,
    (Except.ok.inj h).symm⟩

/-! ## The standard decorators -/

/-- The answer of an endpoint is nothing, or the class that its response names. -/
theorem answerClass_eq_ok {className answer : String} {endpoint : Endpoint}
    (h : answerClass className endpoint = .ok answer) :
    (endpoint.response = none ∧ answer = "()") ∨
      ∃ response, endpoint.response = some response ∧
        Identifier.forClass? response = some answer := by
  rw [answerClass] at h
  split at h
  · next hnone => exact .inl ⟨hnone, (Except.ok.inj h).symm⟩
  · next response hresponse =>
    split at h
    · next name hname =>
      obtain rfl := Except.ok.inj h
      exact .inr ⟨response, hresponse, hname⟩
    · cases h

/-- The method stands for the endpoint. -/
def Requests (path className : String) (endpoint : Endpoint) (method : ClassMethod) : Prop :=
  ∃ answer, answerClass className endpoint = .ok answer ∧
    method = requestMethod path endpoint answer

/-- Endpoint by endpoint, one method is added, and nothing else. -/
theorem foldlM_addRequest {endpoints : List Endpoint}
    (h : endpoints.foldlM (addRequest path) c = .ok decorated) :
    ∃ added : List ClassMethod,
      decorated = { c with members := c.members ++ added.map .method } ∧
        List.Forall₂ (Requests path c.name) endpoints added := by
  induction endpoints generalizing c with
  | nil =>
    obtain rfl := Except.ok.inj h
    refine ⟨[], ?_, .nil⟩
    rw [List.map_nil, List.append_nil]
    cases c
    rfl
  | cons endpoint rest ih =>
    rw [List.foldlM_cons] at h
    obtain ⟨next, hnext, h⟩ := bind_eq_ok h
    rw [addRequest] at hnext
    split at hnext
    · cases hnext
    · rcases hanswer : answerClass c.name endpoint with error | answer
      · rw [hanswer] at hnext
        cases hnext
      · rw [hanswer] at hnext
        obtain rfl := Except.ok.inj hnext
        obtain ⟨added, rfl, hadded⟩ := ih h
        refine ⟨requestMethod path endpoint answer :: added, ?_,
          .cons ⟨answer, hanswer, rfl⟩ hadded⟩
        rw [ClassDecl.addMethod, List.append_assoc]
        rfl

/-- The standard decorators add a handle of the service and then the methods. -/
theorem decorated_eq_ok_iff :
    ResourceClasses.decorated ⟨service, ResourceDecorator.standard, settings⟩ path resource c =
        .ok decorated ↔
      ∃ base, Identifier.forClass? service = some base ∧
        resource.endpoints.foldlM (addRequest path) (c.addField (handleField base path)) =
          .ok decorated := by
  rw [ResourceClasses.decorated, ResourceDecorator.standard, List.foldlM_cons]
  dsimp only [ResourceDecorator.handle]
  rcases Identifier.forClass? service with _ | base
  · simp [bind, Except.bind]
  · have hrequests : [ResourceDecorator.requests].foldlM
          (fun c decorator => decorator.decorate resource ⟨service, path⟩ c)
          (c.addField (handleField base path)) =
        (resource.endpoints.foldlM (addRequest path) (c.addField (handleField base path)) >>=
          pure) := rfl
    dsimp only [bind, Except.bind]
    rw [hrequests, bind_pure]
    rcases hfold : resource.endpoints.foldlM (addRequest path)
        (c.addField (handleField base path)) with error | added <;> simp [hfold]

/-- The standard decorators add a handle of the service and one method for every endpoint, and
nothing else. -/
theorem decorated_eq
    (h : ResourceClasses.decorated ⟨service, ResourceDecorator.standard, settings⟩ path resource c =
      .ok decorated) :
    ∃ (base : String) (added : List ClassMethod), Identifier.forClass? service = some base ∧
      decorated =
        { c with members := c.members ++ .field (handleField base path) :: added.map .method } ∧
      List.Forall₂ (Requests path c.name) resource.endpoints added := by
  obtain ⟨base, hbase, hfold⟩ := decorated_eq_ok_iff.mp h
  obtain ⟨added, rfl, hadded⟩ := foldlM_addRequest hfold
  refine ⟨base, added, hbase, ?_, hadded⟩
  rw [ClassDecl.addField, List.append_assoc]
  rfl

/-- So they leave the name as it is and declare nothing inside. -/
theorem decorated_standard
    (h : ResourceClasses.decorated ⟨service, ResourceDecorator.standard, settings⟩ path resource c =
      .ok decorated) :
    decorated.name = c.name ∧ decorated.innerClasses = c.innerClasses ∧
      ∃ added, decorated.methods = c.methods ++ added ∧
        List.Forall₂ (Requests path c.name) resource.endpoints added := by
  obtain ⟨base, added, -, rfl, hadded⟩ := decorated_eq h
  refine ⟨rfl, ?_, added, ?_, hadded⟩
  · simp [ClassDecl.innerClasses, Member.inner?]
  · simp [ClassDecl.methods, List.filterMap_cons, List.filterMap_map, Function.comp_def,
      Member.method?]

/-- A standard resource class has the name that its resource gives, one method for every
endpoint, and the classes of the resources below directly inside. -/
theorem classAt_standard
    (h : ResourceClasses.classAt ⟨service, ResourceDecorator.standard, settings⟩ path resource =
      .ok c) :
    ResourceClasses.className ⟨service, ResourceDecorator.standard, settings⟩ resource.name =
        .ok c.name ∧
      List.Forall₂ (Requests path c.name) resource.endpoints c.methods ∧
      List.Forall₂
        (fun below d => ResourceClasses.classAt ⟨service, ResourceDecorator.standard, settings⟩
          (path ++ "." ++ below.name) below = .ok d)
        resource.resources c.innerClasses := by
  obtain ⟨name, decorated, below, hname, hdecorated, hbelow, rfl⟩ := classAt_eq_ok h
  obtain ⟨hkept, hnone, added, hmethods, hadded⟩ := decorated_standard hdecorated
  rw [ClassDecl.methods_addInner, ClassDecl.innerClasses_addInner, hmethods, hnone]
  have hcalled : (decorated.addInner below).name = name := hkept
  rw [hcalled]
  exact ⟨hname, hadded, hbelow⟩

/-- Every class of the tree is that of some resource below. -/
theorem exists_resource
    (h : ResourceClasses.classAt ⟨service, ResourceDecorator.standard, settings⟩ path resource =
      .ok c) (hd : c.Descent d) :
    ∃ last way, resource.Descent last ∧
      ResourceClasses.classAt ⟨service, ResourceDecorator.standard, settings⟩ way last = .ok d := by
  induction hd with
  | top => exact ⟨resource, path, .top, h⟩
  | inner _ hd ih =>
    obtain ⟨outer, way, houter, hmade⟩ := ih
    obtain ⟨-, -, hbelow⟩ := classAt_standard hmade
    obtain ⟨last, hlast, hmade⟩ := exists_of_forall₂_right hbelow hd
    exact ⟨last, _, .inner houter hlast, hmade⟩

/-- Every resource below has its class in the tree. -/
theorem exists_class
    (h : ResourceClasses.classAt ⟨service, ResourceDecorator.standard, settings⟩ path resource =
      .ok c) (hlast : resource.Descent last) :
    ∃ d way, c.Descent d ∧
      ResourceClasses.classAt ⟨service, ResourceDecorator.standard, settings⟩ way last = .ok d := by
  induction hlast with
  | top => exact ⟨c, path, .top, h⟩
  | inner _ hnext ih =>
    obtain ⟨outer, way, houter, hmade⟩ := ih
    obtain ⟨-, -, hbelow⟩ := classAt_standard hmade
    obtain ⟨d, hd, hmade⟩ := exists_of_forall₂_left hbelow hnext
    exact ⟨d, _, .inner houter hd, hmade⟩

end ResourceClasses

end ApiClasses
