import ApiClasses.Proofs.Output
import ApiClasses.Proofs.ResourceTrees

/-!
# Resource classes mirror the document

What a document says about its resources can be read off the resource classes: there is one
class for every resource, inside the class of the resource above it, and one method for every
method, all in the order of the document. `PresentsAll` says so of a value and of classes
directly, and knows nothing of how documents are loaded or classes generated. It goes down
the value, and keeps the keys it has passed.

On the way from one to the other a resource tree is built and gone through again. Each side
has the other's shape (`presentsAll_of_eachResource`), so nothing is lost, added or moved
between them (`resource_classes_mirror`).
-/

namespace ApiClasses

open Identifier (forClass? forMember)
open Loading (bind_eq_ok)

/-! ## What the document says -/

namespace Json

/-- The members of the object under a key; there are none by default. -/
inductive ObjectUnder (value : Json) (key : String) : Members → Prop where
  /-- nothing is there -/
  | absent : value.get? key = none → ObjectUnder value key []
  /-- an object is there -/
  | present {members} : value.get? key = some (.object members) → ObjectUnder value key members

/-- It matters only what is under the key. -/
theorem ObjectUnder.of_get?_eq {value other : Json} {key : String} {members : Members}
    (h : value.ObjectUnder key members) (hget : other.get? key = value.get? key) :
    other.ObjectUnder key members := by
  cases h with
  | absent hnone => exact .absent (hget.trans hnone)
  | present hsome => exact .present (hget.trans hsome)

/-- The text under a key; it is empty by default. -/
inductive TextUnder (value : Json) (key : String) : String → Prop where
  /-- no text is there -/
  | absent : (∀ text, value.get? key ≠ some (.string text)) → TextUnder value key ""
  /-- a text is there -/
  | present {text} : value.get? key = some (.string text) → TextUnder value key text

/-- The class that a method of the document is answered with: that of the key its response
refers to; nothing by default. -/
inductive AnsweredWith (value : Json) : String → Prop where
  /-- no response refers to a key -/
  | nothing : (∀ response, value.get? "response" = some response →
      ∀ key, response.get? "$ref" ≠ some (.string key)) →
    AnsweredWith value "()"
  /-- the response refers to a key -/
  | named {response key name} : value.get? "response" = some response →
    response.get? "$ref" = some (.string key) → forClass? key = some name →
    AnsweredWith value name

end Json

/-- The field holds the service of a base name, and its comment tells the keys that lead to the
resource. -/
structure HoldsService (base : String) (way : List String) (field : ClassField) : Prop where
  /-- it is always called the same -/
  name : field.name = "service"
  /-- the service is shared -/
  type : field.type = ⟨"std::sync::Arc", [⟨base ++ "Service", []⟩]⟩
  /-- it stands for no key -/
  wireName : field.wireName = none
  /-- its comment tells the way -/
  doc : field.doc = some ("Service handle for `" ++ ".".intercalate way ++ "`.")

/-- The method stands for a method of the document, in the resource that some keys lead to. -/
structure StandsFor (way : List String) (member : String × Json) (method : ClassMethod) :
    Prop where
  /-- it is called like the key -/
  name : method.name = forMember member.1
  /-- it needs nothing but the receiver -/
  parameters : method.parameters = []
  /-- it passes verb and path on, and its comment tells the way -/
  request : ∃ verb path, member.2.get? "httpMethod" = some (.string verb) ∧
    member.2.TextUnder "path" path ∧
    method.body = ["self.service.request(" ++ quote (capitals verb) ++ ", " ++ quote path ++ ")"] ∧
    method.doc = some ("`" ++ capitals verb ++ " " ++ path ++ "` (" ++
      ".".intercalate (way ++ [member.1]) ++ ").")
  /-- it is a request for the answer -/
  result : ∃ answer, member.2.AnsweredWith answer ∧
    method.result = some ⟨"Request", [⟨answer, []⟩]⟩

mutual

/-- The class presents a resource of the document, below those that some keys lead to. -/
inductive Presents (service : String) : List String → String × Json → ClassDecl → Prop where
  /-- it is called like the key, and holds the service, the methods and the classes of the
  resources below -/
  | made {above key members name base handle endpoints methods below inner} :
    forClass? key = some name → forClass? service = some base →
    HoldsService base (above ++ [key]) handle →
    (Json.object members).ObjectUnder "methods" endpoints →
    List.Forall₂ (StandsFor (above ++ [key])) endpoints methods →
    (Json.object members).ObjectUnder "resources" below →
    PresentsAll service (above ++ [key]) below inner →
    Presents service above (key, .object members) {
      name := name ++ "Resource"
      members := .field handle :: methods.map .method ++ inner.map .inner }

/-- The classes present some resources, one by one. -/
inductive PresentsAll (service : String) :
    List String → Json.Members → List ClassDecl → Prop where
  /-- nothing is left -/
  | nil {above} : PresentsAll service above [] []
  /-- a class for the first resource, and those for the others -/
  | cons {above member rest c classes} : Presents service above member c →
    PresentsAll service above rest classes →
    PresentsAll service above (member :: rest) (c :: classes)

end

/-! ## Methods -/

theorem Json.textUnder_getD (value : Json) (key : String) :
    value.TextUnder key (((value.get? key).bind string?).getD "") := by
  rcases hfound : (value.get? key).bind string? with _ | text
  · refine .absent fun text htext => ?_
    rw [htext] at hfound
    cases hfound
  · obtain ⟨found, hget, hstring⟩ := Option.bind_eq_some_iff.mp hfound
    obtain rfl := eq_string_of_string? hstring
    exact .present hget

/-- An endpoint is answered with what its method in the document is answered with. -/
theorem answeredWith_of_response {value : Json} {className answer : String} {endpoint : Endpoint}
    (hresponse : endpoint.response = Loading.response? value)
    (h : answerClass className endpoint = .ok answer) : value.AnsweredWith answer := by
  rcases ResourceClasses.answerClass_eq_ok h with ⟨hnone, rfl⟩ | ⟨key, hkey, hname⟩
  · refine .nothing fun response hget key hkey => ?_
    rw [hnone, Loading.response?, hget, Option.bind_some, hkey] at hresponse
    cases hresponse
  · rw [hkey] at hresponse
    obtain ⟨response, hget, hresponse⟩ := Option.bind_eq_some_iff.mp hresponse.symm
    obtain ⟨found, hfound, hstring⟩ := Option.bind_eq_some_iff.mp hresponse
    obtain rfl := Json.eq_string_of_string? hstring
    exact .named hget hfound hname

/-- The method for an endpoint stands for the method that the endpoint was loaded from. -/
theorem standsFor_of_endpoint {way : List String} {location key className : String} {value : Json}
    {endpoint : Endpoint} {method : ClassMethod} (hway : way ≠ [])
    (hload : Loading.endpoint location key value = .ok endpoint)
    (hmade : ResourceClasses.Requests (".".intercalate way) className endpoint method) :
    StandsFor way (key, value) method := by
  rw [Loading.endpoint] at hload
  rcases hfound : (value.get? "httpMethod").bind Json.string? with _ | verb
  · rw [hfound] at hload
    cases hload
  · rw [hfound] at hload
    obtain rfl := Except.ok.inj hload
    obtain ⟨answer, hanswer, rfl⟩ := hmade
    obtain ⟨found, hget, hstring⟩ := Option.bind_eq_some_iff.mp hfound
    obtain rfl := Json.eq_string_of_string? hstring
    exact {
      name := by rw [requestMethod]
      parameters := rfl
      request := by
        refine ⟨verb, _, hget, value.textUnder_getD "path", rfl, ?_⟩
        rw [intercalate_concat hway]
        simp only [requestMethod, String.append_assoc]
      result := ⟨answer, answeredWith_of_response rfl hanswer, rfl⟩ }

/-- Steps that all succeed give their results one by one. -/
theorem forall₂_of_mapM {α β ε : Type} {f : α → Except ε β} {as : List α} {bs : List β}
    (h : as.mapM f = .ok bs) : List.Forall₂ (fun a b => f a = .ok b) as bs := by
  induction as generalizing bs with
  | nil =>
    obtain rfl := Except.ok.inj h
    exact .nil
  | cons a rest ih =>
    rw [List.mapM_cons] at h
    obtain ⟨b, hb, h⟩ := bind_eq_ok h
    obtain ⟨later, hlater, h⟩ := bind_eq_ok h
    obtain rfl := Except.ok.inj h
    exact .cons hb (ih hlater)

/-- Lists that are in step with the same list are in step with each other. -/
theorem forall₂_comp {α β γ : Type} {R : α → β → Prop} {S : β → γ → Prop} {T : α → γ → Prop}
    (hcomp : ∀ {a b c}, R a b → S b c → T a c) {as : List α} {bs : List β} {cs : List γ}
    (h : List.Forall₂ R as bs) (h' : List.Forall₂ S bs cs) : List.Forall₂ T as cs := by
  induction h generalizing cs with
  | nil =>
    cases h'
    exact .nil
  | cons hfirst _ ih =>
    obtain _ | ⟨hfirst', hrest'⟩ := h'
    exact .cons (hcomp hfirst hfirst') (ih hrest')

/-- Methods for loaded endpoints stand for the methods of the document. -/
theorem standsFor_of_endpoints {way : List String} {location className : String} {value : Json}
    {endpoints : List Endpoint} {methods : List ClassMethod} (hway : way ≠ [])
    (hload : Loading.endpoints location (value.get? "methods") = .ok endpoints)
    (hmade : List.Forall₂ (ResourceClasses.Requests (".".intercalate way) className)
      endpoints methods) :
    ∃ members, value.ObjectUnder "methods" members ∧
      List.Forall₂ (StandsFor way) members methods := by
  rcases hget : value.get? "methods" with _ | found
  · rw [hget] at hload
    obtain rfl := Except.ok.inj hload
    cases hmade
    exact ⟨[], .absent hget, .nil⟩
  · rw [hget] at hload
    cases found with
    | object members =>
      refine ⟨members, .present hget, forall₂_comp ?_ (forall₂_of_mapM hload) hmade⟩
      exact fun hendpoint hrequests => standsFor_of_endpoint hway hendpoint hrequests
    | null | bool _ | number _ | string _ | array _ => cases hload

/-! ## Classes -/

/-- The class is that of a resource below those that some keys lead to. -/
def MadeAt (service : String) (above : List String) (resource : Resource) (c : ClassDecl) : Prop :=
  ResourceClasses.classAt ⟨service, ResourceDecorator.standard, {}⟩
    (".".intercalate (above ++ [resource.name])) resource = .ok c

variable {service : String}

/-- The class of a resource presents what the resource was loaded from, if the classes inside
present what is below. -/
theorem presents_of_made {above : List String} {location : String} {members below : Json.Members}
    {resource : Resource} {c : ClassDecl} (hmade : MadeAt service above resource c)
    (hendpoints : Loading.endpoints location ((Json.object members).get? "methods") =
      .ok resource.endpoints)
    (hbelow : (Json.object members).ObjectUnder "resources" below)
    (hinner : ∀ inner, List.Forall₂ (MadeAt service (above ++ [resource.name])) resource.resources
      inner → PresentsAll service (above ++ [resource.name]) below inner) :
    Presents service above (resource.name, .object members) c := by
  have hway : above ++ [resource.name] ≠ [] := List.append_ne_nil_of_right_ne_nil _ (by simp)
  obtain ⟨className, decorated, inner, hname, hdecorated, hclasses, rfl⟩ :=
    ResourceClasses.classAt_eq_ok hmade
  obtain ⟨base, methods, hbase, rfl, hrequests⟩ := ResourceClasses.decorated_eq hdecorated
  obtain ⟨name, hclass, rfl⟩ := Option.map_eq_some_iff.mp (ResourceClasses.className_eq_ok.mp hname)
  obtain ⟨endpoints, hunder, hstands⟩ := standsFor_of_endpoints hway hendpoints hrequests
  refine .made hclass hbase ⟨rfl, rfl, rfl, rfl⟩ hunder hstands hbelow (hinner inner ?_)
  refine hclasses.imp fun next d hd => ?_
  rwa [MadeAt, intercalate_concat hway]

mutual

/-- The resources of a value are those of an object, and their classes present its members… -/
theorem presentsAll_of_resources : (value : Json) → ∀ {location resources},
    Loading.resources location value = .ok resources →
    ∃ members, value = .object members ∧ ∀ above classes,
      List.Forall₂ (MadeAt service above) resources classes →
      PresentsAll service above members classes
  | .object members, _, _, h => by
    rw [Loading.resources] at h
    exact ⟨members, rfl, fun above classes => presentsAll_of_eachResource members h⟩
  | .null, _, _, h | .bool _, _, _, h | .number _, _, _, h | .string _, _, _, h
  | .array _, _, _, h => by cases h

/-- …one by one… -/
theorem presentsAll_of_eachResource : (members : Json.Members) → ∀ {location resources},
    Loading.eachResource location members = .ok resources → ∀ {above classes},
      List.Forall₂ (MadeAt service above) resources classes →
      PresentsAll service above members classes
  | [], _, _, h, _, _, hmade => by
    obtain rfl := Except.ok.inj h
    cases hmade
    exact .nil
  | (name, .object members) :: rest, _, _, h, _, _, hmade => by
    rw [Loading.eachResource] at h
    obtain ⟨endpoints, hendpoints, h⟩ := bind_eq_ok h
    obtain ⟨below, hbelow, h⟩ := bind_eq_ok h
    obtain ⟨later, hlater, h⟩ := bind_eq_ok h
    obtain rfl := Except.ok.inj h
    obtain _ | ⟨hfirst, hrest⟩ := hmade
    obtain ⟨found, hunder, hinner⟩ := presentsAll_of_resourcesBelow members hbelow
    exact .cons (presents_of_made hfirst hendpoints hunder (hinner _))
      (presentsAll_of_eachResource rest hlater hrest)
  | (_, .null) :: _, _, _, h, _, _, _ | (_, .bool _) :: _, _, _, h, _, _, _
  | (_, .number _) :: _, _, _, h, _, _, _ | (_, .string _) :: _, _, _, h, _, _, _
  | (_, .array _) :: _, _, _, h, _, _, _ => by cases h

/-- …and so are those below a resource. -/
theorem presentsAll_of_resourcesBelow : (members : Json.Members) → ∀ {location resources},
    Loading.resourcesBelow location members = .ok resources →
    ∃ below, (Json.object members).ObjectUnder "resources" below ∧ ∀ above classes,
      List.Forall₂ (MadeAt service above) resources classes →
      PresentsAll service above below classes
  | [], _, _, h => by
    obtain rfl := Except.ok.inj h
    refine ⟨[], .absent rfl, fun above classes hmade => ?_⟩
    cases hmade
    exact .nil
  | (k, value) :: rest, _, _, h => by
    rw [Loading.resourcesBelow] at h
    split at h
    · next hkey =>
      obtain ⟨below, rfl, hclasses⟩ := presentsAll_of_resources value h
      refine ⟨below, .present ?_, hclasses⟩
      simp [Json.get?, Json.members?, Json.Members.get?, hkey]
    · next hkey =>
      obtain ⟨below, hunder, hclasses⟩ := presentsAll_of_resourcesBelow rest h
      refine ⟨below, hunder.of_get?_eq ?_, hclasses⟩
      simp [Json.get?, Json.members?, Json.Members.get?, hkey]

end

/-! ## Documents -/

/-- The name of a document comes from the value that was read. -/
theorem name_of_load {text : String} {root : Json} {doc : Document}
    (hread : Json.read text = .ok root) (hload : Document.load text = .ok doc) :
    root.TextUnder "name" doc.name := by
  rw [Document.load, hread] at hload
  cases root with
  | object members =>
    obtain ⟨loaded, -, hload⟩ := bind_eq_ok hload
    obtain ⟨resources, -, hload⟩ := bind_eq_ok hload
    obtain rfl := Except.ok.inj hload
    exact (Json.object members).textUnder_getD "name"
  | null | bool _ | number _ | string _ | array _ => cases hload

/-- The resource classes of a generation present the resources of its document. -/
theorem Generates.presentsAll {text code : String} {root : Json} {doc : Document}
    {trees : List ClassTree} {resourceClasses : List ClassDecl}
    (h : Generates text root doc trees resourceClasses code) :
    ∃ service members, root.TextUnder "name" service ∧ root.ObjectUnder "resources" members ∧
      PresentsAll service [] members resourceClasses := by
  have hresources := Loading.topResources_of_load h.read h.load
  have hname := name_of_load h.read h.load
  have hmade : List.Forall₂ (MadeAt doc.name []) doc.resources resourceClasses := by
    refine h.made.imp fun resource c hc => ?_
    rw [MadeAt, List.nil_append, String.intercalate_singleton]
    exact hc
  rcases hget : root.get? "resources" with _ | value
  · rw [hget] at hresources
    have hnone : doc.resources = [] := (Except.ok.inj hresources).symm
    rw [hnone] at hmade
    cases hmade
    exact ⟨doc.name, [], hname, .absent hget, .nil⟩
  · rw [hget, Loading.topResources] at hresources
    obtain ⟨members, rfl, hclasses⟩ := presentsAll_of_resources value hresources
    exact ⟨doc.name, members, hname, .present hget, hclasses [] _ hmade⟩

/-- **Resource classes mirror the document**: if a text generates code, the resource classes
present the resources of the value that the text holds, at every depth and in its order. -/
theorem resource_classes_mirror {text code : String} (h : generate text = .ok code) :
    ∃ root doc trees resourceClasses, Generates text root doc trees resourceClasses code ∧
      ∃ service members, root.TextUnder "name" service ∧ root.ObjectUnder "resources" members ∧
        PresentsAll service [] members resourceClasses := by
  obtain ⟨root, doc, trees, resourceClasses, hgen⟩ := exists_generates h
  exact ⟨root, doc, trees, resourceClasses, hgen, hgen.presentsAll⟩

/-! ## A resource below another one -/

/-- `posts` stands below `blogs`; the methods of `blogs` are answered with `A`. -/
def blogsText : String :=
  "\x7b\"name\":\"s\",\"schemas\":\x7b\"A\":\x7b\"type\":\"object\"\x7d\x7d,\"resources\":" ++
    "\x7b\"blogs\":\x7b\"methods\":\x7b\"list\":\x7b\"httpMethod\":\"get\",\"response\":" ++
    "\x7b\"$ref\":\"A\"\x7d\x7d\x7d,\"resources\":\x7b\"posts\":\x7b\"methods\":\x7b\"type\":" ++
    "\x7b\"httpMethod\":\"POST\",\"path\":\"p\"\x7d\x7d\x7d\x7d\x7d\x7d\x7d"

/-- Its resources. -/
def blogsMembers : Json.Members :=
  [("blogs", .object [
    ("methods", .object [("list", .object [
      ("httpMethod", .string "get"), ("response", .object [("$ref", .string "A")])])]),
    ("resources", .object [("posts", .object [("methods", .object [("type", .object [
      ("httpMethod", .string "POST"), ("path", .string "p")])])])])])]

/-- What is read from it. -/
def blogsRoot : Json :=
  .object [("name", .string "s"),
    ("schemas", .object [("A", .object [("type", .string "object")])]),
    ("resources", .object blogsMembers)]

-- the text is a longer list of characters than the default limit allows
set_option maxRecDepth 1000 in
theorem read_blogsText : Json.read blogsText = .ok blogsRoot := by
  unfold blogsText
  simp only [String.reduceAppend]
  exact Json.read_ofList (by decide)

theorem generate_blogsText : ∃ code, generate blogsText = .ok code := by
  refine exists_code ?_
  rw [generateClasses, Document.load, read_blogsText]
  decide +kernel

/-- There is a class for `blogs`, with one for `posts` inside. -/
theorem blogs_mirrored : ∃ code root doc trees resourceClasses, generate blogsText = .ok code ∧
    Generates blogsText root doc trees resourceClasses code ∧
    PresentsAll "s" [] blogsMembers resourceClasses := by
  obtain ⟨code, hcode⟩ := generate_blogsText
  obtain ⟨root, doc, trees, resourceClasses, hgen, service, members, hname, hunder, hpresents⟩ :=
    resource_classes_mirror hcode
  obtain rfl : root = blogsRoot := Except.ok.inj (hgen.read.symm.trans read_blogsText)
  obtain rfl : service = "s" := by
    cases hname with
    | absent hnone => exact absurd rfl (hnone "s")
    | present htext => exact (Json.string.inj (Option.some.inj htext)).symm
  obtain rfl : members = blogsMembers := by
    cases hunder with
    | absent hnone => cases hnone
    | present hobject => exact (Json.object.inj (Option.some.inj hobject)).symm
  exact ⟨code, _, doc, trees, resourceClasses, hcode, hgen, hpresents⟩

end ApiClasses
