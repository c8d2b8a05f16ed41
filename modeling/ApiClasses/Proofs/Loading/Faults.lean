import ApiClasses.Proofs.Loading.Rules

/-!
# What a document is refused for

Besides its references, a document is refused for a value that is not what it has to be. In a
schema of its own this is the type or the properties (`outline_eq_error`). Where resources
stand it is something that is no object or a method without a verb (`ResourceFault`); either
this is found, or all resources are loaded and those side by side are called differently,
being the keys of one object (`resources_outcome`).
-/

namespace ApiClasses

/-- The resources below a resource are called differently, and so it is further down. -/
def Resource.SiblingsDiffer (resource : Resource) : Prop :=
  ∀ last ∈ resource.walk, (last.resources.map (·.name)).Nodup

theorem Resource.siblingsDiffer_iff (resource : Resource) :
    resource.SiblingsDiffer ↔
      (resource.resources.map (·.name)).Nodup ∧
        ∀ below ∈ resource.resources, below.SiblingsDiffer := by
  rw [SiblingsDiffer, walk_eq, List.forall_mem_cons, List.forall_mem_flatMap]
  rfl

/-- Resources side by side are called differently, and so are those further down. -/
def AllDiffer (resources : List Resource) : Prop :=
  (resources.map (·.name)).Nodup ∧ ∀ resource ∈ resources, resource.SiblingsDiffer

/-- A value as it is told in an error: a text as it is, anything else in compact form. -/
def Json.told : Json → String
  | .string text => text
  | other => other.compact

/-- The six types of values, each by its name. -/
inductive Json.OfType : Json → String → Prop where
  /-- the null value -/
  | null : OfType .null "null"
  /-- a truth value -/
  | boolean {value} : OfType (.bool value) "boolean"
  /-- a number -/
  | number {value} : OfType (.number value) "number"
  /-- a text -/
  | string {text} : OfType (.string text) "string"
  /-- a list of values -/
  | array {elements} : OfType (.array elements) "array"
  /-- values under keys -/
  | object {members} : OfType (.object members) "object"

/-- The value is no object, and of which type it is instead. -/
structure Json.NoObject (value : Json) (type : String) : Prop where
  /-- this is its type -/
  ofType : value.OfType type
  /-- it is another one -/
  other : type ≠ "object"

/-- What has no members is told by the type it has instead. -/
theorem Json.noObject_typeName {value : Json} (h : value.members? = none) :
    value.NoObject value.typeName := by
  cases value with
  | null => exact ⟨.null, by decide⟩
  | bool value => exact ⟨.boolean, by simp [typeName]⟩
  | number value => exact ⟨.number, by simp [typeName]⟩
  | string text => exact ⟨.string, by simp [typeName]⟩
  | array elements => exact ⟨.array, by simp [typeName]⟩
  | object members => cases h

namespace Loading

open Json (Members)
open Json.Pointer (child resolve?)

/-! ## Outcomes -/

/-- The outcome is a result with one property or an error with another. -/
inductive Outcome {α ε : Type} (P : α → Prop) (Q : ε → Prop) : Except ε α → Prop where
  /-- a result -/
  | ok {a} : P a → Outcome P Q (.ok a)
  /-- an error -/
  | error {reason} : Q reason → Outcome P Q (.error reason)

section Outcome

variable {α β ε : Type} {P : α → Prop} {R : β → Prop} {Q : ε → Prop}

theorem Outcome.bind {m : Except ε α} {f : α → Except ε β} (h : Outcome P Q m)
    (hnext : ∀ a, P a → Outcome R Q (f a)) : Outcome R Q (m >>= f) := by
  cases h with
  | ok ha => exact hnext _ ha
  | error hreason => exact .error hreason

theorem Outcome.imp {P' : α → Prop} {Q' : ε → Prop} {m : Except ε α} (h : Outcome P Q m)
    (hP : ∀ a, P a → P' a) (hQ : ∀ reason, Q reason → Q' reason) : Outcome P' Q' m := by
  cases h with
  | ok ha => exact .ok (hP _ ha)
  | error hreason => exact .error (hQ _ hreason)

theorem Outcome.of_ok {a : α} (h : Outcome P Q (.ok a)) : P a := by
  cases h with
  | ok ha => exact ha

theorem Outcome.of_error {reason : ε} (h : Outcome P Q (.error reason : Except ε α)) :
    Q reason := by
  cases h with
  | error hreason => exact hreason

/-- Steps one after the other end with an error of the kind that each of them may end with. -/
theorem outcome_mapM {f : β → Except ε α} {steps : List β}
    (h : ∀ step ∈ steps, Outcome (fun _ => True) Q (f step)) :
    Outcome (fun _ => True) Q (steps.mapM f) := by
  induction steps with
  | nil => exact .ok trivial
  | cons step rest ih =>
    obtain ⟨hstep, hrest⟩ := List.forall_mem_cons.mp h
    rw [List.mapM_cons]
    exact hstep.bind fun a _ => (ih hrest).bind fun later _ => .ok trivial

end Outcome

/-! ## Schemas of their own -/

section Schemas

variable {location name : String} {members : Members} {error : LoadError}

/-- The types that a schema may say it has. -/
def typeNames : List String :=
  ["any", "boolean", "integer", "number", "string", "array", "object"]

theorem Form.exists_ofName?_iff : (∃ form, Form.ofName? name = some form) ↔ name ∈ typeNames := by
  unfold Form.ofName?
  split <;> simp_all [typeNames]

/-- The value stands under the key `type`, but it is none of the types. -/
def OddType (members : Members) (given : Json) : Prop :=
  members.get? "type" = some given ∧ ∀ known ∈ typeNames, given ≠ .string known

/-- A form is refused for the type. -/
theorem Form.at?_eq_error (h : Form.at? location members = .error error) :
    ∃ given, OddType members given ∧ error = .invalidValue location "type" given.told := by
  unfold Form.at? at h
  split at h
  · cases h
  · next type htype =>
    split at h
    · cases h
    · next hnone =>
      refine ⟨_, ⟨htype, ?_⟩, (Except.error.inj h).symm⟩
      rintro known hknown heq
      obtain ⟨form, hform⟩ := Form.exists_ofName?_iff.mpr hknown
      rw [Json.string.inj heq, hform] at hnone
      cases hnone
  · next other hother htype =>
    refine ⟨other, ⟨htype, fun known _ heq => hother known heq⟩, ?_⟩
    obtain rfl := Except.error.inj h
    cases other with
    | string text => exact absurd rfl (hother text)
    | null | bool _ | number _ | array _ | object _ => rfl

/-- A schema of its own is refused for the type or for the properties. -/
theorem outline_eq_error (h : outline location members = .error error) :
    (∃ given, OddType members given ∧ error = .invalidValue location "type" given.told) ∨
      ∃ given, members.get? "properties" = some given ∧ given.members? = none ∧
        error = .invalidValue location "properties" given.typeName := by
  rw [outline] at h
  rcases hform : Form.at? location members with refused | form
  · rw [hform] at h
    obtain rfl := Except.error.inj h
    exact .inl (Form.at?_eq_error hform)
  · rw [hform] at h
    cases form with
    | plain _ => cases h
    | array => cases h
    | object =>
      refine .inr ?_
      rcases hget : members.get? "properties" with _ | given
      · rw [hget] at h
        cases h
      · rw [hget] at h
        cases given with
        | object _ => cases h
        | null | bool _ | number _ | string _ | array _ =>
          exact ⟨_, rfl, rfl, (Except.error.inj h).symm⟩

end Schemas

/-! ## Resources -/

/-- The locations of the objects that resources are members of. -/
inductive HoldsResources : String → Prop where
  /-- at the top level -/
  | top : HoldsResources resourcesLocation
  /-- below a resource -/
  | inner {location name} : HoldsResources location →
    HoldsResources (child (child location name) "resources")

/-- Something among the resources is not what it has to be, and the error names it. -/
inductive ResourceFault (root : Json) : LoadError → Prop where
  /-- resources that are no object -/
  | resources {location given type} : HoldsResources location →
    resolve? root location = some given → given.NoObject type →
    ResourceFault root (.invalidValue location "resources" type)
  /-- a resource that is no object -/
  | resource {location name given type} : HoldsResources location →
    resolve? root (child location name) = some given → given.NoObject type →
    ResourceFault root (.invalidValue (child location name) "resource" type)
  /-- methods that are no object -/
  | methods {location name given type} : HoldsResources location →
    resolve? root (child (child location name) "methods") = some given → given.NoObject type →
    ResourceFault root (.invalidValue (child (child location name) "methods") "methods" type)
  /-- a method without a verb -/
  | verb {location name key method} : HoldsResources location →
    resolve? root (child (child (child location name) "methods") key) = some method →
    (∀ verb, method.get? "httpMethod" ≠ some (.string verb)) →
    ResourceFault root
      (.missingField (child (child (child location name) "methods") key) "httpMethod")

variable {root : Json} {location name : String}

/-- A method is loaded if it has a verb. -/
theorem endpoint_outcome {key : String} {method : Json} (hlocation : HoldsResources location)
    (hresolve : resolve? root (child (child (child location name) "methods") key) = some method) :
    Outcome (fun _ => True) (ResourceFault root)
      (endpoint (child (child (child location name) "methods") key) key method) := by
  rw [endpoint]
  rcases hverb : (method.get? "httpMethod").bind Json.string? with _ | verb
  · refine .error (.verb hlocation hresolve fun verb hget => ?_)
    rw [hget] at hverb
    cases hverb
  · exact .ok trivial

/-- The methods of a resource are loaded if they stand in an object. -/
theorem endpoints_outcome (hunique : root.UniqueKeys) {found : Option Json}
    (hlocation : HoldsResources location)
    (hresolve : resolve? root (child (child location name) "methods") = found) :
    Outcome (fun _ => True) (ResourceFault root)
      (endpoints (child (child location name) "methods") found) := by
  rcases found with _ | methods
  · exact .ok trivial
  · cases methods with
    | object methods =>
      have houtcome : ∀ entry ∈ methods, Outcome (fun _ => True) (ResourceFault root)
          (endpoint (child (child (child location name) "methods") entry.1) entry.1 entry.2) := by
        intro entry hentry
        refine endpoint_outcome hlocation ?_
        rw [Json.Pointer.resolve?_child entry.1 hresolve]
        exact Members.get?_eq_some_of_mem (hunique.nodup hresolve) hentry
      exact outcome_mapM houtcome
    | null | bool _ | number _ | string _ | array _ =>
      exact .error (.methods hlocation hresolve (Json.noObject_typeName rfl))

mutual

/-- Resources are loaded, and called differently, if nothing is at fault… -/
theorem resources_outcome (hunique : root.UniqueKeys) : (value : Json) → ∀ {location},
    HoldsResources location → resolve? root location = some value →
    Outcome AllDiffer (ResourceFault root) (resources location value)
  | .object members, location, hlocation, hresolve => by
    have hnodup := hunique.nodup hresolve
    have heach := eachResource_outcome hunique members hlocation fun entry hentry => by
      rw [Json.Pointer.resolve?_child entry.1 hresolve]
      exact Members.get?_eq_some_of_mem hnodup hentry
    rw [resources]
    generalize eachResource location members = outcome at heach ⊢
    cases heach with
    | ok h => exact .ok ⟨h.1 ▸ hnodup, h.2⟩
    | error h => exact .error h
  | .null, _, hlocation, hresolve | .bool _, _, hlocation, hresolve
  | .number _, _, hlocation, hresolve | .string _, _, hlocation, hresolve
  | .array _, _, hlocation, hresolve =>
    .error (.resources hlocation hresolve (Json.noObject_typeName rfl))

/-- …one by one, under the keys… -/
theorem eachResource_outcome (hunique : root.UniqueKeys) : (members : Members) → ∀ {location},
    HoldsResources location →
    (∀ entry ∈ members, resolve? root (child location entry.1) = some entry.2) →
    Outcome (fun loaded => loaded.map (·.name) = members.keys ∧
      ∀ resource ∈ loaded, resource.SiblingsDiffer) (ResourceFault root)
      (eachResource location members)
  | [], _, _, _ => .ok ⟨rfl, List.forall_mem_nil _⟩
  | (name, .object members) :: rest, location, hlocation, hresolve => by
    obtain ⟨hfirst, hrest⟩ := List.forall_mem_cons.mp hresolve
    rw [eachResource]
    refine (endpoints_outcome hunique hlocation
      (Json.Pointer.resolve?_child "methods" hfirst)).bind fun endpoints _ => ?_
    refine (resourcesBelow_outcome hunique members hlocation.inner
      (Json.Pointer.resolve?_child "resources" hfirst)).bind fun below hbelow => ?_
    refine (eachResource_outcome hunique rest hlocation hrest).bind fun later hlater => ?_
    obtain ⟨hnames, hdiffer⟩ := hlater
    refine .ok ⟨congrArg (name :: ·) hnames, List.forall_mem_cons.mpr ⟨?_, hdiffer⟩⟩
    exact (Resource.siblingsDiffer_iff _).mpr hbelow
  | (_, .null) :: _, _, hlocation, hresolve | (_, .bool _) :: _, _, hlocation, hresolve
  | (_, .number _) :: _, _, hlocation, hresolve | (_, .string _) :: _, _, hlocation, hresolve
  | (_, .array _) :: _, _, hlocation, hresolve =>
    .error (.resource hlocation (List.forall_mem_cons.mp hresolve).1 (Json.noObject_typeName rfl))

/-- …and so are those below a resource. -/
theorem resourcesBelow_outcome (hunique : root.UniqueKeys) : (members : Members) → ∀ {location},
    HoldsResources (child location "resources") →
    resolve? root (child location "resources") = members.get? "resources" →
    Outcome AllDiffer (ResourceFault root) (resourcesBelow location members)
  | [], _, _, _ => .ok ⟨List.nodup_nil, List.forall_mem_nil _⟩
  | (k, value) :: rest, location, hlocation, hresolve => by
    rw [resourcesBelow]
    split
    · next hkey =>
      refine resources_outcome hunique value hlocation (hresolve.trans ?_)
      simp [Members.get?, hkey]
    · next hkey =>
      refine resourcesBelow_outcome hunique rest hlocation (hresolve.trans ?_)
      simp [Members.get?, hkey]

end

end Loading

end ApiClasses
