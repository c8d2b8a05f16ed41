import ApiClasses.Document.Loading
import ApiClasses.Proofs.Json.Spellings
import ApiClasses.Proofs.Json.UniqueKeys

/-!
# The rules of loading

Loading as rules over lists of locations: `Loads` for locations that become ids,
`Refuses` for locations that do not all. What a location asks for is read off the
document alone (`finding?`); a rule then says what is done with it. The rules know
the locations whose references are being followed, but no bound on jumps.

A location may hold a reference (`HoldsReference`) or a schema of its own
(`HoldsSchema`), never both.
-/

namespace ApiClasses.Loading

open Json (Members)
open Json.Pointer (child resolve?)

/-! ## What is found at a location -/

/-- The shape of a schema while its children are still locations. -/
inductive Outline where
  /-- a shape without children -/
  | plain (shape : Shape)
  /-- an array, possibly with the location of its items -/
  | array (items : Option String)
  /-- an object: names and locations of its properties, and the location of its
  additional properties -/
  | object (properties : List (String × String)) (additional : Option String)
  deriving DecidableEq

namespace Outline

/-- The locations of the children, in the order they are loaded. -/
def children : Outline → List String
  | plain _ => []
  | array items => items.toList
  | object properties additional => properties.map (·.2) ++ additional.toList

/-- The shape, once the children have ids. -/
def shape (ids : List NodeId) : Outline → Shape
  | plain shape => shape
  | array _ => .array ids.head?
  | object properties _ =>
    .object (List.zipWith (fun property id => ⟨property.1, id⟩) properties ids)
      (ids.drop properties.length).head?

end Outline

/-- A schema of its own while its children are still locations. -/
structure Draft where
  /-- its name -/
  name : Option String
  /-- its description -/
  description : Option String
  /-- its shape -/
  outline : Outline
  deriving DecidableEq

/-- The node, once the children have ids. -/
def Draft.node (draft : Draft) (ids : List NodeId) : Node :=
  ⟨draft.name, draft.description, draft.outline.shape ids⟩

/-- What the loader finds at a location. -/
inductive Finding where
  /-- something that cannot be loaded -/
  | fault (error : LoadError)
  /-- a reference that leads somewhere -/
  | link (reference : String)
  /-- a schema of its own -/
  | own (draft : Draft)
  deriving DecidableEq

/-- Names and locations of the declared properties. -/
def outlineProperties (location : String) :
    Option Json → Except LoadError (List (String × String))
  | none => .ok []
  | some (.object members) =>
    .ok (members.map fun (name, _) => (name, child (child location "properties") name))
  | some other => .error (.invalidValue location "properties" other.typeName)

/-- The location under a key, if there is a value under it and it is wanted. -/
def locationUnder (location key : String) (wanted : Json → Bool) (members : Members) :
    Option String :=
  match members.get? key with
  | some value => if wanted value then some (child location key) else none
  | none => none

/-- The outline of a schema of its own. -/
def outline (location : String) (members : Members) : Except LoadError Outline := do
  match ← Form.at? location members with
  | .plain shape => return .plain shape
  | .array => return .array (locationUnder location "items" (fun _ => true) members)
  | .object =>
    let properties ← outlineProperties location (members.get? "properties")
    return .object properties
      (locationUnder location "additionalProperties" (·.members?.isSome) members)

/-- What a value is to the loader at its location. -/
def finding (root : Json) (location : String) : Json → Finding
  | .object members =>
    match Members.get? members "$ref" with
    | some (.string reference) =>
      match resolve? root (target reference) with
      | some _ => .link reference
      | none => .fault (.unresolvedReference location reference)
    | some other => .fault (.invalidValue location "$ref" other.compact)
    | none =>
      match outline location members with
      | .ok outline =>
        .own ⟨ownName? location members, textUnder "description" members, outline⟩
      | .error error => .fault error
  | other => .fault (.invalidValue location "schema" other.typeName)

/-- What is found at a location, if it leads anywhere. -/
def finding? (root : Json) (location : String) : Option Finding :=
  (resolve? root location).map (finding root location)

theorem finding?_other {root value : Json} {location : String}
    (hresolve : resolve? root location = some value) (h : value.members? = none) :
    finding? root location =
      some (.fault (.invalidValue location "schema" value.typeName)) := by
  rw [finding?, hresolve, Option.map_some]
  cases value with
  | object members => cases h
  | null | bool _ | number _ | string _ | array _ => rfl

section finding?

variable {root : Json} {location : String} {members : Members}
  (hresolve : resolve? root location = some (.object members))

include hresolve

theorem finding?_misfit {other : Json} (h : members.get? "$ref" = some other)
    (hother : other.string? = none) :
    finding? root location = some (.fault (.invalidValue location "$ref" other.compact)) := by
  rw [finding?, hresolve, Option.map_some, finding, h]
  cases other with
  | string text => cases hother
  | object members | null | bool _ | number _ | array _ => rfl

theorem finding?_own (h : members.get? "$ref" = none) :
    finding? root location = some (match outline location members with
      | .ok outline => .own ⟨ownName? location members, textUnder "description" members, outline⟩
      | .error error => .fault error) := by
  rw [finding?, hresolve, Option.map_some, finding, h]

theorem finding?_link {reference : String} {value : Json}
    (h : members.get? "$ref" = some (.string reference))
    (htarget : resolve? root (target reference) = some value) :
    finding? root location = some (.link reference) := by
  rw [finding?, hresolve, Option.map_some, finding, h]
  simp only [htarget]

theorem finding?_unresolved {reference : String}
    (h : members.get? "$ref" = some (.string reference))
    (htarget : resolve? root (target reference) = none) :
    finding? root location = some (.fault (.unresolvedReference location reference)) := by
  rw [finding?, hresolve, Option.map_some, finding, h]
  simp only [htarget]

end finding?

/-- What is found, together with the reason why. -/
inductive Found (root : Json) (location : String) : Finding → Prop where
  /-- no object is there -/
  | other {value} : resolve? root location = some value → value.members? = none →
    Found root location (.fault (.invalidValue location "schema" value.typeName))
  /-- a reference that is no text -/
  | misfit {members referred} : resolve? root location = some (.object members) →
    Members.get? members "$ref" = some referred → referred.string? = none →
    Found root location (.fault (.invalidValue location "$ref" referred.compact))
  /-- a reference that leads nowhere -/
  | unresolved {members reference} : resolve? root location = some (.object members) →
    Members.get? members "$ref" = some (.string reference) →
    resolve? root (target reference) = none →
    Found root location (.fault (.unresolvedReference location reference))
  /-- a reference that leads somewhere -/
  | link {members reference value} : resolve? root location = some (.object members) →
    Members.get? members "$ref" = some (.string reference) →
    resolve? root (target reference) = some value →
    Found root location (.link reference)
  /-- a schema of its own that has no outline -/
  | shapeless {members error} : resolve? root location = some (.object members) →
    Members.get? members "$ref" = none → outline location members = .error error →
    Found root location (.fault error)
  /-- a schema of its own -/
  | own {members outlined} : resolve? root location = some (.object members) →
    Members.get? members "$ref" = none → outline location members = .ok outlined →
    Found root location
      (.own ⟨ownName? location members, textUnder "description" members, outlined⟩)

theorem found_of_finding? {root : Json} {location : String} {found : Finding}
    (h : finding? root location = some found) : Found root location found := by
  obtain ⟨value, hresolve, hfound⟩ := Option.map_eq_some_iff.mp h
  cases value with
  | object members =>
    rcases href : Members.get? members "$ref" with _ | referred
    · have hown := finding?_own hresolve href
      rcases houtline : outline location members with error | outlined
      · rw [houtline] at hown
        rw [Option.some.inj (h.symm.trans hown)]
        exact .shapeless hresolve href houtline
      · rw [houtline] at hown
        rw [Option.some.inj (h.symm.trans hown)]
        exact .own hresolve href houtline
    · rcases hstring : referred.string? with _ | reference
      · have hmisfit := finding?_misfit hresolve href hstring
        rw [Option.some.inj (h.symm.trans hmisfit)]
        exact .misfit hresolve href hstring
      · obtain rfl := Json.eq_string_of_string? hstring
        rcases htarget : resolve? root (target reference) with _ | value
        · rw [Option.some.inj (h.symm.trans (finding?_unresolved hresolve href htarget))]
          exact .unresolved hresolve href htarget
        · rw [Option.some.inj (h.symm.trans (finding?_link hresolve href htarget))]
          exact .link hresolve href htarget
  | null | bool _ | number _ | string _ | array _ =>
    rw [← hfound]
    exact .other hresolve rfl

variable {root : Json} {location : String}

/-- An object without a reference is at the location. -/
def HoldsSchema (root : Json) (location : String) : Prop :=
  ∃ members, resolve? root location = some (.object members) ∧
    Members.get? members "$ref" = none

theorem holdsSchema_of_own {draft : Draft} (h : finding? root location = some (.own draft)) :
    HoldsSchema root location := by
  cases found_of_finding? h with
  | own hresolve href _ => exact ⟨_, hresolve, href⟩

/-- A text that refers somewhere is at the location. -/
def HoldsReference (root : Json) (location : String) : Prop :=
  ∃ members reference, resolve? root location = some (.object members) ∧
    Members.get? members "$ref" = some (.string reference)

theorem holdsReference_of_link {reference : String}
    (h : finding? root location = some (.link reference)) : HoldsReference root location := by
  cases found_of_finding? h with
  | link hresolve href _ => exact ⟨_, _, hresolve, href⟩

/-- No location holds both. -/
theorem HoldsReference.not_holdsSchema (h : HoldsReference root location) :
    ¬ HoldsSchema root location := by
  obtain ⟨members, reference, hresolve, href⟩ := h
  rintro ⟨members', hresolve', href'⟩
  cases hresolve.symm.trans hresolve'
  cases href.symm.trans href'

/-! ## The rules -/

namespace Progress

/-- The id that the next new schema gets. -/
def fresh (progress : Progress) : NodeId := ⟨progress.arena.size⟩

/-- A location has a fresh id; its node is still empty. -/
def reserve (progress : Progress) (location : String) : Progress :=
  { progress with arena := (progress.arena.alloc {}).2 }.note location progress.fresh

/-- A reserved id has its node. -/
def fill (progress : Progress) (id : NodeId) (node : Node) : Progress :=
  { progress with arena := progress.arena.put id node }

end Progress

/-- Loading some locations, one after the other, while references at the locations
of `following` are being followed. -/
inductive Loads (root : Json) :
    List String → Progress → List String → List NodeId → Progress → Prop where
  /-- nothing is left to load -/
  | nil {following progress} : Loads root following progress [] [] progress
  /-- a location that is known -/
  | known {following progress location id rest ids after} :
    progress.id? location = some id →
    Loads root following progress rest ids after →
    Loads root following progress (location :: rest) (id :: ids) after
  /-- a reference, which is followed -/
  | link {following progress location reference id middle rest ids after} :
    progress.id? location = none →
    finding? root location = some (.link reference) →
    location ∉ following →
    Loads root (location :: following) progress [target reference] [id] middle →
    Loads root following (middle.note location id) rest ids after →
    Loads root following progress (location :: rest) (id :: ids) after
  /-- a schema of its own -/
  | own {following progress location draft inner middle rest ids after} :
    progress.id? location = none →
    finding? root location = some (.own draft) →
    Loads root following (progress.reserve location) draft.outline.children inner middle →
    Loads root following (middle.fill progress.fresh (draft.node inner)) rest ids after →
    Loads root following progress (location :: rest) (progress.fresh :: ids) after

/-- Failing to load some locations, one after the other. -/
inductive Refuses (root : Json) :
    List String → Progress → List String → LoadError → Prop where
  /-- the location cannot be loaded -/
  | fault {following progress location error rest} :
    progress.id? location = none →
    finding? root location = some (.fault error) →
    Refuses root following progress (location :: rest) error
  /-- the reference is being followed already -/
  | circle {following progress location reference rest} :
    progress.id? location = none →
    finding? root location = some (.link reference) →
    location ∈ following →
    Refuses root following progress (location :: rest)
      (.invalidValue location "$ref" reference)
  /-- where the reference leads fails -/
  | link {following progress location reference rest error} :
    progress.id? location = none →
    finding? root location = some (.link reference) →
    location ∉ following →
    Refuses root (location :: following) progress [target reference] error →
    Refuses root following progress (location :: rest) error
  /-- a child fails -/
  | own {following progress location draft rest error} :
    progress.id? location = none →
    finding? root location = some (.own draft) →
    Refuses root following (progress.reserve location) draft.outline.children error →
    Refuses root following progress (location :: rest) error
  /-- a later location fails -/
  | later {following progress location id middle rest error} :
    Loads root following progress [location] [id] middle →
    Refuses root following middle rest error →
    Refuses root following progress (location :: rest) error

variable {following : List String} {progress middle after : Progress}
  {locations later : List String} {ids laterIds : List NodeId} {error : LoadError}

theorem Loads.append (h : Loads root following progress locations ids middle)
    (h' : Loads root following middle later laterIds after) :
    Loads root following progress (locations ++ later) (ids ++ laterIds) after := by
  induction h with
  | nil => exact h'
  | known hid _ ih => exact .known hid (ih h')
  | link hnew hfind hnot htarget _ _ ih => exact .link hnew hfind hnot htarget (ih h')
  | own hnew hfind hinner _ _ ih => exact .own hnew hfind hinner (ih h')

theorem Refuses.append (h : Refuses root following progress locations error) :
    Refuses root following progress (locations ++ later) error := by
  induction h with
  | fault hnew hfind => exact .fault hnew hfind
  | circle hnew hfind hmem => exact .circle hnew hfind hmem
  | link hnew hfind hnot htarget _ => exact .link hnew hfind hnot htarget
  | own hnew hfind hinner _ => exact .own hnew hfind hinner
  | later hfirst _ ih => exact .later hfirst ih

theorem Loads.append_refuses (h : Loads root following progress locations ids middle)
    (h' : Refuses root following middle later error) :
    Refuses root following progress (locations ++ later) error := by
  induction h with
  | nil => exact h'
  | known hid _ ih => exact .later (.known hid .nil) (ih h')
  | link hnew hfind hnot htarget _ _ ih =>
    exact .later (.link hnew hfind hnot htarget .nil) (ih h')
  | own hnew hfind hinner _ _ ih => exact .later (.own hnew hfind hinner .nil) (ih h')

end ApiClasses.Loading
