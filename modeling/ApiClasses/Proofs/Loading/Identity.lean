import ApiClasses.Proofs.Loading.Documents
import ApiClasses.Proofs.Loading.Memory
import Mathlib.Logic.Relation

/-!
# One place, one id

The loader tells locations apart by the texts of their pointers, and a place in a
document may be spelled in several ways. Whatever the spellings, a reference gets the
id of what it leads to. A schema of its own gets one id for each spelling under which
it is come upon (`load_identity`): it has one id exactly if it has one spelling there.
-/

namespace ApiClasses.Json.Pointer

/-! ## Places -/

/-- The child a token leads to, by its number. -/
def childIndex? (value : Json) (token : List Char) : Option Nat :=
  match value with
  | .object members => members.findIdx? (·.1 == String.ofList (unescapeChars token))
  | .array _ => index? (unescapeChars token)
  | _ => none

/-- The child with a number. -/
def childAt? : Json → Nat → Option Json
  | .object members, i => members[i]?.map (·.2)
  | .array elements, i => elements[i]?
  | _, _ => none

/-- The numbers of the children that the tokens lead to, one inside the other. -/
def placeOf? : Json → List (List Char) → Option (List Nat)
  | _, [] => some []
  | value, token :: tokens =>
    (childIndex? value token).bind fun i =>
      (childAt? value i).bind fun child => (placeOf? child tokens).map (i :: ·)

/-- The place in `root` that a pointer leads to. -/
def place? (root : Json) (pointer : String) : Option (List Nat) :=
  (tokens? pointer.toList).bind (placeOf? root)

/-- The value at a place. -/
def valueAt? : Json → List Nat → Option Json
  | value, [] => some value
  | value, i :: place => (childAt? value i).bind (valueAt? · place)

theorem step?_eq_childAt? (value : Json) (token : List Char) :
    step? value token = (childIndex? value token).bind (childAt? value) := by
  cases value with
  | object members =>
    rw [step?, Members.get?, List.find?_eq_bind_findIdx?_getElem?, Option.map_bind]
    rfl
  | array elements => rfl
  | null | bool _ | number _ | string _ => rfl

theorem follow?_eq_valueAt? (value : Json) (tokens : List (List Char)) :
    follow? value tokens = (placeOf? value tokens).bind (valueAt? value) := by
  induction tokens generalizing value with
  | nil => rfl
  | cons token tokens ih =>
    rw [follow?, step?_eq_childAt?, placeOf?]
    rcases childIndex? value token with _ | i
    · rfl
    · rw [Option.bind_some, Option.bind_some]
      rcases hchild : childAt? value i with _ | child
      · rfl
      · rw [Option.bind_some, Option.bind_some, ih]
        rcases placeOf? child tokens with _ | place
        · rfl
        · rw [Option.bind_some, Option.map_some, Option.bind_some, valueAt?, hchild]
          rfl

/-- A pointer leads to the value at its place. -/
theorem resolve?_eq_valueAt? (root : Json) (pointer : String) :
    resolve? root pointer = (place? root pointer).bind (valueAt? root) := by
  rw [resolve?, place?, Option.bind_assoc]
  exact congrArg _ (funext (follow?_eq_valueAt? root))

/-- Two pointers lead to the same place. -/
def SamePlace (root : Json) (pointer other : String) : Prop :=
  ∃ place, place? root pointer = some place ∧ place? root other = some place

theorem SamePlace.symm {root : Json} {pointer other : String} (h : SamePlace root pointer other) :
    SamePlace root other pointer := by
  obtain ⟨place, hpointer, hother⟩ := h
  exact ⟨place, hother, hpointer⟩

theorem SamePlace.resolve?_eq {root : Json} {pointer other : String}
    (h : SamePlace root pointer other) : resolve? root pointer = resolve? root other := by
  obtain ⟨place, hpointer, hother⟩ := h
  rw [resolve?_eq_valueAt?, resolve?_eq_valueAt?, hpointer, hother]

end ApiClasses.Json.Pointer

namespace ApiClasses.Loading

open Json (Members)
open Json.Pointer (child resolve? SamePlace)
open Relation (ReflTransGen)

variable {root : Json} {following : List String} {progress after : Progress}
  {locations : List String} {ids : List NodeId} {location other : String}

/-! ## Reachable locations -/

/-- The location is at the top level, or some such location leads there. -/
def Reachable (root : Json) (location : String) : Prop :=
  ∃ top ∈ topLocations root, ReflTransGen (fun one other => other ∈ next root one) top location

/-- What becomes known is reached from the locations that are loaded. -/
theorem Loads.reached (h : Loads root following progress locations ids after) {id : NodeId}
    (hnew : progress.id? location = none) (hid : after.id? location = some id) :
    ∃ start ∈ locations, ReflTransGen (fun one other => other ∈ next root one) start location := by
  induction h generalizing id with
  | nil => cases hnew.symm.trans hid
  | known _ _ ih =>
    obtain ⟨start, hmem, hpath⟩ := ih hnew hid
    exact ⟨start, List.mem_cons_of_mem _ hmem, hpath⟩
  | @link _ _ here reference _ middle _ _ _ _ hfind _ _ _ ih_target ih =>
    by_cases hhere : here = location
    · exact ⟨here, List.mem_cons_self, hhere ▸ .refl⟩
    · rcases hmiddle : middle.id? location with _ | _
      · obtain ⟨start, hmem, hpath⟩ := ih (by rw [Progress.id?_note, if_neg hhere, hmiddle]) hid
        exact ⟨start, List.mem_cons_of_mem _ hmem, hpath⟩
      · obtain ⟨start, hmem, hpath⟩ := ih_target hnew hmiddle
        exact ⟨here, List.mem_cons_self, .head (by rwa [next_link hfind]) hpath⟩
  | @own _ _ here draft _ middle _ _ _ _ hfind _ _ ih_inner ih =>
    by_cases hhere : here = location
    · exact ⟨here, List.mem_cons_self, hhere ▸ .refl⟩
    · rcases hmiddle : middle.id? location with _ | _
      · obtain ⟨start, hmem, hpath⟩ := ih hmiddle hid
        exact ⟨start, List.mem_cons_of_mem _ hmem, hpath⟩
      · obtain ⟨start, hmem, hpath⟩ :=
          ih_inner (by rw [Progress.id?_reserve, if_neg hhere, hnew]) hmiddle
        exact ⟨here, List.mem_cons_self, .head (by rwa [next_own hfind]) hpath⟩

/-- What the loader knows in the end is what can be reached. -/
theorem Loads.known_iff (h : Loads root [] {} (topLocations root) ids after) :
    (∃ id, after.id? location = some id) ↔ Reachable root location := by
  constructor
  · rintro ⟨id, hid⟩
    exact h.reached rfl hid
  · rintro ⟨top, htop, hpath⟩
    induction hpath with
    | refl => exact h.known_of_mem htop
    | tail _ hnext ih =>
      obtain ⟨id, hid⟩ := ih
      exact h.closed rfl hid _ hnext

/-- A reachable location is complete in the end. -/
theorem Loads.complete (h : Loads root [] {} (topLocations root) ids after)
    (hreach : Reachable root location) : New root {} after location := by
  obtain ⟨id, hid⟩ := h.known_iff.mpr hreach
  exact h.new rfl hid

/-! ## Spellings -/

/-- A reference is the same under all spellings of its location. -/
theorem link_of_samePlace (h : SamePlace root location other) {reference : String}
    (hfind : finding? root location = some (.link reference)) :
    finding? root other = some (.link reference) := by
  cases found_of_finding? hfind with
  | link hresolve href htarget => exact finding?_link (h.resolve?_eq ▸ hresolve) href htarget

/-- Under two spellings of one place, a reference has one id, and a schema of its own
has one only if the spellings are the same. -/
theorem Loads.id?_eq_iff (h : Loads root [] {} (topLocations root) ids after)
    (hlocation : Reachable root location) (hother : Reachable root other)
    (hplace : SamePlace root location other) :
    after.id? location = after.id? other ↔ location = other ∨ HoldsReference root location := by
  cases h.complete hlocation with
  | link hfind hid htarget =>
    refine ⟨fun _ => .inr (holdsReference_of_link hfind), fun _ => ?_⟩
    cases h.complete hother with
    | link hfind' hid' htarget' =>
      cases (link_of_samePlace hplace hfind).symm.trans hfind'
      rw [hid, hid', ← htarget, htarget']
    | own hfind' => cases (link_of_samePlace hplace hfind).symm.trans hfind'
  | own hfind hid =>
    constructor
    · intro heq
      cases h.complete hother with
      | link hfind' => cases (link_of_samePlace hplace.symm hfind').symm.trans hfind
      | own hfind' hid' =>
        obtain rfl := Option.some.inj ((hid.symm.trans heq).trans hid')
        exact .inl ((h.distinct (.empty root)).injective hfind hfind' hid hid')
    · rintro (rfl | hholds)
      · rfl
      · exact absurd (holdsSchema_of_own hfind) hholds.not_holdsSchema

/-! ## Documents -/

/-- What the loader remembers of a document that loads: the id of every location that
can be reached. -/
structure Remembers (root : Json) (doc : Document) (memory : Progress) : Prop where
  /-- it has loaded the schemas -/
  run : schemas root (root.get? "schemas") = .ok (doc.schemas, memory)
  /-- its arena is that of the document -/
  arena : doc.arena = memory.arena
  /-- a top-level schema has the id of its location -/
  top : ∀ entry ∈ doc.schemas, memory.id? (child schemasLocation entry.1) = some entry.2
  /-- nothing but what can be reached has an id -/
  known : ∀ location, (∃ id, memory.id? location = some id) ↔ Reachable root location
  /-- a reference has the id of its target, and the node of a schema of its own holds
  the ids of its children -/
  complete : ∀ location, Reachable root location → New root {} memory location

/-- **One id for each spelling.** Two spellings of one place that can be reached have the
same id exactly if they are the same or a reference is there. So places have one id each
exactly if no schema of its own can be reached under two spellings. -/
theorem load_identity {text : String} {doc : Document} (hread : Json.read text = .ok root)
    (hload : Document.load text = .ok doc) :
    ∃ memory, Remembers root doc memory ∧
      (∀ location other, Reachable root location → Reachable root other →
        SamePlace root location other →
          (memory.id? location = memory.id? other ↔
            location = other ∨ HoldsReference root location)) ∧
      ((∀ location other, Reachable root location → Reachable root other →
          SamePlace root location other → memory.id? location = memory.id? other) ↔
        ∀ location other, Reachable root location → Reachable root other →
          SamePlace root location other → HoldsSchema root location → location = other) := by
  obtain ⟨ids, memory, hrun, harena, hnamed, h⟩ := loads_of_load hread hload
  have htop : ∀ entry ∈ doc.schemas,
      memory.id? (child schemasLocation entry.1) = some entry.2 := by
    rintro ⟨name, id⟩ hmem
    rw [hnamed] at hmem
    exact (List.forall₂_iff_zip.mp (List.forall₂_map_left_iff.mp h.given)).2 hmem
  refine ⟨memory, ⟨hrun, harena, htop, fun _ => h.known_iff, fun _ => h.complete⟩, ?_, ?_, ?_⟩
  · intro location other hlocation hother hplace
    exact h.id?_eq_iff hlocation hother hplace
  · intro hsame location other hlocation hother hplace hholds
    have heq := hsame location other hlocation hother hplace
    rcases (h.id?_eq_iff hlocation hother hplace).mp heq with heq | href
    · exact heq
    · exact absurd hholds href.not_holdsSchema
  · intro hone location other hlocation hother hplace
    refine (h.id?_eq_iff hlocation hother hplace).mpr ?_
    cases h.complete hlocation with
    | link hfind => exact .inr (holdsReference_of_link hfind)
    | own hfind =>
      exact .inl (hone location other hlocation hother hplace (holdsSchema_of_own hfind))

/-! ## A place spelled twice -/

/-- The schema `a~b`, and a reference that leaves its tilde as it is. -/
def spelledTwice : String :=
  "\x7b\"schemas\":\x7b\"a~b\":\x7b\"type\":\"string\"\x7d,\"X\":\x7b\"$ref\":" ++
    "\"#/schemas/a~b\"\x7d\x7d\x7d"

/-- What is read from it. -/
def spelledTwiceRoot : Json :=
  .object [("schemas", .object [("a~b", .object [("type", .string "string")]),
    ("X", .object [("$ref", .string "#/schemas/a~b")])])]

theorem read_spelledTwice : Json.read spelledTwice = .ok spelledTwiceRoot := by
  unfold spelledTwice
  simp only [String.reduceAppend]
  exact Json.read_ofList (by decide)

theorem load_spelledTwice : ∃ doc, Document.load spelledTwice = .ok doc ∧
    doc.schemas = [("a~b", ⟨0⟩), ("X", ⟨1⟩)] ∧ doc.arena.size = 2 := by
  rw [Document.load, read_spelledTwice]
  obtain ⟨doc, hload, hshown⟩ : ∃ doc, document spelledTwiceRoot = .ok doc ∧
      (doc.schemas, doc.arena.size) = ([("a~b", ⟨0⟩), ("X", ⟨1⟩)], 2) :=
    exists_of_toOption (by decide)
  obtain ⟨hnamed, hsize⟩ := Prod.mk.inj hshown
  exact ⟨doc, hload, hnamed, hsize⟩

theorem samePlace_spelledTwice :
    SamePlace spelledTwiceRoot (child schemasLocation "a~b") (target "#/schemas/a~b") :=
  ⟨[0, 0], by decide +kernel, by decide +kernel⟩

theorem link_spelledTwice :
    finding? spelledTwiceRoot (child schemasLocation "X") = some (.link "#/schemas/a~b") := by
  decide +kernel

/-- A schema and a reference to it have different ids, although the reference leads to
the place of the schema: the document has two nodes for one place. -/
theorem spelled_twice_two_nodes :
    Json.read spelledTwice = .ok spelledTwiceRoot ∧
    finding? spelledTwiceRoot (child schemasLocation "X") = some (.link "#/schemas/a~b") ∧
    SamePlace spelledTwiceRoot (child schemasLocation "a~b") (target "#/schemas/a~b") ∧
    ∃ doc, Document.load spelledTwice = .ok doc ∧
      doc.schemas = [("a~b", ⟨0⟩), ("X", ⟨1⟩)] ∧ doc.arena.size = 2 :=
  ⟨read_spelledTwice, link_spelledTwice, samePlace_spelledTwice, load_spelledTwice⟩

/-- The two spellings of that place have different ids. -/
theorem spelled_twice_two_ids : ∃ doc memory,
    Json.read spelledTwice = .ok spelledTwiceRoot ∧ Document.load spelledTwice = .ok doc ∧
    Remembers spelledTwiceRoot doc memory ∧
    SamePlace spelledTwiceRoot (child schemasLocation "a~b") (target "#/schemas/a~b") ∧
    memory.id? (child schemasLocation "a~b") ≠ memory.id? (target "#/schemas/a~b") := by
  obtain ⟨doc, hload, -, -⟩ := load_spelledTwice
  obtain ⟨memory, hmemory, hiff, -⟩ := load_identity read_spelledTwice hload
  have hschema : Reachable spelledTwiceRoot (child schemasLocation "a~b") :=
    ⟨_, by decide +kernel, .refl⟩
  have htarget : Reachable spelledTwiceRoot (target "#/schemas/a~b") := by
    refine ⟨child schemasLocation "X", by decide +kernel, .single ?_⟩
    rw [next_link link_spelledTwice]
    exact List.mem_singleton_self _
  have hholds : HoldsSchema spelledTwiceRoot (child schemasLocation "a~b") :=
    ⟨[("type", .string "string")], by decide +kernel, by decide +kernel⟩
  refine ⟨doc, memory, read_spelledTwice, hload, hmemory, samePlace_spelledTwice, fun heq => ?_⟩
  rcases (hiff _ _ hschema htarget samePlace_spelledTwice).mp heq with hsame | href
  · exact absurd hsame (by decide +kernel)
  · exact href.not_holdsSchema hholds

end ApiClasses.Loading
