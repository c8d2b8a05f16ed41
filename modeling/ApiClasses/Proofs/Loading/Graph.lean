import ApiClasses.Proofs.Loading.Circles
import ApiClasses.Proofs.Loading.Descents
import ApiClasses.Proofs.Loading.Identity
import Mathlib.Data.Option.Defs

/-!
# The arena is the graph of the document

In the arena of a loaded document every id stands for one pointer to an object without a
reference, and its node is what that object says: a child that the object declares is
the id of the pointer at which the references from the child's own place end
(`arena_is_reference_graph`).

Nodes are reserved before they are filled, and the way there may come by the same
pointer again, so this can only be said of what is known when loading has ended. Two
facts are carried along the way until then (`Progress.Rooted`): from every known
location references lead to a schema of its own with the same id, and every id in the
arena is that of some schema of its own.
-/

namespace ApiClasses.Loading

open Json (Members)
open Json.Pointer (child resolve? unescape)
open Relation (ReflTransGen)

variable {root : Json} {following : List String} {progress after : Progress}
  {locations : List String} {ids : List NodeId} {location other reference : String} {id : NodeId}
  {arena : Arena} {members : Members}

/-! ## Where references end -/

/-- The references from a location on end at another one, which holds an object without
a reference. -/
def LeadsTo (root : Json) (location other : String) : Prop :=
  ReflTransGen (Hop root) location other ∧ HoldsSchema root other

/-- What references lead to is one location. -/
theorem LeadsTo.unique {last : String} (h : LeadsTo root location other)
    (h' : LeadsTo root location last) : other = last := by
  obtain ⟨hpath, hholds⟩ := h
  obtain ⟨hpath', hholds'⟩ := h'
  -- no hop leads on from an object without a reference
  have hstop {one two : String} (hone : HoldsSchema root one) : ¬ Hop root one two := by
    rintro ⟨_, hfind, -⟩
    exact (holdsReference_of_link hfind).not_holdsSchema hone
  induction hpath using ReflTransGen.head_induction_on with
  | refl =>
    rcases ReflTransGen.cases_head hpath' with heq | ⟨_, hhop, -⟩
    · exact heq
    · exact absurd hhop (hstop hholds)
  | head hhop _ ih =>
    rcases ReflTransGen.cases_head hpath' with rfl | ⟨_, hhop', hrest⟩
    · exact absurd hhop (hstop hholds')
    · obtain rfl := hhop.unique hhop'
      exact ih hrest

/-! ## Known locations and ids in the arena -/

/-- Whatever is known and whatever is in the arena goes back to a schema of its own. -/
structure Progress.Rooted (root : Json) (progress : Progress) : Prop where
  /-- references lead from a known location to a schema of its own with the same id -/
  grounded : ∀ {location id}, progress.id? location = some id →
    ∃ other draft, ReflTransGen (Hop root) location other ∧
      finding? root other = some (.own draft) ∧ progress.id? other = some id
  /-- every id in the arena is the id of a schema of its own -/
  owned : ∀ {id : NodeId}, id.index < progress.arena.size →
    ∃ location draft, finding? root location = some (.own draft) ∧
      progress.id? location = some id

namespace Progress.Rooted

theorem empty (root : Json) : Rooted root {} := by
  refine ⟨fun hid => ?_, fun hid => ?_⟩
  · cases hid
  · exact absurd hid (Nat.not_lt_zero _)

/-- A reference may be noted with the id of its target. -/
theorem note (h : progress.Rooted root) (hfind : finding? root location = some (.link reference))
    (htarget : progress.id? (target reference) = some id) :
    (progress.note location id).Rooted root := by
  refine ⟨fun {place found} hid => ?_, fun hid => ?_⟩
  · rw [id?_note] at hid
    split at hid
    · next heq =>
      obtain rfl := Option.some.inj hid
      obtain ⟨other, draft, hpath, hown, hother⟩ := h.grounded htarget
      refine ⟨other, draft, .head ⟨reference, heq ▸ hfind, rfl⟩ hpath, hown, ?_⟩
      rw [id?_note_of_own hfind hown, hother]
    · obtain ⟨other, draft, hpath, hown, hother⟩ := h.grounded hid
      exact ⟨other, draft, hpath, hown, (id?_note_of_own hfind hown).trans hother⟩
  · obtain ⟨place, draft, hown, hplace⟩ := h.owned hid
    exact ⟨place, draft, hown, (id?_note_of_own hfind hown).trans hplace⟩

/-- A schema of its own may be reserved. -/
theorem reserve (h : progress.Rooted root) {draft : Draft}
    (hown : finding? root location = some (.own draft)) (hnew : progress.id? location = none) :
    (progress.reserve location).Rooted root := by
  have hself : (progress.reserve location).id? location = some progress.fresh :=
    id?_note_self ..
  have hold {other id} (hid : progress.id? other = some id) :
      (progress.reserve location).id? other = some id := by
    rw [id?_reserve, if_neg, hid]
    rintro rfl
    cases hnew.symm.trans hid
  refine ⟨fun {place found} hid => ?_, fun {found} hid => ?_⟩
  · rw [id?_reserve] at hid
    split at hid
    · next heq =>
      obtain rfl := Option.some.inj hid
      exact ⟨location, draft, heq ▸ .refl, hown, hself⟩
    · obtain ⟨other, draft', hpath, hown', hother⟩ := h.grounded hid
      exact ⟨other, draft', hpath, hown', hold hother⟩
  · rw [size_reserve] at hid
    by_cases hlt : found.index < progress.arena.size
    · obtain ⟨place, draft', hown', hplace⟩ := h.owned hlt
      exact ⟨place, draft', hown', hold hplace⟩
    · have hfresh : progress.fresh = found :=
        congrArg NodeId.mk (Nat.le_antisymm (Nat.not_lt.mp hlt) (Nat.lt_succ_iff.mp hid))
      exact ⟨location, draft, hown, hfresh ▸ hself⟩

theorem fill (h : progress.Rooted root) (id : NodeId) (node : Node) :
    (progress.fill id node).Rooted root := by
  refine ⟨h.grounded, fun hid => ?_⟩
  rw [size_fill] at hid
  exact h.owned hid

end Progress.Rooted

/-- Loading keeps everything rooted. -/
theorem Loads.rooted (h : Loads root following progress locations ids after)
    (hrooted : progress.Rooted root) : after.Rooted root := by
  induction h with
  | nil => exact hrooted
  | known _ _ ih => exact ih hrooted
  | link _ hfind _ htarget _ ih_target ih =>
    obtain ⟨hgiven, -⟩ := List.forall₂_cons.mp htarget.given
    exact ih ((ih_target hrooted).note hfind hgiven)
  | own hnew hown _ _ ih_inner ih => exact ih ((ih_inner (hrooted.reserve hown hnew)).fill _ _)

/-! ## What an object says -/

/-- The word for the kind of a schema: its type, or what its other members suggest. -/
def kind? (members : Members) : Option String :=
  match members.get? "type" with
  | some type => type.string?
  | none =>
    if (members.get? "properties").isSome || (members.get? "additionalProperties").isSome then
      some "object"
    else if (members.get? "items").isSome then some "array"
    else some "any"

/-- The keys of the declared properties, in order. -/
def propertyKeys (members : Members) : List String :=
  match members.get? "properties" with
  | some (.object properties) => Members.keys properties
  | _ => []

/-- The shape has the children that the members declare, each under an id that answers
to the child's place. -/
def HasChildren (answers : String → NodeId → Prop) (location : String) (members : Members) :
    Shape → Prop
  | .array items =>
    Option.Rel (fun _ id => answers (child location "items") id) (members.get? "items") items
  | .object properties additional =>
    List.Forall₂
      (fun key property => property.name = key ∧
        answers (child (child location "properties") key) property.schema)
      (propertyKeys members) properties ∧
    Option.Rel (fun _ id => answers (child location "additionalProperties") id)
      ((members.get? "additionalProperties").filter (·.members?.isSome)) additional
  | _ => True

/-- The word for the kind. -/
def Form.keyword : Form → String
  | plain shape => shape.keyword
  | array => "array"
  | object => "object"

theorem Form.keyword_of_ofName? {name : String} {form : Form} (h : ofName? name = some form) :
    form.keyword = name := by
  unfold ofName? at h
  split at h <;> cases h <;> rfl

/-- The form comes from the type, or from the other members where there is none. -/
theorem Form.at?_eq_ok {form : Form} (h : Form.at? location members = .ok form) :
    (members.get? "type" = none ∧ form = suggested members) ∨
      ∃ name, members.get? "type" = some (.string name) ∧ ofName? name = some form := by
  unfold Form.at? at h
  split at h
  · next htype => exact .inl ⟨htype, (Except.ok.inj h).symm⟩
  · next name htype =>
    split at h
    · next hform =>
      obtain rfl := Except.ok.inj h
      exact .inr ⟨name, htype, hform⟩
    · cases h
  · cases h

/-- A schema has the kind that its members tell. -/
theorem Form.keyword_of_at? {form : Form} (h : Form.at? location members = .ok form) :
    kind? members = some form.keyword := by
  unfold kind?
  rcases at?_eq_ok h with ⟨htype, rfl⟩ | ⟨name, htype, hform⟩
  · rw [htype, suggested]
    dsimp only
    split
    · rfl
    · split <;> rfl
  · rw [htype]
    exact congrArg some (keyword_of_ofName? hform).symm

/-- A plain shape has no children to declare. -/
theorem Form.hasChildren_of_plain {answers : String → NodeId → Prop} {shape : Shape}
    (h : Form.at? location members = .ok (.plain shape)) :
    HasChildren answers location members shape := by
  rcases at?_eq_ok h with ⟨-, hsuggested⟩ | ⟨name, -, hform⟩
  · unfold suggested at hsuggested
    split at hsuggested
    · cases hsuggested
    · split at hsuggested <;> cases hsuggested
      trivial
  · unfold ofName? at hform
    split at hform <;> cases hform <;> trivial

/-- A child under a key is there if the key is and its value is wanted. -/
theorem rel_locationUnder {answers : String → NodeId → Prop} {key : String} {wanted : Json → Bool}
    (h : List.Forall₂ answers (locationUnder location key wanted members).toList ids) :
    Option.Rel (fun _ id => answers (child location key) id)
      ((members.get? key).filter wanted) ids.head? := by
  unfold locationUnder at h
  rcases hvalue : members.get? key with _ | value
  · rw [hvalue] at h
    cases h
    exact .none
  · rw [hvalue] at h
    by_cases hwanted : wanted value = true
    · simp only [hwanted, if_true, Option.toList_some] at h
      rw [Option.filter_some_pos hwanted]
      cases h with
      | cons hid _ => exact .some hid
    · simp only [hwanted] at h
      rw [Option.filter_some_neg (by simpa using hwanted)]
      cases h
      exact .none

/-- The declared properties are those of the keys, in order. -/
theorem outlineProperties_eq_ok {properties : List (String × String)}
    (h : outlineProperties location (members.get? "properties") = .ok properties) :
    properties =
      (propertyKeys members).map fun key => (key, child (child location "properties") key) := by
  unfold outlineProperties at h
  unfold propertyKeys
  split at h
  · next hnone =>
    rw [hnone]
    exact (Except.ok.inj h).symm
  · next inner hinner =>
    rw [hinner, ← Except.ok.inj h]
    simp [Members.keys]
  · cases h

/-- The first ids are those of the properties, and the others are left. -/
theorem forall₂_properties {answers : String → NodeId → Prop} {keys : List String}
    {place : String → String} {rest : List String}
    (h : List.Forall₂ answers (keys.map place ++ rest) ids) :
    List.Forall₂
        (fun key (property : Property) =>
          property.name = key ∧ answers (place key) property.schema)
        keys
        (List.zipWith (fun (key, _) id => ⟨key, id⟩) (keys.map fun key => (key, place key)) ids) ∧
    List.Forall₂ answers rest (ids.drop keys.length) := by
  induction keys generalizing ids with
  | nil => exact ⟨.nil, h⟩
  | cons key keys ih =>
    cases h with
    | cons hid hids =>
      obtain ⟨hproperties, hrest⟩ := ih hids
      exact ⟨.cons ⟨rfl, hid⟩ hproperties, hrest⟩

/-- The shape that comes of the outline of an object has the kind and the children that
the object declares. -/
theorem shape_of_outline {answers : String → NodeId → Prop} {outlined : Outline}
    (h : outline location members = .ok outlined)
    (hids : List.Forall₂ answers outlined.children ids) :
    kind? members = some (outlined.shape ids).keyword ∧
      HasChildren answers location members (outlined.shape ids) := by
  obtain ⟨form, hform, h⟩ := bind_eq_ok h
  rw [Form.keyword_of_at? hform]
  cases form with
  | plain shape =>
    obtain rfl := Except.ok.inj h
    exact ⟨rfl, Form.hasChildren_of_plain hform⟩
  | array =>
    obtain rfl := Except.ok.inj h
    have hitems := rel_locationUnder hids
    have hall (value? : Option Json) : value?.filter (fun _ => true) = value? := by
      cases value? <;> rfl
    rw [hall] at hitems
    exact ⟨rfl, hitems⟩
  | object =>
    obtain ⟨properties, hproperties, h⟩ := bind_eq_ok h
    obtain rfl := Except.ok.inj h
    obtain rfl := outlineProperties_eq_ok hproperties
    simp only [Outline.children, List.map_map] at hids
    obtain ⟨hdeclared, hadditional⟩ := forall₂_properties hids
    refine ⟨rfl, hdeclared, ?_⟩
    have hrel := rel_locationUnder hadditional
    simpa using hrel

/-! ## Names by place -/

/-- A location has a name at the top level exactly if it is one token below the schemas;
the name is what the token stands for. -/
theorem nameAtTop?_eq_some_iff {name : String} :
    nameAtTop? location = some name ↔
      ∃ token : String, '/' ∉ token.toList ∧ location = schemasLocation ++ "/" ++ token ∧
        unescape token = name := by
  have hsplit (rest : List Char) :
      schemasLocation.toList.isPrefixOf? location.toList = some rest ↔
        location.toList = schemasLocation.toList ++ rest := by
    rw [List.isPrefixOf?_eq_some_iff_append_eq, eq_comm]
  unfold nameAtTop?
  constructor
  · intro h
    split at h
    · next token hrest =>
      rw [hsplit] at hrest
      split at h
      · cases h
      · next hslash =>
        refine ⟨String.ofList token, by simpa using hslash, ?_, Option.some.inj h⟩
        rw [← String.toList_inj, hrest]
        simp
    · cases h
  · rintro ⟨token, hslash, rfl, rfl⟩
    have hrest := (hsplit ('/' :: token.toList)).mpr (by simp)
    rw [hrest]
    simp [hslash]

theorem ownName?_of_token {token : String} (hslash : '/' ∉ token.toList)
    (hplace : location = schemasLocation ++ "/" ++ token) :
    ownName? location members = some (unescape token) := by
  have hname := nameAtTop?_eq_some_iff.mpr ⟨token, hslash, hplace, rfl⟩
  rw [ownName?, hname]

theorem textUnder_eq_some_iff {key text : String} :
    textUnder key members = some text ↔ members.get? key = some (.string text) := by
  rw [textUnder, Option.bind_eq_some_iff]
  constructor
  · rintro ⟨value, hget, hstring⟩
    rw [hget, Json.eq_string_of_string? hstring]
  · exact fun hget => ⟨_, hget, rfl⟩

theorem ownName?_of_noToken
    (h : ∀ token : String, '/' ∉ token.toList → location ≠ schemasLocation ++ "/" ++ token)
    (name : String) :
    ownName? location members = some name ↔ members.get? "id" = some (.string name) := by
  rw [← textUnder_eq_some_iff]
  rcases hname : nameAtTop? location with _ | name
  · rw [ownName?, hname]
  · obtain ⟨token, hslash, hplace, -⟩ := nameAtTop?_eq_some_iff.mp hname
    exact absurd hplace (h token hslash)

/-! ## The graph -/

/-- The id is that of the schema whose place is where the references from the location
end. -/
def Answers (root : Json) (place : Schema arena → String) (location : String) (id : NodeId) :
    Prop :=
  ∃ schema : Schema arena, schema.id = id ∧ LeadsTo root location (place schema)

/-- The node of a schema says what the object at its place says. -/
structure Mirrors (root : Json) (place : Schema arena → String) (schema : Schema arena)
    (members : Members) : Prop where
  /-- the object is at its place -/
  object : resolve? root (place schema) = some (.object members)
  /-- the object holds no reference -/
  noReference : members.get? "$ref" = none
  /-- one token below the schemas, its name is what the token stands for -/
  nameByPlace : ∀ token : String, '/' ∉ token.toList →
    place schema = schemasLocation ++ "/" ++ token → schema.name = some (unescape token)
  /-- anywhere else, its name is the text under `id`, if there is one -/
  ownName : (∀ token : String, '/' ∉ token.toList →
      place schema ≠ schemasLocation ++ "/" ++ token) →
    ∀ name, schema.name = some name ↔ members.get? "id" = some (.string name)
  /-- its description is the text under `description`, if there is one -/
  description : ∀ text, schema.description = some text ↔
    members.get? "description" = some (.string text)
  /-- its kind is what the object tells -/
  kind : kind? members = some schema.shape.keyword
  /-- its children are what the references at their places lead to -/
  children : HasChildren (Answers root place) (place schema) members schema.shape

/-- A known schema of its own mirrors its place, if known ids answer to theirs. -/
theorem New.mirrors {place : Schema after.arena → String} {schema : Schema after.arena}
    (h : New root progress after (place schema)) {draft : Draft}
    (hown : finding? root (place schema) = some (.own draft))
    (hid : after.id? (place schema) = some schema.id)
    (hanswers : ∀ {location id}, after.id? location = some id → Answers root place location id) :
    ∃ members, Mirrors root place schema members := by
  cases h with
  | link hlink => cases hlink.symm.trans hown
  | @own _ _ ids hfind hid' _ hchildren hnode =>
    obtain rfl := Option.some.inj (hid'.symm.trans hid)
    have hnode : schema.node = Draft.node _ ids :=
      Option.some.inj (schema.node?_id.symm.trans hnode)
    cases found_of_finding? hfind with
    | @own members outlined hresolve href houtline =>
      have hids : List.Forall₂ (Answers root place) outlined.children ids :=
        hchildren.imp fun _ _ => hanswers
      obtain ⟨hkind, hdeclared⟩ := shape_of_outline houtline hids
      have hname : schema.name = ownName? (place schema) members := congrArg Node.name hnode
      have hdescription : schema.description = textUnder "description" members :=
        congrArg Node.description hnode
      have hshape : schema.shape = outlined.shape ids := congrArg Node.shape hnode
      exact ⟨members, {
        object := hresolve
        noReference := href
        nameByPlace := fun token hslash hplace =>
          hname.trans (ownName?_of_token hslash hplace)
        ownName := fun hnone name => hname ▸ ownName?_of_noToken hnone name
        description := fun text => hdescription ▸ textUnder_eq_some_iff
        kind := hshape ▸ hkind
        children := hshape ▸ hdeclared }⟩

/-- Loading leaves behind the graph of the document. -/
theorem Loads.graph (h : Loads root [] {} (topLocations root) ids after) :
    ∃ place : Schema after.arena → String, Function.Injective place ∧
      (∀ schema, ∃ members, Mirrors root place schema members) ∧
      (∀ location, (∃ schema, place schema = location) ↔
        Reachable root location ∧ HoldsSchema root location) ∧
      ∀ {location id}, after.id? location = some id → Answers root place location id := by
  have hrooted := h.rooted (.empty root)
  have hdistinct := h.distinct (.empty root)
  choose place draft hown hid using fun schema : Schema after.arena => hrooted.owned schema.inside
  have hplace (schema : Schema after.arena) {other : String} {draft' : Draft}
      (hown' : finding? root other = some (.own draft'))
      (hother : after.id? other = some schema.id) : place schema = other :=
    hdistinct.injective (hown schema) hown' (hid schema) hother
  have hanswers {location : String} {id : NodeId} (hknown : after.id? location = some id) :
      Answers root place location id := by
    obtain ⟨other, draft', hpath, hown', hother⟩ := hrooted.grounded hknown
    refine ⟨⟨id, hdistinct.within hown' hother⟩, rfl, ?_⟩
    rw [hplace ⟨id, hdistinct.within hown' hother⟩ hown' hother]
    exact ⟨hpath, holdsSchema_of_own hown'⟩
  refine ⟨place, fun one other heq => ?_, fun schema => ?_, fun location => ⟨?_, ?_⟩, hanswers⟩
  · have hone := hid one
    rw [heq] at hone
    exact Schema.ext (Option.some.inj (hone.symm.trans (hid other)))
  · exact (h.new rfl (hid schema)).mirrors (hown schema) (hid schema) hanswers
  · rintro ⟨schema, rfl⟩
    exact ⟨h.known_iff.mp ⟨_, hid schema⟩, holdsSchema_of_own (hown schema)⟩
  · rintro ⟨hreach, hholds⟩
    cases h.complete hreach with
    | link hlink => exact absurd hholds (holdsReference_of_link hlink).not_holdsSchema
    | own hown' hknown hbounds _ _ =>
      exact ⟨⟨_, hbounds.2⟩, hplace ⟨_, hbounds.2⟩ hown' hknown⟩

/-- The ids at the top level answer to the locations there. -/
theorem Loads.top (h : Loads root [] {} (topLocations root) ids after)
    {place : Schema after.arena → String}
    (hanswers : ∀ {location id}, after.id? location = some id → Answers root place location id) :
    List.Forall₂
      (fun name (entry : String × NodeId) => entry.1 = name ∧
        Answers root place (child schemasLocation name) entry.2)
      (topNames root) (List.zip (topNames root) ids) := by
  have hgiven := List.forall₂_map_left_iff.mp h.given
  clear h
  generalize topNames root = names at hgiven ⊢
  induction hgiven with
  | nil => exact .nil
  | cons hid _ ih => exact .cons ⟨rfl, hanswers hid⟩ ih

/-! ## Names from the top level -/

/-- Whatever has its name from the top level is the value under this name there. -/
theorem resolve?_of_nameAtTop? {name : String} {value : Json} (hreach : Reachable root location)
    (hvalue : resolve? root location = some value) (hname : nameAtTop? location = some name) :
    name ∈ topNames root ∧ resolve? root (child schemasLocation name) = some value := by
  obtain ⟨token, hslash, rfl, rfl⟩ := nameAtTop?_eq_some_iff.mp hname
  obtain ⟨first, hfirst, -⟩ := hreach
  rw [topLocations, topNames] at hfirst
  split at hfirst
  · next tops hschemas =>
    have hobject := resolve?_schemasLocation hschemas
    have hget : Members.get? tops (unescape token) = some value :=
      (Json.Pointer.resolve?_append hslash hobject).symm.trans hvalue
    refine ⟨?_, (Json.Pointer.resolve?_child _ hobject).trans hget⟩
    rw [topNames, hschemas]
    obtain ⟨entry, hfind, -⟩ := Option.map_eq_some_iff.mp hget
    have hkey : entry.1 = unescape token := by simpa using List.find?_some hfind
    exact List.mem_map.mpr ⟨entry, List.mem_of_find?_eq_some hfind, hkey⟩
  · exact absurd hfirst List.not_mem_nil

/-- A schema that has its name from the top level has the name and the kind of the schema
that is known there. -/
theorem Mirrors.like_top {place : Schema arena → String} {schema top : Schema arena}
    {others : Members} {name : String} (h : Mirrors root place schema members)
    (htop : Mirrors root place top others) (hreach : Reachable root (place schema))
    (hname : nameAtTop? (place schema) = some name)
    (hleads : LeadsTo root (child schemasLocation name) (place top)) :
    top.name = schema.name ∧ top.shape.keyword = schema.shape.keyword := by
  obtain ⟨-, hresolve⟩ := resolve?_of_nameAtTop? hreach h.object hname
  -- no reference leads away from the location under the name
  have hplace : place top = child schemasLocation name :=
    hleads.unique ⟨.refl, members, hresolve, h.noReference⟩
  have hmembers : some (Json.object others) = some (Json.object members) :=
    htop.object.symm.trans (hplace ▸ hresolve)
  obtain rfl : others = members := by simpa using hmembers
  obtain ⟨token, hslash, hlocation, hunescaped⟩ := nameAtTop?_eq_some_iff.mp hname
  refine ⟨?_, ?_⟩
  · rw [h.nameByPlace token hslash hlocation, hunescaped,
      htop.nameByPlace _ (Json.Pointer.slash_notMem_escape name) hplace,
      Json.Pointer.unescape_escape]
  · exact Option.some.inj (htop.kind.symm.trans h.kind)

/-- **The arena is the graph of the document.** For a document that loads there is a
place for every schema of its arena, a different one for each, namely all pointers to
objects without a reference that can be reached. The node of a schema mirrors the object
at its place, its children being the schemas at whose places the references from the
places of the children end. The schemas at the top level are those under the keys of the
document, in order, with ids in the same sense. -/
theorem arena_is_reference_graph {text : String} {doc : Document}
    (hread : Json.read text = .ok root) (hload : Document.load text = .ok doc) :
    ∃ place : Schema doc.arena → String, Function.Injective place ∧
      (∀ schema, ∃ members, Mirrors root place schema members) ∧
      (∀ location, (∃ schema, place schema = location) ↔
        Reachable root location ∧ HoldsSchema root location) ∧
      List.Forall₂
        (fun name (entry : String × NodeId) => entry.1 = name ∧
          Answers root place (child schemasLocation name) entry.2)
        (topNames root) doc.schemas := by
  obtain ⟨ids, memory, -, harena, hnamed, h⟩ := loads_of_load hread hload
  obtain ⟨place, hinjective, hmirrors, hplaces, hanswers⟩ := h.graph
  rw [harena, hnamed]
  exact ⟨place, hinjective, hmirrors, hplaces, h.top hanswers⟩

theorem load_insideItself : ∃ doc, Document.load insideItself = .ok doc ∧
    doc.schemas = [("A", ⟨0⟩)] ∧ doc.arena.nodes.toList =
      [⟨some "A", none, .object [⟨"all", ⟨1⟩⟩] none⟩, ⟨none, none, .array (some ⟨0⟩)⟩] := by
  rw [Document.load, read_insideItself]
  obtain ⟨doc, hload, hshown⟩ : ∃ doc, document insideItselfRoot = .ok doc ∧
      (doc.schemas, doc.arena.nodes.toList) = ([("A", ⟨0⟩)],
        [⟨some "A", none, .object [⟨"all", ⟨1⟩⟩] none⟩, ⟨none, none, .array (some ⟨0⟩)⟩]) :=
    exists_of_toOption (by decide)
  obtain ⟨hnamed, hnodes⟩ := Prod.mk.inj hshown
  exact ⟨doc, hload, hnamed, hnodes⟩

/-- The whole document is one of the two schemas of a document that refers to itself: it
is found at the empty pointer. -/
theorem inside_itself_place : ∃ doc, ∃ place : Schema doc.arena → String,
    Json.read insideItself = .ok insideItselfRoot ∧ Document.load insideItself = .ok doc ∧
    doc.schemas = [("A", ⟨0⟩)] ∧ doc.arena.nodes.toList =
      [⟨some "A", none, .object [⟨"all", ⟨1⟩⟩] none⟩, ⟨none, none, .array (some ⟨0⟩)⟩] ∧
    Function.Injective place ∧
    (∀ schema, ∃ members, Mirrors insideItselfRoot place schema members) ∧
    ∃ schema, place schema = "" := by
  obtain ⟨doc, hload, hnamed, hnodes⟩ := load_insideItself
  obtain ⟨place, hinjective, hmirrors, hplaces, -⟩ :=
    arena_is_reference_graph read_insideItself hload
  refine ⟨doc, place, read_insideItself, hload, hnamed, hnodes, hinjective, hmirrors, ?_⟩
  refine (hplaces "").mpr ⟨⟨"/schemas/A", by decide +kernel, ?_⟩, ?_⟩
  · have hall : "/schemas/A/properties/all" ∈ next insideItselfRoot "/schemas/A" := by
      decide +kernel
    have hwhole : "" ∈ next insideItselfRoot "/schemas/A/properties/all" := by decide +kernel
    exact .tail (.single hall) hwhole
  · exact ⟨_, rfl, by decide +kernel⟩

end ApiClasses.Loading
