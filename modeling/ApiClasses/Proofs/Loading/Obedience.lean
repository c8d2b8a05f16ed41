import ApiClasses.Proofs.Loading.Rules

/-!
# The loader obeys the rules

What the loader gives is what the rules say (`schemas_follows`). It goes down a value
by recursion on the value, and every child it comes to is what its own location
leads to, because no key of an object comes twice.

The loader counts jumps, and the count never decides anything: with as many open
jumps as there are pointers into the document, the next reference is one that is
being followed already (`reference_obeys`).
-/

namespace ApiClasses.Loading

open Json (Members)
open Json.Pointer (child resolve?)

variable {root : Json} {following : List String} {progress : Progress}
  {locations later : List String} {error : LoadError}

/-! ## Steps that do what the rules say -/

/-- A step of the loader does what the rules say about some locations; its result
has to do with their ids. -/
def Does {α : Type} (root : Json) (following locations : List String)
    (R : α → List NodeId → Prop) (step : Load α) : Prop :=
  ∀ progress,
    (∃ a ids after, step progress = .ok (a, after) ∧
      Loads root following progress locations ids after ∧ R a ids) ∨
    ∃ error, step progress = .error error ∧ Refuses root following progress locations error

section Does

variable {α β : Type} {R : α → List NodeId → Prop} {S : β → List NodeId → Prop}

theorem does_pure {a : α} (h : R a []) : Does root following [] R (pure a) :=
  fun progress => .inl ⟨a, [], progress, rfl, .nil, h⟩

theorem Does.bind {m : Load α} {f : α → Load β} (hm : Does root following locations R m)
    (hf : ∀ a ids, R a ids → Does root following later (fun b more => S b (ids ++ more)) (f a)) :
    Does root following (locations ++ later) S (m >>= f) := by
  intro progress
  rcases hm progress with ⟨a, ids, middle, hrun, hloads, hR⟩ | ⟨error, hrun, hrefuses⟩
  · have hbind : (m >>= f) progress = f a middle := by
      simp [Bind.bind, StateT.bind, Except.bind, hrun]
    rw [hbind]
    rcases hf a ids hR middle with ⟨b, more, after, hrun', hmore, hS⟩ | ⟨error, hrun', hmore⟩
    · exact .inl ⟨b, ids ++ more, after, hrun', hloads.append hmore, hS⟩
    · exact .inr ⟨error, hrun', hloads.append_refuses hmore⟩
  · refine .inr ⟨error, ?_, hrefuses.append⟩
    simp [Bind.bind, StateT.bind, Except.bind, hrun]

/-- What is made of the result is no step of its own. -/
theorem Does.map {m : Load α} {f : α → β} (hm : Does root following locations R m)
    (hf : ∀ a ids, R a ids → S (f a) ids) : Does root following locations S (f <$> m) := by
  have h : Does root following (locations ++ []) S (m >>= fun a => pure (f a)) :=
    hm.bind fun a ids hR => does_pure (by simpa using hf a ids hR)
  rwa [List.append_nil, bind_pure_comp] at h

end Does

variable {follow : Follow} {location key : String} {members : Members} {wanted : Json → Bool}

theorem childUnder_does
    (h : ∀ value, members.get? key = some value → wanted value = true →
      Does root following [child location key] (fun id ids => ids = [id])
        (schema follow (child location key) value)) :
    Does root following (locationUnder location key wanted members).toList
      (fun id? ids => ids = id?.toList) (childUnder follow location key wanted members) := by
  induction members with
  | nil => exact does_pure rfl
  | cons entry rest ih =>
    obtain ⟨k, value⟩ := entry
    rw [childUnder]
    by_cases hk : k = key
    · have hget : Members.get? ((k, value) :: rest) key = some value := by simp [Members.get?, hk]
      rw [if_pos (beq_iff_eq.mpr hk), locationUnder, hget]
      by_cases hwanted : wanted value = true
      · simp only [if_pos hwanted, Option.toList_some]
        simp only [bind_pure_comp]
        exact (h value hget hwanted).map fun id ids hids => hids
      · simp only [if_neg hwanted]
        exact does_pure rfl
    · have hget : Members.get? ((k, value) :: rest) key = Members.get? rest key := by
        simp [Members.get?, hk]
      rw [if_neg (by simpa using hk), locationUnder, hget]
      exact ih fun value hvalue => h value (hget.trans hvalue)

theorem eachProperty_does
    (h : ∀ name value, (name, value) ∈ members →
      Does root following [child location name] (fun id ids => ids = [id])
        (schema follow (child location name) value)) :
    Does root following (members.map fun (name, _) => child location name)
      (fun properties ids =>
        properties = List.zipWith Property.mk members.keys ids ∧ ids.length = members.length)
      (eachProperty follow location members) := by
  induction members with
  | nil => exact does_pure ⟨rfl, rfl⟩
  | cons entry rest ih =>
    obtain ⟨name, value⟩ := entry
    rw [eachProperty]
    refine (h name value List.mem_cons_self).bind fun id ids hids => ?_
    simp only [bind_pure_comp]
    refine (ih fun name value hmem => h name value (List.mem_cons_of_mem _ hmem)).map ?_
    rintro properties more ⟨rfl, hlength⟩
    subst hids
    exact ⟨rfl, by simp [hlength]⟩

/-- A step that gives up, whatever is known. -/
def Fails {α : Type} (error : LoadError) (step : Load α) : Prop :=
  ∀ progress, step progress = .error error

theorem Fails.bind {α β : Type} {m : Load α} {f : α → Load β} (h : Fails error m) :
    Fails error (m >>= f) := by
  intro progress
  simp [Bind.bind, StateT.bind, Except.bind, h progress]

theorem declared_does
    (h : ∀ inner name value, members.get? "properties" = some (.object inner) →
      (name, value) ∈ inner → Does root following [child (child location "properties") name]
        (fun id ids => ids = [id])
        (schema follow (child (child location "properties") name) value)) :
    match outlineProperties location (members.get? "properties") with
    | .ok properties => Does root following (properties.map (·.2))
        (fun declared ids =>
          declared = List.zipWith (fun property id => ⟨property.1, id⟩) properties ids ∧
            ids.length = properties.length)
        (declared follow location members)
    | .error error => Fails error (declared follow location members) := by
  induction members with
  | nil => exact does_pure ⟨rfl, rfl⟩
  | cons entry rest ih =>
    obtain ⟨k, value⟩ := entry
    rw [declared.eq_def]
    dsimp only
    by_cases hk : k = "properties"
    · have hget : Members.get? ((k, value) :: rest) "properties" = some value := by
        simp [Members.get?, hk]
      rw [if_pos (beq_iff_eq.mpr hk), hget]
      cases value with
      | object inner =>
        have heach := eachProperty_does fun name value hmem => h inner name value hget hmem
        simpa [outlineProperties, Members.keys, List.zipWith_map_left, Function.comp_def]
          using heach
      | null | bool _ | number _ | string _ | array _ => exact fun _ => rfl
    · have hget :
          Members.get? ((k, value) :: rest) "properties" = Members.get? rest "properties" := by
        simp [Members.get?, hk]
      rw [if_neg (by simpa using hk), hget]
      exact ih fun inner name value hinner => h inner name value (hget.trans hinner)

/-- The shape of an object, its children loaded. -/
def objectShape (follow : Follow) (location : String) (members : Members) : Load Shape := do
  let properties ← declared follow location members
  let additional ← childUnder follow location "additionalProperties" (·.members?.isSome) members
  pure (.object properties additional)

/-- The shape of a schema of its own, its children loaded. -/
def ownShape (follow : Follow) (location : String) (members : Members) : Load Shape := do
  match ← Form.at? location members with
  | .plain shape => pure shape
  | .array => Shape.array <$> childUnder follow location "items" (fun _ => true) members
  | .object => objectShape follow location members

section ownShape

variable
  (hchild : ∀ key value, members.get? key = some value →
    Does root following [child location key] (fun id ids => ids = [id])
      (schema follow (child location key) value))
  (hproperty : ∀ inner name value, members.get? "properties" = some (.object inner) →
    (name, value) ∈ inner → Does root following [child (child location "properties") name]
      (fun id ids => ids = [id]) (schema follow (child (child location "properties") name) value))

include hchild hproperty

theorem objectShape_does :
    match outlineProperties location (members.get? "properties") with
    | .ok properties =>
      let outline := Outline.object properties
        (locationUnder location "additionalProperties" (·.members?.isSome) members)
      Does root following outline.children (fun shape ids => shape = outline.shape ids)
        (objectShape follow location members)
    | .error error => Fails error (objectShape follow location members) := by
  have hdeclared := declared_does hproperty
  rcases houtline : outlineProperties location (members.get? "properties") with error | properties
  · rw [houtline] at hdeclared
    exact Fails.bind hdeclared
  · rw [houtline] at hdeclared
    refine hdeclared.bind fun known ids hknown => ?_
    obtain ⟨rfl, hlength⟩ := hknown
    simp only [bind_pure_comp]
    refine Does.map (childUnder_does fun value hvalue _ => hchild _ value hvalue) ?_
    rintro id? more rfl
    have hdrop : (ids ++ id?.toList).drop properties.length = id?.toList := by
      rw [← hlength, List.drop_left]
    have hzip : List.zipWith (fun property id => (⟨property.1, id⟩ : Property)) properties
        (ids ++ id?.toList) =
          List.zipWith (fun property id => ⟨property.1, id⟩) properties ids := by
      rw [← List.append_nil properties, List.zipWith_append hlength.symm]
      simp
    rw [Outline.shape, hdrop, hzip]
    cases id? <;> rfl

theorem ownShape_does :
    match outline location members with
    | .ok outline => Does root following outline.children
        (fun shape ids => shape = outline.shape ids) (ownShape follow location members)
    | .error error => Fails error (ownShape follow location members) := by
  rw [outline, ownShape]
  rcases Form.at? location members with error | form
  · exact fun _ => rfl
  · cases form with
    | plain shape => exact does_pure rfl
    | array =>
      refine Does.map (childUnder_does fun value hvalue _ => hchild "items" value hvalue) ?_
      rintro id? ids rfl
      cases id? <;> rfl
    | object =>
      have hobject := objectShape_does hchild hproperty
      rcases houtline : outlineProperties location (members.get? "properties")
        with error | properties
      · rw [houtline] at hobject
        exact hobject
      · rw [houtline] at hobject
        exact hobject

end ownShape

/-- A way to follow references that does what the rules say about the location the
reference stands at; to note the id is left to the caller. -/
def Obeys (root : Json) (following : List String) (follow : Follow) : Prop :=
  ∀ location members reference progress,
    resolve? root location = some (.object members) →
    Members.get? members "$ref" = some (.string reference) →
    progress.id? location = none →
    (∃ id after, follow location reference progress = .ok (id, after) ∧
      Loads root following progress [location] [id] (after.note location id)) ∨
    ∃ error, follow location reference progress = .error error ∧
      Refuses root following progress [location] error

theorem bind_apply {α β : Type} (m : Load α) (f : α → Load β) (progress : Progress) :
    (m >>= f) progress = (m progress).bind fun (a, after) => f a after := rfl

theorem get_bind_apply {α : Type} (f : Progress → Load α) (progress : Progress) :
    (get >>= f) progress = f progress progress := rfl

theorem schema_of_known {value : Json} {id : NodeId} (h : progress.id? location = some id) :
    schema follow location value progress = .ok (id, progress) := by
  cases value with
  | object members =>
    rw [schema, get_bind_apply, h]
    rfl
  | null | bool _ | number _ | string _ | array _ =>
    rw [schema, get_bind_apply, h]
    · rfl
    · exact nofun

theorem schema_of_other {value : Json} (hnew : progress.id? location = none)
    (h : value.members? = none) :
    schema follow location value progress =
      .error (.invalidValue location "schema" value.typeName) := by
  cases value with
  | object members => cases h
  | null | bool _ | number _ | string _ | array _ =>
    rw [schema, get_bind_apply, hnew]
    · rfl
    · exact nofun

/-- The id of a reference is noted once it has been followed. -/
theorem schema_of_reference {reference : String} (hnew : progress.id? location = none)
    (h : members.get? "$ref" = some (.string reference)) :
    schema follow location (.object members) progress =
      (follow location reference progress).map fun (id, after) => (id, after.note location id) := by
  rw [schema, get_bind_apply, hnew, h]
  dsimp only
  rw [bind_apply]
  rcases follow location reference progress with error | ⟨id, after⟩
  · rfl
  · rfl

theorem schema_of_misfit {other : Json} (hnew : progress.id? location = none)
    (h : members.get? "$ref" = some other) (hother : other.string? = none) :
    schema follow location (.object members) progress =
      .error (.invalidValue location "$ref" other.compact) := by
  rw [schema, get_bind_apply, hnew, h]
  cases other with
  | string text => cases hother
  | object members | null | bool _ | number _ | array _ => rfl

/-- The node of a schema of its own is filled in once its children are loaded. -/
theorem schema_of_own (hnew : progress.id? location = none) (h : members.get? "$ref" = none) :
    schema follow location (.object members) progress =
      (ownShape follow location members (progress.reserve location)).map fun (shape, after) =>
        (progress.fresh, after.fill progress.fresh
          ⟨ownName? location members, textUnder "description" members, shape⟩) := by
  have hown : schema follow location (.object members) progress =
      (ownShape follow location members >>= fun shape => do
        fill progress.fresh ⟨ownName? location members, textUnder "description" members, shape⟩
        return progress.fresh) (progress.reserve location) := by
    rw [schema, get_bind_apply, hnew, h]
    dsimp only
    have hreserve : reserve location progress = .ok (progress.fresh, progress.reserve location) :=
      rfl
    rw [bind_apply, hreserve, ownShape, bind_assoc, Except.bind]
    dsimp only
    refine congrFun ?_ (progress.reserve location)
    refine bind_congr fun form => ?_
    cases form with
    | plain shape => simp only [pure_bind]
    | array => rfl
    | object => simp only [objectShape, bind_assoc, pure_bind]
  rw [hown, bind_apply]
  rcases ownShape follow location members (progress.reserve location) with error | ⟨shape, after⟩
  · rfl
  · rfl

/-- A schema of its own is loaded by the rules, if its children are. -/
theorem own_does
    (hresolve : resolve? root location = some (.object members))
    (href : members.get? "$ref" = none)
    (hshape : match outline location members with
      | .ok outline => Does root following outline.children
          (fun shape ids => shape = outline.shape ids) (ownShape follow location members)
      | .error error => Fails error (ownShape follow location members))
    (hnew : progress.id? location = none) :
    (∃ id after, schema follow location (.object members) progress = .ok (id, after) ∧
      Loads root following progress [location] [id] after) ∨
    ∃ error, schema follow location (.object members) progress = .error error ∧
      Refuses root following progress [location] error := by
  have hfind := finding?_own hresolve href
  rw [schema_of_own hnew href]
  rcases houtline : outline location members with error | outline
  · rw [houtline] at hshape hfind
    have hfails : Fails error (ownShape follow location members) := hshape
    exact .inr ⟨error, by rw [hfails]; rfl, .fault hnew hfind⟩
  · rw [houtline] at hshape hfind
    have hdoes : Does root following outline.children (fun shape ids => shape = outline.shape ids)
      (ownShape follow location members) := hshape
    rcases hdoes (progress.reserve location) with
      ⟨shape, ids, middle, hrun, hloads, rfl⟩ | ⟨error, hrun, hrefuses⟩
    · rw [hrun]
      exact .inl ⟨_, _, rfl, .own hnew hfind hloads .nil⟩
    · rw [hrun]
      exact .inr ⟨error, rfl, .own hnew hfind hrefuses⟩

/-- An object with a reference is loaded by the rules, if references are followed by
the rules. -/
theorem referred_does (hfollow : Obeys root following follow) {referred : Json}
    (hresolve : resolve? root location = some (.object members))
    (href : members.get? "$ref" = some referred) (hnew : progress.id? location = none) :
    (∃ id after, schema follow location (.object members) progress = .ok (id, after) ∧
      Loads root following progress [location] [id] after) ∨
    ∃ error, schema follow location (.object members) progress = .error error ∧
      Refuses root following progress [location] error := by
  rcases hstring : referred.string? with _ | reference
  · exact .inr ⟨_, schema_of_misfit hnew href hstring,
      .fault hnew (finding?_misfit hresolve href hstring)⟩
  · obtain rfl := Json.eq_string_of_string? hstring
    rw [schema_of_reference hnew href]
    rcases hfollow location members reference progress hresolve href hnew with
      ⟨id, after, hrun, hloads⟩ | ⟨error, hrun, hrefuses⟩
    · rw [hrun]
      exact .inl ⟨id, _, rfl, hloads⟩
    · rw [hrun]
      exact .inr ⟨error, rfl, hrefuses⟩

/-- A schema is loaded by the rules, if references are followed by the rules. -/
theorem schema_does (hunique : root.UniqueKeys) (hfollow : Obeys root following follow)
    {value : Json} {location : String} (hresolve : resolve? root location = some value) :
    Does root following [location] (fun id ids => ids = [id]) (schema follow location value) := by
  intro progress
  rcases hnew : progress.id? location with _ | id
  · match value with
    | .null | .bool _ | .number _ | .string _ | .array _ =>
      exact .inr ⟨_, schema_of_other hnew rfl, .fault hnew (finding?_other hresolve rfl)⟩
    | .object members =>
      have hobject :
          (∃ id after, schema follow location (.object members) progress = .ok (id, after) ∧
            Loads root following progress [location] [id] after) ∨
          ∃ error, schema follow location (.object members) progress = .error error ∧
            Refuses root following progress [location] error := by
        rcases href : Members.get? members "$ref" with _ | referred
        · -- each child stands where its own location leads, so the recursion is on the value
          have hchild (key : String) (value : Json)
              (hvalue : Members.get? members key = some value) :
              Does root following [child location key] (fun id ids => ids = [id])
                (schema follow (child location key) value) :=
            schema_does hunique hfollow ((Json.Pointer.resolve?_child key hresolve).trans hvalue)
          have hproperty (inner : Members) (name : String) (value : Json)
              (hinner : Members.get? members "properties" = some (.object inner))
              (hmem : (name, value) ∈ inner) :
              Does root following [child (child location "properties") name]
                (fun id ids => ids = [id])
                (schema follow (child (child location "properties") name) value) := by
            have hproperties := (Json.Pointer.resolve?_child "properties" hresolve).trans hinner
            have hget := Members.get?_eq_some_of_mem (hunique.nodup hproperties) hmem
            exact schema_does hunique hfollow
              ((Json.Pointer.resolve?_child name hproperties).trans hget)
          exact own_does hresolve href (ownShape_does hchild hproperty) hnew
        · exact referred_does hfollow hresolve href hnew
      rcases hobject with ⟨id, after, hrun, hloads⟩ | hfails
      · exact .inl ⟨id, [id], after, hrun, hloads, rfl⟩
      · exact .inr hfails
  · exact .inl ⟨id, [id], progress, schema_of_known hnew, .known hnew .nil, rfl⟩
termination_by sizeOf value
decreasing_by
  · exact Members.sizeOf_lt (Members.mem_of_get? hvalue)
  · exact Nat.lt_trans (Members.sizeOf_lt hmem) (Members.sizeOf_lt (Members.mem_of_get? hinner))

/-! ## Jumps -/

/-- References are followed by the rules. The jumps do not run out before a location
comes up twice: different locations that lead somewhere are only so many. -/
theorem reference_obeys (hunique : root.UniqueKeys) {jumps : Nat} {following : List String}
    (hnodup : following.Nodup) (hlead : ∀ location ∈ following, (resolve? root location).isSome)
    (hjumps : Json.Pointer.spellings root ≤ following.length + jumps) :
    Obeys root following (reference root jumps following) := by
  induction jumps generalizing following with
  | zero =>
    intro location members text progress hresolve href hnew
    rw [reference]
    rcases htarget : resolve? root (target text) with _ | value
    · exact .inr ⟨_, rfl, .fault hnew (finding?_unresolved hresolve href htarget)⟩
    · refine .inr ⟨_, rfl, .circle hnew (finding?_link hresolve href htarget) ?_⟩
      -- otherwise one location more would be followed than there are pointers
      by_contra hnot
      have hle := Json.Pointer.length_le_spellings (List.nodup_cons.mpr ⟨hnot, hnodup⟩)
        (List.forall_mem_cons.mpr ⟨by rw [hresolve]; rfl, hlead⟩)
      rw [List.length_cons] at hle
      omega
  | succ jumps ih =>
    intro location members text progress hresolve href hnew
    rw [reference]
    rcases htarget : resolve? root (target text) with _ | value
    · exact .inr ⟨_, rfl, .fault hnew (finding?_unresolved hresolve href htarget)⟩
    · have hfind := finding?_link hresolve href htarget
      by_cases hmem : location ∈ following
      · refine .inr ⟨_, ?_, .circle hnew hfind hmem⟩
        simp only [List.contains_iff_mem.mpr hmem, if_true]
        rfl
      · have hobeys := ih (List.nodup_cons.mpr ⟨hmem, hnodup⟩)
          (List.forall_mem_cons.mpr ⟨by rw [hresolve]; rfl, hlead⟩)
          (by rw [List.length_cons]; omega)
        have hcontains : following.contains location = false := by simpa using hmem
        simp only [hcontains, Bool.false_eq_true, if_false]
        rcases schema_does hunique hobeys htarget progress with
          ⟨id, ids, middle, hrun, hloads, rfl⟩ | ⟨error, hrun, hrefuses⟩
        · exact .inl ⟨id, middle, hrun, .link hnew hfind hmem hloads .nil⟩
        · exact .inr ⟨error, hrun, .link hnew hfind hmem hrefuses⟩

/-- The names of the top-level schemas, in order. -/
def topNames (root : Json) : List String :=
  match root.get? "schemas" with
  | some (.object members) => Members.keys members
  | _ => []

/-- The locations of the top-level schemas, in order. -/
def topLocations (root : Json) : List String :=
  (topNames root).map (child schemasLocation)

/-- Named schemas are loaded by the rules, if each of them is found where its name
says. -/
theorem topLevel_does (hunique : root.UniqueKeys) {members : Members}
    (h : ∀ entry ∈ members, resolve? root (child schemasLocation entry.1) = some entry.2) :
    Does root [] (members.keys.map (child schemasLocation))
      (fun named ids => named = List.zip members.keys ids ∧ ids.length = members.length)
      (topLevel root members) := by
  have hobeys : Obeys root [] (reference root (Json.Pointer.spellings root) []) :=
    reference_obeys hunique List.nodup_nil nofun (Nat.le_add_left ..)
  rw [topLevel]
  induction members with
  | nil => exact does_pure ⟨rfl, rfl⟩
  | cons entry rest ih =>
    obtain ⟨name, value⟩ := entry
    obtain ⟨hfirst, hrest⟩ := List.forall_mem_cons.mp h
    simp only [List.mapM_cons, bind_pure_comp, bind_map_left]
    refine (schema_does hunique hobeys hfirst).bind fun id ids hids => ?_
    refine (ih hrest).map ?_
    rintro named more ⟨rfl, hlength⟩
    subst hids
    exact ⟨rfl, by simp [hlength]⟩

/-- What stands under the key of the schemas, if anything does, is an object. -/
def SchemasFit (root : Json) : Prop :=
  root.get? "schemas" = none ∨ ∃ members, root.get? "schemas" = some (.object members)

/-- Where something else stands there, it is named as the error. -/
theorem schemas_of_unfit (h : ¬ SchemasFit root) :
    ∃ value, root.get? "schemas" = some value ∧ value.members? = none ∧
      schemas root (root.get? "schemas") =
        .error (.invalidValue schemasLocation "schemas" value.typeName) := by
  rcases hvalue : root.get? "schemas" with _ | value
  · exact absurd (.inl hvalue) h
  · cases value with
    | object members => exact absurd (.inr ⟨members, hvalue⟩) h
    | null | bool _ | number _ | string _ | array _ => exact ⟨_, rfl, rfl, rfl⟩

theorem SchemasFit.of_ok {loaded : List (String × NodeId) × Progress}
    (h : schemas root (root.get? "schemas") = .ok loaded) : SchemasFit root := by
  by_contra hunfit
  obtain ⟨value, -, -, herror⟩ := schemas_of_unfit hunfit
  cases herror.symm.trans h

theorem SchemasFit.of_topLocations (h : topLocations root ≠ []) : SchemasFit root := by
  rw [topLocations, topNames] at h
  split at h
  · next members hvalue => exact .inr ⟨members, hvalue⟩
  · exact absurd rfl h

/-- What stands under a key of the document is found one step below the root. -/
theorem resolve?_top {key : String} {value : Json} (h : root.get? key = some value) :
    resolve? root (child "" key) = some value := by
  obtain ⟨outer, houter, hget⟩ := Option.bind_eq_some_iff.mp h
  have hroot : resolve? root "" = some (.object outer) := by
    cases root with
    | object _ => exact congrArg _ (congrArg Json.object (Option.some.inj houter))
    | null | bool _ | number _ | string _ | array _ => cases houter
  exact (Json.Pointer.resolve?_child key hroot).trans hget

/-- The schemas at the top level are found where they should be… -/
theorem resolve?_schemasLocation {value : Json} (h : root.get? "schemas" = some value) :
    resolve? root schemasLocation = some value := by
  have hlocation : child "" "schemas" = schemasLocation := by decide
  rw [← hlocation]
  exact resolve?_top h

/-- …and so are the resources. -/
theorem resolve?_resourcesLocation {value : Json} (h : root.get? "resources" = some value) :
    resolve? root resourcesLocation = some value := by
  have hlocation : child "" "resources" = resourcesLocation := by decide
  rw [← hlocation]
  exact resolve?_top h

/-- The schemas of a document are what the rules say about the locations at the top
level. -/
theorem schemas_follows (hunique : root.UniqueKeys) (hfit : SchemasFit root) :
    (∃ ids progress, schemas root (root.get? "schemas") =
        .ok (List.zip (topNames root) ids, progress) ∧
      Loads root [] {} (topLocations root) ids progress) ∨
    ∃ error, schemas root (root.get? "schemas") = .error error ∧
      Refuses root [] {} (topLocations root) error := by
  rcases hfit with hnone | ⟨members, hschemas⟩
  · rw [topLocations, topNames, hnone]
    exact .inl ⟨[], {}, rfl, .nil⟩
  · have htop := resolve?_schemasLocation hschemas
    have hmember : ∀ entry ∈ members,
        resolve? root (child schemasLocation entry.1) = some entry.2 := by
      intro entry hmem
      rw [Json.Pointer.resolve?_child entry.1 htop]
      exact Members.get?_eq_some_of_mem (hunique.nodup htop) hmem
    rw [topLocations, topNames, hschemas]
    rcases topLevel_does hunique hmember {} with
      ⟨named, ids, progress, hrun, hloads, rfl, -⟩ | ⟨error, hrun, hrefuses⟩
    · exact .inl ⟨ids, progress, hrun, hloads⟩
    · exact .inr ⟨error, hrun, hrefuses⟩

end ApiClasses.Loading
