import ApiClasses.Proofs.Loading.Documents
import ApiClasses.Proofs.Loading.Memory
import Mathlib.Logic.Relation

/-!
# Which references are refused

A walk through a document enters the locations at the top level one after the other,
and after each location, before anything else, whatever it leads to; a location that
was entered before is passed by (`Step`). The loader follows this walk until it meets
trouble, and there are two kinds of trouble (`schemas_load_iff`): a location that
cannot be loaded, and a reference that leads back to itself without passing any
location entered before it.

The second kind is refused as a circle. It need not be a circle of references alone:
the way back may lead through a schema of its own, if the reference is entered before
that schema (`load_refuses_iff`). -/

namespace ApiClasses.Loading

open Json (Members)
open Json.Pointer (child resolve?)
open Relation (ReflTransGen TransGen)

/-! ## The walk -/

/-- A step of the walk, on the locations entered so far and the locations ahead. -/
inductive Step (root : Json) : List String × List String → List String × List String → Prop where
  /-- a location entered before is passed by -/
  | pass {entered location ahead} : location ∈ entered →
    Step root (entered, location :: ahead) (entered, ahead)
  /-- what a new location leads to comes next -/
  | enter {entered location ahead} : location ∉ entered →
    Step root (entered, location :: ahead) (location :: entered, next root location ++ ahead)

/-- The walk through a document enters the location after those of `before`. -/
def Enters (root : Json) (before : List String) (location : String) : Prop :=
  location ∉ before ∧
    ∃ ahead, ReflTransGen (Step root) ([], topLocations root) (before, location :: ahead)

/-- The second location comes next to the first, which was not entered before. -/
def Onward (root : Json) (before : List String) (location other : String) : Prop :=
  location ∉ before ∧ other ∈ next root location

/-- What is at the location cannot be loaded. -/
def Faulty (root : Json) (location : String) : Prop :=
  ∃ error, finding? root location = some (.fault error)

/-- The location holds a reference that leads back to it without passing any location
of `before`. -/
def Circular (root : Json) (before : List String) (location : String) : Prop :=
  (∃ reference, finding? root location = some (.link reference)) ∧
    TransGen (Onward root before) location location

variable {root : Json} {following before entered ahead : List String}
  {progress after : Progress} {locations : List String} {ids : List NodeId} {location : String}

theorem Onward.mono {other : String} (hsub : before ⊆ entered)
    (h : Onward root entered location other) : Onward root before location other :=
  ⟨fun hmem => h.1 (hsub hmem), h.2⟩

theorem Step.unique {state one other : List String × List String} (h : Step root state one)
    (h' : Step root state other) : one = other := by
  cases h with
  | pass hmem =>
    cases h' with
    | pass _ => rfl
    | enter hnot => exact absurd hmem hnot
  | enter hnot =>
    cases h' with
    | pass hmem => exact absurd hmem hnot
    | enter _ => rfl

theorem Step.link {reference : String} (hnot : location ∉ entered)
    (hfind : finding? root location = some (.link reference)) :
    Step root (entered, location :: ahead) (location :: entered, target reference :: ahead) := by
  have h : Step root (entered, location :: ahead)
      (location :: entered, next root location ++ ahead) :=
    .enter hnot
  rwa [next_link hfind] at h

theorem Step.own {draft : Draft} (hnot : location ∉ entered)
    (hfind : finding? root location = some (.own draft)) :
    Step root (entered, location :: ahead)
      (location :: entered, draft.outline.children ++ ahead) := by
  have h : Step root (entered, location :: ahead)
      (location :: entered, next root location ++ ahead) :=
    .enter hnot
  rwa [next_own hfind] at h

/-- No trouble: the location ahead, if it is new, can be loaded and is no circle. -/
def Fine (root : Json) (state : List String × List String) : Prop :=
  ∀ location ahead, state.2 = location :: ahead → location ∉ state.1 →
    ¬ Faulty root location ∧ ¬ Circular root state.1 location

theorem fine_of_mem (hmem : location ∈ entered) : Fine root (entered, location :: ahead) := by
  rintro _ _ ⟨⟩ hnot
  exact absurd hmem hnot

theorem fine_of_link {reference : String} (hfind : finding? root location = some (.link reference))
    (hcircle : ¬ Circular root entered location) : Fine root (entered, location :: ahead) := by
  rintro _ _ ⟨⟩ -
  refine ⟨?_, hcircle⟩
  rintro ⟨_, hfault⟩
  cases hfault.symm.trans hfind

theorem fine_of_own {draft : Draft} (hfind : finding? root location = some (.own draft)) :
    Fine root (entered, location :: ahead) := by
  rintro _ _ ⟨⟩ -
  refine ⟨?_, ?_⟩
  · rintro ⟨_, hfault⟩
    cases hfault.symm.trans hfind
  · rintro ⟨⟨_, hlink⟩, -⟩
    cases hlink.symm.trans hfind

/-- A stretch of the walk without trouble. -/
abbrev Passes (root : Json) :
    List String × List String → List String × List String → Prop :=
  ReflTransGen fun state later => Step root state later ∧ Fine root state

/-- A walk that comes to its end without trouble meets none anywhere. -/
theorem Passes.fine {start state : List String × List String}
    (hend : Passes root start (entered, [])) (h : ReflTransGen (Step root) start state) :
    Fine root state := by
  have hrest : Passes root state (entered, []) := by
    induction h with
    | refl => exact hend
    | tail _ hstep ih =>
      rcases ReflTransGen.cases_head ih with rfl | ⟨later, ⟨hlater, -⟩, hrest⟩
      · cases hstep
      · rwa [hstep.unique hlater]
  rcases ReflTransGen.cases_head hrest with rfl | ⟨_, ⟨-, hfine⟩, -⟩
  · exact nofun
  · exact hfine

/-! ## The loader walks -/

/-- The locations entered so far are those that are known and those whose references
are being followed. -/
structure Covers (root : Json) (entered following : List String) (progress : Progress) : Prop where
  /-- nothing else has been entered -/
  mem_iff : ∀ location, location ∈ entered ↔
    (∃ id, progress.id? location = some id) ∨ location ∈ following
  /-- what is followed are references -/
  links : ∀ location ∈ following, ∃ reference, finding? root location = some (.link reference)
  /-- they are not known yet -/
  unknown : ∀ location ∈ following, progress.id? location = none

namespace Covers

/-- A reference that was followed is known from now on. -/
theorem note (h : Covers root entered (location :: following) progress)
    (hnot : location ∉ following) (id : NodeId) :
    Covers root entered following (progress.note location id) := by
  obtain ⟨-, hlinks⟩ := List.forall_mem_cons.mp h.links
  obtain ⟨-, hunknown⟩ := List.forall_mem_cons.mp h.unknown
  refine ⟨fun other => ?_, hlinks, fun other hmem => ?_⟩
  · rw [h.mem_iff, List.mem_cons, Progress.id?_note]
    by_cases hother : location = other
    · simp [hother]
    · simp [hother, Ne.symm hother]
  · have hother : location ≠ other := by
      rintro rfl
      exact hnot hmem
    rw [Progress.id?_note, if_neg hother, hunknown other hmem]

variable (h : Covers root entered following progress)

include h

/-- A location that is neither known nor followed is new. -/
theorem notMem (hnew : progress.id? location = none) (hnot : location ∉ following) :
    location ∉ entered := by
  rw [h.mem_iff, not_or]
  exact ⟨by simp [hnew], hnot⟩

/-- Own schemas are not among the locations whose references are followed. -/
theorem notMem_own {draft : Draft} (hnew : progress.id? location = none)
    (hfind : finding? root location = some (.own draft)) : location ∉ entered := by
  refine h.notMem hnew fun hmem => ?_
  obtain ⟨_, hlink⟩ := h.links location hmem
  cases hlink.symm.trans hfind

/-- A reference is followed from now on. -/
theorem follow {reference : String} (hnew : progress.id? location = none)
    (hfind : finding? root location = some (.link reference)) :
    Covers root (location :: entered) (location :: following) progress := by
  refine ⟨fun other => ?_, ?_, ?_⟩
  · rw [List.mem_cons, List.mem_cons, h.mem_iff]
    tauto
  · exact List.forall_mem_cons.mpr ⟨⟨reference, hfind⟩, h.links⟩
  · exact List.forall_mem_cons.mpr ⟨hnew, h.unknown⟩

/-- A schema of its own is known from now on. -/
theorem reserve {draft : Draft} (hfind : finding? root location = some (.own draft)) :
    Covers root (location :: entered) following (progress.reserve location) := by
  refine ⟨fun other => ?_, h.links, fun other hmem => ?_⟩
  · rw [List.mem_cons, h.mem_iff, Progress.id?_reserve]
    by_cases hother : location = other
    · simp [hother]
    · simp [hother, Ne.symm hother]
  · have hother : location ≠ other := by
      rintro rfl
      obtain ⟨_, hlink⟩ := h.links _ hmem
      cases hlink.symm.trans hfind
    rw [Progress.id?_reserve, if_neg hother, h.unknown other hmem]

theorem fill (id : NodeId) (node : Node) :
    Covers root entered following (progress.fill id node) :=
  ⟨h.mem_iff, h.links, h.unknown⟩

/-- Known locations have been entered. -/
theorem mem_of_id? {id : NodeId} (hid : progress.id? location = some id) : location ∈ entered :=
  (h.mem_iff location).mpr (.inl ⟨id, hid⟩)

/-- What is entered and known later was entered later, too. -/
theorem subset {entered' : List String} (hkeeps : progress.Keeps after)
    (h' : Covers root entered' following after) : entered ⊆ entered' := by
  intro location hmem
  rw [h'.mem_iff]
  refine ((h.mem_iff location).mp hmem).imp_left ?_
  rintro ⟨id, hid⟩
  exact ⟨id, hkeeps.id? hid⟩

end Covers

/-- A reference that is followed to the end does not lead back: all that its target
leads to becomes known, and the reference itself does not. -/
theorem Loads.not_circular {reference : String} {id : NodeId}
    (hcovers : Covers root entered following progress) (hnew : progress.id? location = none)
    (hfind : finding? root location = some (.link reference))
    (h : Loads root (location :: following) progress [target reference] [id] after) :
    ¬ Circular root entered location := by
  rintro ⟨-, hback⟩
  obtain ⟨first, ⟨-, hfirst⟩, hpath⟩ := TransGen.head'_iff.mp hback
  rw [next_link hfind] at hfirst
  obtain rfl := List.mem_singleton.mp hfirst
  have hknown : ∃ id, after.id? location = some id := by
    refine ReflTransGen.rec (motive := fun other _ => ∃ id, after.id? other = some id) ?_ ?_ hpath
    · exact h.known_of_mem (List.mem_singleton_self _)
    · rintro other further - ⟨hnot, hnext⟩ ⟨id, hid⟩
      have hother : progress.id? other = none := by
        by_contra hsome
        obtain ⟨id, hid⟩ := Option.ne_none_iff_exists'.mp hsome
        exact hnot (hcovers.mem_of_id? hid)
      exact h.closed hother hid further hnext
  obtain ⟨_, hid⟩ := hknown
  cases (h.open_stays hfind List.mem_cons_self hnew).symm.trans hid

/-- Where loading succeeds, the walk passes without trouble. -/
theorem Loads.passes (hcovers : Covers root entered following progress)
    (h : Loads root following progress locations ids after) (ahead : List String) :
    ∃ entered', Passes root (entered, locations ++ ahead) (entered', ahead) ∧
      Covers root entered' following after := by
  induction h generalizing entered ahead with
  | nil => exact ⟨entered, .refl, hcovers⟩
  | known hid _ ih =>
    obtain ⟨entered', hpasses, hcovers'⟩ := ih hcovers ahead
    have hmem := hcovers.mem_of_id? hid
    exact ⟨entered', .head ⟨.pass hmem, fine_of_mem hmem⟩ hpasses, hcovers'⟩
  | @link _ _ here _ _ _ rest _ _ hnew hfind hnot htarget _ ih_target ih =>
    have hfine : Fine root (entered, here :: (rest ++ ahead)) :=
      fine_of_link hfind (htarget.not_circular hcovers hnew hfind)
    obtain ⟨inside, hinside, hcovers₁⟩ := ih_target (hcovers.follow hnew hfind) (rest ++ ahead)
    obtain ⟨entered', hpasses, hcovers'⟩ := ih (hcovers₁.note hnot _) ahead
    have hout := hcovers.notMem hnew hnot
    exact ⟨entered', .head ⟨.link hout hfind, hfine⟩ (hinside.trans hpasses), hcovers'⟩
  | @own _ _ here draft _ _ rest _ _ hnew hfind _ _ ih_inner ih =>
    obtain ⟨inside, hinside, hcovers₁⟩ := ih_inner (hcovers.reserve hfind) (rest ++ ahead)
    obtain ⟨entered', hpasses, hcovers'⟩ := ih (hcovers₁.fill _ _) ahead
    have hpass := hinside.trans hpasses
    have hout := hcovers.notMem_own hnew hfind
    exact ⟨entered', .head ⟨.own hout hfind, fine_of_own hfind⟩ hpass, hcovers'⟩

/-- Where loading fails, the walk comes upon the trouble. It has entered the location
that cannot be loaded, or the reference that leads back to itself; or else some
reference that is still being followed is reached again. -/
theorem Refuses.trouble {error : LoadError}
    (hcovers : Covers root entered following progress)
    (h : Refuses root following progress locations error) (ahead : List String) :
    (∃ before location rest,
      ReflTransGen (Step root) (entered, locations ++ ahead) (before, location :: rest) ∧
      location ∉ before ∧
      (finding? root location = some (.fault error) ∨
        ∃ reference, finding? root location = some (.link reference) ∧
          error = .invalidValue location "$ref" reference ∧
          TransGen (Onward root before) location location)) ∨
    ∃ location ∈ following, ∃ reference, finding? root location = some (.link reference) ∧
      error = .invalidValue location "$ref" reference ∧
      ∃ start ∈ locations, ReflTransGen (Onward root entered) start location := by
  induction h generalizing entered ahead with
  | @fault _ _ location error rest hnew hfind =>
    refine .inl ⟨entered, location, rest ++ ahead, .refl, ?_, .inl hfind⟩
    refine hcovers.notMem hnew fun hmem => ?_
    obtain ⟨_, hlink⟩ := hcovers.links location hmem
    cases hlink.symm.trans hfind
  | circle hnew hfind hmem =>
    -- here a way back ends; where it started is found further out
    exact .inr ⟨_, hmem, _, hfind, rfl, _, List.mem_cons_self, .refl⟩
  | @link _ _ here reference rest _ hnew hfind hnot _ ih =>
    have hout := hcovers.notMem hnew hnot
    have honward : Onward root entered here (target reference) :=
      ⟨hout, by rw [next_link hfind]; exact List.mem_singleton_self _⟩
    rcases ih (hcovers.follow hnew hfind) (rest ++ ahead) with
      ⟨before, location, later, hwalk, htrouble⟩ |
      ⟨location, hmem, text, hlink, herror, start, hstart, hpath⟩
    · exact .inl ⟨before, location, later, .head (.link hout hfind) hwalk, htrouble⟩
    · obtain rfl := List.mem_singleton.mp hstart
      have hback := ReflTransGen.mono
        (fun _ _ => Onward.mono (List.subset_cons_self here entered)) _ _ hpath
      rcases List.mem_cons.mp hmem with rfl | hmem
      · -- the way back has been found
        exact .inl ⟨entered, location, rest ++ ahead, .refl, hout,
          .inr ⟨text, hlink, herror, TransGen.head' honward hback⟩⟩
      · exact .inr ⟨location, hmem, text, hlink, herror, here, List.mem_cons_self,
          .head honward hback⟩
  | @own _ _ here draft rest _ hnew hfind _ ih =>
    have hout := hcovers.notMem_own hnew hfind
    rcases ih (hcovers.reserve hfind) (rest ++ ahead) with
      ⟨before, location, later, hwalk, htrouble⟩ |
      ⟨location, hmem, text, hlink, herror, start, hstart, hpath⟩
    · exact .inl ⟨before, location, later, .head (.own hout hfind) hwalk, htrouble⟩
    · have hpath := ReflTransGen.mono
        (fun _ _ => Onward.mono (List.subset_cons_self here entered)) _ _ hpath
      have honward : Onward root entered here start := ⟨hout, by rwa [next_own hfind]⟩
      exact .inr ⟨location, hmem, text, hlink, herror, here, List.mem_cons_self,
        .head honward hpath⟩
  | @later _ _ first _ _ rest _ hfirst _ ih =>
    -- the walk passes the first location and goes on behind it
    obtain ⟨entered', hpasses, hcovers'⟩ := hfirst.passes hcovers (rest ++ ahead)
    have hwalk : ReflTransGen (Step root) (entered, first :: (rest ++ ahead))
        (entered', rest ++ ahead) := ReflTransGen.mono (fun _ _ h => h.1) _ _ hpasses
    rcases ih hcovers' ahead with
      ⟨before, location, later, hwalk', htrouble⟩ |
      ⟨location, hmem, text, hlink, herror, start, hstart, hpath⟩
    · exact .inl ⟨before, location, later, hwalk.trans hwalk', htrouble⟩
    · have hsub := hcovers.subset hfirst.keeps hcovers'
      exact .inr ⟨location, hmem, text, hlink, herror, start, List.mem_cons_of_mem _ hstart,
        ReflTransGen.mono (fun _ _ => Onward.mono hsub) _ _ hpath⟩

/-! ## Documents -/

theorem covers_empty (root : Json) : Covers root [] [] {} :=
  ⟨fun location => by simp [Progress.id?], nofun, nofun⟩

/-- The trouble that a document is refused for is at a location that the walk enters. -/
theorem Refuses.enters {error : LoadError}
    (h : Refuses root [] {} (topLocations root) error) :
    ∃ before location, Enters root before location ∧
      (finding? root location = some (.fault error) ∨
        ∃ reference, finding? root location = some (.link reference) ∧
          error = .invalidValue location "$ref" reference ∧
          TransGen (Onward root before) location location) := by
  rcases h.trouble (covers_empty root) [] with
    ⟨before, location, rest, hwalk, hnot, htrouble⟩ | ⟨_, hmem, -⟩
  · rw [List.append_nil] at hwalk
    exact ⟨before, location, ⟨hnot, rest, hwalk⟩, htrouble⟩
  · cases hmem

/-- Where the walk enters anything, the schemas stand in an object. -/
theorem Enters.schemasFit (h : Enters root before location) : SchemasFit root := by
  obtain ⟨-, ahead, hwalk⟩ := h
  refine .of_topLocations fun htop => ?_
  rw [htop] at hwalk
  rcases ReflTransGen.cases_head hwalk with heq | ⟨_, hstep, -⟩
  · cases heq
  · cases hstep

/-- The schemas of a document load exactly if they stand in an object and the walk meets
no trouble: every location it enters can be loaded, and none holds a reference that leads
back to it without passing a location entered before. -/
theorem schemas_load_iff (hunique : root.UniqueKeys) :
    (∃ loaded, schemas root (root.get? "schemas") = .ok loaded) ↔
      SchemasFit root ∧ ∀ before location, Enters root before location →
        ¬ Faulty root location ∧ ¬ Circular root before location := by
  constructor
  · rintro ⟨loaded, hok⟩
    have hfit := SchemasFit.of_ok hok
    refine ⟨hfit, fun before location ⟨hnot, ahead, hwalk⟩ => ?_⟩
    rcases schemas_follows hunique hfit with ⟨ids, progress, hrun, hloads⟩ | ⟨error, hrun, -⟩
    · obtain ⟨entered, hpasses, -⟩ := hloads.passes (covers_empty root) []
      rw [List.append_nil] at hpasses
      exact hpasses.fine hwalk location ahead rfl hnot
    · cases hrun.symm.trans hok
  · rintro ⟨hfit, h⟩
    rcases schemas_follows hunique hfit with ⟨ids, progress, hrun, -⟩ | ⟨error, -, hrefuses⟩
    · exact ⟨_, hrun⟩
    · obtain ⟨before, location, henters, htrouble⟩ := hrefuses.enters
      obtain ⟨hfault, hcircle⟩ := h before location henters
      rcases htrouble with hfind | ⟨reference, hfind, -, hback⟩
      · exact absurd ⟨error, hfind⟩ hfault
      · exact absurd ⟨⟨reference, hfind⟩, hback⟩ hcircle

/-! ## Circles of references alone -/

/-- A reference stands at the first location and leads to the second. -/
def Hop (root : Json) (location other : String) : Prop :=
  ∃ reference, finding? root location = some (.link reference) ∧ target reference = other

theorem Hop.unique {one other : String} (h : Hop root location one) (h' : Hop root location other) :
    one = other := by
  obtain ⟨reference, hfind, rfl⟩ := h
  obtain ⟨_, hfind', rfl⟩ := h'
  cases hfind.symm.trans hfind'
  rfl

/-- From a circle of references no way leads out. -/
theorem not_holdsSchema_of_circle {other : String}
    (hpath : ReflTransGen (Hop root) location other)
    (hcircle : TransGen (Hop root) location location) : ¬ HoldsSchema root other := by
  induction hpath using ReflTransGen.head_induction_on with
  | refl =>
    obtain ⟨_, ⟨_, hfind, -⟩, -⟩ := TransGen.head'_iff.mp hcircle
    exact (holdsReference_of_link hfind).not_holdsSchema
  | head hhop _ ih =>
    -- one hop further, the circle is the same
    obtain ⟨_, hhop', hback⟩ := TransGen.head'_iff.mp hcircle
    obtain rfl := hhop.unique hhop'
    exact ih (TransGen.tail' hback hhop)

/-- A reference that leads back to itself does so by references alone exactly if
following them never comes to an object without one. -/
theorem circle_of_hops_iff (hback : TransGen (Onward root before) location location) :
    TransGen (Hop root) location location ↔
      ∀ other, ReflTransGen (Hop root) location other → ¬ HoldsSchema root other := by
  constructor
  · intro hcircle other hpath
    exact not_holdsSchema_of_circle hpath hcircle
  · intro h
    have hhop {one other : String} (hone : ReflTransGen (Hop root) location one)
        (honward : Onward root before one other) : Hop root one other := by
      have hmem := honward.2
      unfold next at hmem
      split at hmem
      · next reference hfind => exact ⟨reference, hfind, (List.mem_singleton.mp hmem).symm⟩
      · next draft hfind => exact absurd (holdsSchema_of_own hfind) (h one hone)
      · cases hmem
    have hall {other : String} (hpath : TransGen (Onward root before) location other) :
        TransGen (Hop root) location other := by
      induction hpath with
      | single honward => exact .single (hhop .refl honward)
      | tail _ honward ih => exact .tail ih (hhop ih.to_reflTransGen honward)
    exact hall hback

/-! ## Refusals -/

theorem outline_error {members : Members} {error : LoadError}
    (h : outline location members = .error error) : NoReference error := by
  rcases outline_eq_error h with ⟨_, -, rfl⟩ | ⟨_, -, -, rfl⟩
  · exact noReference_of_field (by decide)
  · exact noReference_of_field (by decide)

/-- Where something that is no text stands for a reference, no reference stands. -/
theorem not_holdsReference_of_fault {place text : String}
    (h : finding? root location = some (.fault (.invalidValue place "$ref" text))) :
    ¬ HoldsReference root place := by
  generalize herror : LoadError.invalidValue place "$ref" text = error at h
  cases found_of_finding? h with
  | other _ _ => exact absurd herror.symm (noReference_of_field (by decide) place text)
  | unresolved _ _ _ => cases herror
  | shapeless _ _ houtline => exact absurd herror.symm (outline_error houtline place text)
  | misfit hresolve href hstring =>
    obtain ⟨rfl, -, -⟩ := LoadError.invalidValue.inj herror
    rintro ⟨members, reference, hresolve', href'⟩
    cases hresolve.symm.trans hresolve'
    cases href.symm.trans href'
    cases hstring

/-- A reference that is refused leads back without passing a location entered before. -/
theorem circular_of_refused (hunique : root.UniqueKeys) {reference : String}
    (hholds : HoldsReference root location)
    (h : schemas root (root.get? "schemas") = .error (.invalidValue location "$ref" reference)) :
    ∃ before, Enters root before location ∧ Circular root before location := by
  by_cases hfit : SchemasFit root
  · rcases schemas_follows hunique hfit with ⟨ids, progress, hrun, -⟩ | ⟨error, hrun, hrefuses⟩
    · cases hrun.symm.trans h
    · obtain rfl := Except.error.inj (hrun.symm.trans h)
      obtain ⟨before, place, henters, htrouble⟩ := hrefuses.enters
      rcases htrouble with hfault | ⟨text, hfind, herror, hback⟩
      · exact absurd hholds (not_holdsReference_of_fault hfault)
      · obtain ⟨rfl, -, -⟩ := LoadError.invalidValue.inj herror
        exact ⟨before, henters, ⟨text, hfind⟩, hback⟩
  · obtain ⟨value, -, -, herror⟩ := schemas_of_unfit hfit
    have heq := Except.error.inj (herror.symm.trans h)
    exact absurd heq (noReference_of_field (by decide) _ _)

/-- A reference that leads back makes some reference refused, if nothing else is wrong. -/
theorem refused_of_circular (hunique : root.UniqueKeys)
    (hsound : ∀ before location, Enters root before location → ¬ Faulty root location)
    (henters : Enters root before location) (hcircular : Circular root before location) :
    ∃ location reference, HoldsReference root location ∧
      schemas root (root.get? "schemas") = .error (.invalidValue location "$ref" reference) := by
  rcases schemas_follows hunique henters.schemasFit with
    ⟨ids, progress, hrun, -⟩ | ⟨error, hrun, hrefuses⟩
  · have hfine := ((schemas_load_iff hunique).mp ⟨_, hrun⟩).2
    exact absurd hcircular (hfine before location henters).2
  · obtain ⟨before, place, henters, htrouble⟩ := hrefuses.enters
    rcases htrouble with hfault | ⟨reference, hfind, rfl, -⟩
    · exact absurd ⟨error, hfault⟩ (hsound before place henters)
    · exact ⟨place, reference, holdsReference_of_link hfind, hrun⟩

/-- **Which references are refused.** An object whose resources load is a document that
loads exactly if its schemas stand in an object, every location the walk enters can be
loaded, and none holds a reference that leads back to it without passing a location
entered before. A reference that is refused leads back in this way, and to refuse it is
right, in that following references from it never comes to an object without one,
exactly if it leads back by references alone. Where everything that is entered can be
loaded, some reference is refused exactly if some reference that is entered leads back
in this way. -/
theorem load_refuses_iff {text : String} (hread : Json.read text = .ok root) :
    ((∃ doc, Document.load text = .ok doc) ↔
      (∃ members, root = .object members) ∧
      (∃ resources, topResources (root.get? "resources") = .ok resources) ∧
      SchemasFit root ∧ ∀ before location, Enters root before location →
        ¬ Faulty root location ∧ ¬ Circular root before location) ∧
    (∀ location reference, HoldsReference root location →
      Document.load text = .error (.invalidValue location "$ref" reference) →
        (∃ before, Enters root before location ∧ Circular root before location) ∧
        ((∀ other, ReflTransGen (Hop root) location other → ¬ HoldsSchema root other) ↔
          TransGen (Hop root) location location)) ∧
    ((∀ before location, Enters root before location → ¬ Faulty root location) →
      ((∃ location reference, HoldsReference root location ∧
          Document.load text = .error (.invalidValue location "$ref" reference)) ↔
        ∃ before location, Enters root before location ∧ Circular root before location)) := by
  have hunique := Json.read_uniqueKeys hread
  refine ⟨?_, fun location reference hholds hload => ?_, fun hsound => ⟨?_, ?_⟩⟩
  · rw [load_iff hread, schemas_load_iff hunique]
  · obtain ⟨before, henters, hcircular⟩ :=
      circular_of_refused hunique hholds (schemas_of_load_error hread hload)
    exact ⟨⟨before, henters, hcircular⟩, (circle_of_hops_iff hcircular.2).symm⟩
  · rintro ⟨location, reference, hholds, hload⟩
    obtain ⟨before, hcircle⟩ :=
      circular_of_refused hunique hholds (schemas_of_load_error hread hload)
    exact ⟨before, location, hcircle⟩
  · rintro ⟨before, location, henters, hcircular⟩
    obtain ⟨place, reference, hholds, herror⟩ :=
      refused_of_circular hunique hsound henters hcircular
    exact ⟨place, reference, hholds, load_of_schemas_error hread herror⟩

/-! ## A circle through a schema -/

/-- `A` refers to `B`, and a property of `B` refers back to `A`. -/
def referenceFirst : String :=
  "\x7b\"schemas\":\x7b\"A\":\x7b\"$ref\":\"B\"\x7d,\"B\":\x7b\"type\":\"object\"," ++
    "\"properties\":\x7b\"a\":\x7b\"$ref\":\"A\"\x7d\x7d\x7d\x7d\x7d"

/-- The same with `B` first. -/
def schemaFirst : String :=
  "\x7b\"schemas\":\x7b\"B\":\x7b\"type\":\"object\",\"properties\":\x7b\"a\":\x7b\"$ref\":" ++
    "\"A\"\x7d\x7d\x7d,\"A\":\x7b\"$ref\":\"B\"\x7d\x7d\x7d"

/-- The members of the schema `B`. -/
def schemaB : Members :=
  [("type", .string "object"),
    ("properties", .object [("a", .object [("$ref", .string "A")])])]

/-- What is read from the document with `A` first. -/
def referenceFirstRoot : Json :=
  .object [("schemas", .object [("A", .object [("$ref", .string "B")]), ("B", .object schemaB)])]

theorem read_referenceFirst : Json.read referenceFirst = .ok referenceFirstRoot := by
  unfold referenceFirst
  simp only [String.reduceAppend]
  exact Json.read_ofList (by decide)

theorem load_referenceFirst :
    Document.load referenceFirst = .error (.invalidValue "/schemas/A" "$ref" "B") :=
  load_of_schemas_error read_referenceFirst (by decide +kernel)

theorem hop_referenceFirst : Hop referenceFirstRoot "/schemas/A" "/schemas/B" :=
  ⟨"B", by decide +kernel, by decide +kernel⟩

theorem holdsSchema_referenceFirst : HoldsSchema referenceFirstRoot "/schemas/B" :=
  ⟨schemaB, by decide +kernel, by decide +kernel⟩

/-- A reference is refused as a circle although it leads to a schema; with the schema
first, the same document loads. -/
theorem schema_circle_refused :
    Json.read referenceFirst = .ok referenceFirstRoot ∧
    Document.load referenceFirst = .error (.invalidValue "/schemas/A" "$ref" "B") ∧
    HoldsReference referenceFirstRoot "/schemas/A" ∧
    ReflTransGen (Hop referenceFirstRoot) "/schemas/A" "/schemas/B" ∧
    HoldsSchema referenceFirstRoot "/schemas/B" ∧
    (Document.load schemaFirst).isOk = true := by
  obtain ⟨reference, hfind, -⟩ := hop_referenceFirst
  exact ⟨read_referenceFirst, load_referenceFirst, holdsReference_of_link hfind,
    .single hop_referenceFirst, holdsSchema_referenceFirst, by decide +kernel⟩

/-- That reference leads back to itself past everything entered before it, and not by
references alone. -/
theorem schema_circle_circular :
    Json.read referenceFirst = .ok referenceFirstRoot ∧
    (∃ before, Enters referenceFirstRoot before "/schemas/A" ∧
      Circular referenceFirstRoot before "/schemas/A") ∧
    ¬ TransGen (Hop referenceFirstRoot) "/schemas/A" "/schemas/A" := by
  obtain ⟨reference, hfind, -⟩ := hop_referenceFirst
  obtain ⟨henters, hright⟩ := (load_refuses_iff read_referenceFirst).2.1 "/schemas/A" "B"
    (holdsReference_of_link hfind) load_referenceFirst
  refine ⟨read_referenceFirst, henters, fun hcircle => ?_⟩
  exact hright.mpr hcircle _ (.single hop_referenceFirst) holdsSchema_referenceFirst

end ApiClasses.Loading
