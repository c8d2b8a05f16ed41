import ApiClasses.Proofs.Loading.Documents
import ApiClasses.Proofs.Loading.Memory
import Mathlib.Data.List.Nodup

/-!
# Loading comes to an end

A reference may jump to any place of the document, also to one around itself, so the
nesting of values does not bound how deep the loader goes. What bounds it is that no
pointer is open twice (`Unfinished.nodup`): a schema of its own is known as soon as its
descent begins, and a reference is among those being followed until its descent ends.
Every open pointer leads somewhere, and only so many pointers do.

The rules of loading know no bound on jumps, so a derivation of them is a loading that
comes to an end. Every document has one, and its outcome is the only one
(`loading_terminates`).
-/

namespace ApiClasses.Loading

open Json (Members)
open Json.Pointer (child resolve? spellings)

/-! ## Unfinished descents -/

/-- At some moment while the locations are loaded one after the other, the descents
into the locations of `stack` have begun and not ended; the innermost comes first. -/
inductive Unfinished (root : Json) :
    List String → Progress → List String → List String → Prop where
  /-- no descent is under way -/
  | idle {following progress locations} : Unfinished root following progress locations []
  /-- the first location is done -/
  | later {following progress location id middle rest stack} :
    Loads root following progress [location] [id] middle →
    Unfinished root following middle rest stack →
    Unfinished root following progress (location :: rest) stack
  /-- the reference at the first location is being followed -/
  | link {following progress location reference rest stack} :
    progress.id? location = none →
    finding? root location = some (.link reference) →
    location ∉ following →
    Unfinished root (location :: following) progress [target reference] stack →
    Unfinished root following progress (location :: rest) (stack ++ [location])
  /-- the children of the first location are being loaded -/
  | own {following progress location draft rest stack} :
    progress.id? location = none →
    finding? root location = some (.own draft) →
    Unfinished root following (progress.reserve location) draft.outline.children stack →
    Unfinished root following progress (location :: rest) (stack ++ [location])

variable {root : Json} {following : List String} {progress after : Progress}
  {locations rest stack : List String} {ids : List NodeId} {location reference : String}
  {id : NodeId} {draft : Draft} {error : LoadError}
  {outcome : Except LoadError (List NodeId × Progress)}

namespace Unfinished

/-- An open location was not known when the descent into it began. -/
theorem unknown (h : Unfinished root following progress locations stack) :
    ∀ location ∈ stack, progress.id? location = none := by
  induction h with
  | idle => exact nofun
  | later hfirst _ ih =>
    intro location hmem
    by_contra hknown
    obtain ⟨id, hid⟩ := Option.ne_none_iff_exists'.mp hknown
    cases (hfirst.keeps.id? hid).symm.trans (ih location hmem)
  | @link _ _ here _ _ _ hnew _ _ _ ih =>
    intro location hmem
    rcases List.mem_append.mp hmem with hmem | hmem
    · exact ih location hmem
    · rwa [List.mem_singleton.mp hmem]
  | @own _ _ here _ _ _ hnew _ _ ih =>
    intro location hmem
    rcases List.mem_append.mp hmem with hmem | hmem
    · have hunknown := ih location hmem
      rw [Progress.id?_reserve] at hunknown
      split at hunknown
      · cases hunknown
      · exact hunknown
    · rwa [List.mem_singleton.mp hmem]

/-- A reference that is open was not being followed before. -/
theorem notMem_following (h : Unfinished root following progress locations stack) :
    ∀ location ∈ stack, ∀ reference, finding? root location = some (.link reference) →
      location ∉ following := by
  induction h with
  | idle => exact nofun
  | later _ _ ih => exact ih
  | link _ _ hnot _ ih =>
    intro location hmem reference hfind
    rcases List.mem_append.mp hmem with hmem | hmem
    · exact fun hfollowed => ih location hmem reference hfind (List.mem_cons_of_mem _ hfollowed)
    · rwa [List.mem_singleton.mp hmem]
  | own _ hown _ ih =>
    intro location hmem reference hfind
    rcases List.mem_append.mp hmem with hmem | hmem
    · exact ih location hmem reference hfind
    · rw [List.mem_singleton.mp hmem] at hfind
      cases hown.symm.trans hfind

/-- No location is open twice: a reference that is open is being followed, and a schema
of its own is known while it is open. -/
theorem nodup (h : Unfinished root following progress locations stack) : stack.Nodup := by
  induction h with
  | idle => exact List.nodup_nil
  | later _ _ ih => exact ih
  | @link _ _ here _ _ stack _ hfind _ hinner ih =>
    have hfresh : here ∉ stack := fun hmem =>
      hinner.notMem_following here hmem _ hfind List.mem_cons_self
    rw [← List.concat_eq_append]
    exact List.Nodup.concat hfresh ih
  | @own _ _ here _ _ stack _ _ hinner ih =>
    have hfresh : here ∉ stack := by
      intro hmem
      have hunknown := hinner.unknown here hmem
      rw [Progress.id?_reserve, if_pos rfl] at hunknown
      cases hunknown
    rw [← List.concat_eq_append]
    exact List.Nodup.concat hfresh ih

theorem leads (h : Unfinished root following progress locations stack) :
    ∀ location ∈ stack, (resolve? root location).isSome := by
  have hleads {location found} (hfind : finding? root location = some found) :
      (resolve? root location).isSome := by
    obtain ⟨value, hvalue, -⟩ := Option.map_eq_some_iff.mp hfind
    rw [hvalue]
    rfl
  induction h with
  | idle => exact nofun
  | later _ _ ih => exact ih
  | link _ hfind _ _ ih | own _ hfind _ ih =>
    intro location hmem
    rcases List.mem_append.mp hmem with hmem | hmem
    · exact ih location hmem
    · rw [List.mem_singleton.mp hmem]
      exact hleads hfind

end Unfinished

/-! ## Outcomes -/

/-- Loading some locations comes to an end, with their ids or with an error. -/
def Ends (root : Json) (following : List String) (progress : Progress) (locations : List String) :
    Except LoadError (List NodeId × Progress) → Prop
  | .ok (ids, after) => Loads root following progress locations ids after
  | .error error => Refuses root following progress locations error

/-- The outcome with one id more in front. -/
def withFirst (id : NodeId) (outcome : Except LoadError (List NodeId × Progress)) :
    Except LoadError (List NodeId × Progress) :=
  outcome.map fun (ids, after) => (id :: ids, after)

namespace Ends

/-- Several locations come to an end one after the other. -/
theorem split (h : Ends root following progress (location :: rest) outcome) :
    (∃ error, Refuses root following progress [location] error ∧ outcome = .error error) ∨
    ∃ id middle tail, Loads root following progress [location] [id] middle ∧
      Ends root following middle rest tail ∧ outcome = withFirst id tail := by
  rcases outcome with error | ⟨ids, after⟩
  · cases h with
    | fault hnew hfind => exact .inl ⟨error, .fault hnew hfind, rfl⟩
    | circle hnew hfind hmem => exact .inl ⟨_, .circle hnew hfind hmem, rfl⟩
    | link hnew hfind hnot htarget => exact .inl ⟨error, .link hnew hfind hnot htarget, rfl⟩
    | own hnew hfind hinner => exact .inl ⟨error, .own hnew hfind hinner, rfl⟩
    | later hfirst hrest => exact .inr ⟨_, _, .error error, hfirst, hrest, rfl⟩
  · cases h with
    | known hid hrest => exact .inr ⟨_, _, .ok (_, after), .known hid .nil, hrest, rfl⟩
    | link hnew hfind hnot htarget hrest =>
      exact .inr ⟨_, _, .ok (_, after), .link hnew hfind hnot htarget .nil, hrest, rfl⟩
    | own hnew hfind hinner hrest =>
      exact .inr ⟨_, _, .ok (_, after), .own hnew hfind hinner .nil, hrest, rfl⟩

theorem join {middle : Progress} (hfirst : Loads root following progress [location] [id] middle)
    (hrest : Ends root following middle rest outcome) :
    Ends root following progress (location :: rest) (withFirst id outcome) := by
  rcases outcome with error | ⟨ids, after⟩
  · exact Refuses.later hfirst hrest
  · exact hfirst.append hrest

end Ends

/-! ### What a single location comes to -/

section single

variable (h : Ends root following progress [location] outcome)

include h

theorem Ends.of_known (hid : progress.id? location = some id) : outcome = .ok ([id], progress) := by
  rcases outcome with error | ⟨ids, after⟩
  · cases h with
    | fault hnew | circle hnew | link hnew | own hnew => cases hid.symm.trans hnew
    | later _ hrest => cases hrest
  · cases h with
    | known hid' hnil =>
      cases hnil
      rw [Option.some.inj (hid'.symm.trans hid)]
    | link hnew | own hnew => cases hid.symm.trans hnew

theorem Ends.of_fault (hnew : progress.id? location = none)
    (hfind : finding? root location = some (.fault error)) : outcome = .error error := by
  rcases outcome with error' | ⟨ids, after⟩
  · cases h with
    | fault _ hfind' =>
      cases hfind.symm.trans hfind'
      rfl
    | circle _ hfind' | link _ hfind' | own _ hfind' => cases hfind.symm.trans hfind'
    | later _ hrest => cases hrest
  · cases h with
    | known hid => cases hid.symm.trans hnew
    | link _ hfind' | own _ hfind' => cases hfind.symm.trans hfind'

theorem Ends.of_circle (hnew : progress.id? location = none)
    (hfind : finding? root location = some (.link reference)) (hmem : location ∈ following) :
    outcome = .error (.invalidValue location "$ref" reference) := by
  rcases outcome with error' | ⟨ids, after⟩
  · cases h with
    | circle _ hfind' =>
      cases hfind.symm.trans hfind'
      rfl
    | link _ _ hnot => exact absurd hmem hnot
    | fault _ hfind' | own _ hfind' => cases hfind.symm.trans hfind'
    | later _ hrest => cases hrest
  · cases h with
    | known hid => cases hid.symm.trans hnew
    | link _ _ hnot => exact absurd hmem hnot
    | own _ hfind' => cases hfind.symm.trans hfind'

theorem Ends.of_link (hnew : progress.id? location = none)
    (hfind : finding? root location = some (.link reference)) (hnot : location ∉ following) :
    (∃ error, Refuses root (location :: following) progress [target reference] error ∧
      outcome = .error error) ∨
    ∃ id middle, Loads root (location :: following) progress [target reference] [id] middle ∧
      outcome = .ok ([id], middle.note location id) := by
  rcases outcome with error' | ⟨ids, after⟩
  · cases h with
    | link _ hfind' _ htarget =>
      cases hfind.symm.trans hfind'
      exact .inl ⟨_, htarget, rfl⟩
    | circle _ _ hmem => exact absurd hmem hnot
    | fault _ hfind' | own _ hfind' => cases hfind.symm.trans hfind'
    | later _ hrest => cases hrest
  · cases h with
    | known hid => cases hid.symm.trans hnew
    | link _ hfind' _ htarget hnil =>
      cases hfind.symm.trans hfind'
      cases hnil
      exact .inr ⟨_, _, htarget, rfl⟩
    | own _ hfind' => cases hfind.symm.trans hfind'

theorem Ends.of_own (hnew : progress.id? location = none)
    (hfind : finding? root location = some (.own draft)) :
    (∃ error, Refuses root following (progress.reserve location) draft.outline.children error ∧
      outcome = .error error) ∨
    ∃ inner middle,
      Loads root following (progress.reserve location) draft.outline.children inner middle ∧
      outcome = .ok ([progress.fresh], middle.fill progress.fresh (draft.node inner)) := by
  rcases outcome with error' | ⟨ids, after⟩
  · cases h with
    | own _ hfind' hinner =>
      cases hfind.symm.trans hfind'
      exact .inl ⟨_, hinner, rfl⟩
    | fault _ hfind' | circle _ hfind' | link _ hfind' => cases hfind.symm.trans hfind'
    | later _ hrest => cases hrest
  · cases h with
    | known hid => cases hid.symm.trans hnew
    | link _ hfind' => cases hfind.symm.trans hfind'
    | own _ hfind' hinner hnil =>
      cases hfind.symm.trans hfind'
      cases hnil
      exact .inr ⟨_, _, hinner, rfl⟩

end single

/-! ### The rules leave no choice -/

/-- What is known about the first location and about the rest decides the whole. -/
theorem Ends.eq_of_first {middle : Progress}
    {expected : Except LoadError (List NodeId × Progress)}
    (h : Ends root following progress (location :: rest) outcome)
    (hfirst : ∀ first, Ends root following progress [location] first → first = .ok ([id], middle))
    (hrest : ∀ tail, Ends root following middle rest tail → tail = expected) :
    outcome = withFirst id expected := by
  rcases h.split with ⟨error, hrefuses, rfl⟩ | ⟨id', middle', tail, hloads, htail, rfl⟩
  · cases hfirst (.error error) hrefuses
  · cases hfirst (.ok ([id'], middle')) hloads
    rw [hrest tail htail]

theorem Loads.outcome_eq (h : Loads root following progress locations ids after) :
    ∀ outcome, Ends root following progress locations outcome → outcome = .ok (ids, after) := by
  induction h with
  | nil =>
    rintro (error | ⟨ids, after⟩) h'
    · cases h'
    · cases h'
      rfl
  | known hid _ ih =>
    intro outcome h'
    exact h'.eq_of_first (fun _ hfirst => hfirst.of_known hid) ih
  | link hnew hfind hnot _ _ ih_target ih =>
    intro outcome h'
    refine h'.eq_of_first (fun first hfirst => ?_) ih
    rcases hfirst.of_link hnew hfind hnot with
      ⟨error, hrefuses, rfl⟩ | ⟨id', middle', hloads, rfl⟩
    · cases ih_target (.error error) hrefuses
    · cases ih_target (.ok ([id'], middle')) hloads
      rfl
  | own hnew hfind _ _ ih_inner ih =>
    intro outcome h'
    refine h'.eq_of_first (fun first hfirst => ?_) ih
    rcases hfirst.of_own hnew hfind with ⟨error, hrefuses, rfl⟩ | ⟨inner', middle', hloads, rfl⟩
    · cases ih_inner (.error error) hrefuses
    · cases ih_inner (.ok (inner', middle')) hloads
      rfl

theorem Refuses.outcome_eq (h : Refuses root following progress locations error) :
    ∀ outcome, Ends root following progress locations outcome → outcome = .error error := by
  -- a failure of the first location leaves nothing for the rest to decide
  have hstop {location rest outcome} {following : List String} {progress : Progress}
      {error : LoadError} (h' : Ends root following progress (location :: rest) outcome)
      (hfirst : ∀ first, Ends root following progress [location] first →
        first = .error error) : outcome = .error error := by
    rcases h'.split with ⟨error', hrefuses, rfl⟩ | ⟨id, middle, tail, hloads, -, rfl⟩
    · exact hfirst (.error error') hrefuses
    · cases hfirst (.ok ([id], middle)) hloads
  induction h with
  | fault hnew hfind =>
    intro outcome h'
    exact hstop h' fun _ hfirst => hfirst.of_fault hnew hfind
  | circle hnew hfind hmem =>
    intro outcome h'
    exact hstop h' fun _ hfirst => hfirst.of_circle hnew hfind hmem
  | link hnew hfind hnot _ ih =>
    intro outcome h'
    refine hstop h' fun first hfirst => ?_
    rcases hfirst.of_link hnew hfind hnot with
      ⟨error', hrefuses, rfl⟩ | ⟨id, middle, hloads, rfl⟩
    · exact ih (.error error') hrefuses
    · cases ih (.ok ([id], middle)) hloads
  | own hnew hfind _ ih =>
    intro outcome h'
    refine hstop h' fun first hfirst => ?_
    rcases hfirst.of_own hnew hfind with ⟨error', hrefuses, rfl⟩ | ⟨inner, middle, hloads, rfl⟩
    · exact ih (.error error') hrefuses
    · cases ih (.ok (inner, middle)) hloads
  | later hfirst _ ih =>
    intro outcome h'
    exact h'.eq_of_first hfirst.outcome_eq ih

/-- Loading comes to one end at most. -/
theorem Ends.unique {other : Except LoadError (List NodeId × Progress)}
    (h : Ends root following progress locations outcome)
    (h' : Ends root following progress locations other) : other = outcome := by
  rcases outcome with error | ⟨ids, after⟩
  · exact Refuses.outcome_eq h other h'
  · exact Loads.outcome_eq h other h'

/-! ## Every loading ends -/

/-- Whatever is known and whatever is being followed, loading comes to an end. -/
theorem exists_ends (hunique : root.UniqueKeys) (hnodup : following.Nodup)
    (hlead : ∀ location ∈ following, (resolve? root location).isSome)
    (hlocations : ∀ location ∈ locations, (resolve? root location).isSome) :
    ∀ progress, ∃ outcome, Ends root following progress locations outcome := by
  induction locations with
  | nil => exact fun progress => ⟨.ok ([], progress), .nil⟩
  | cons location rest ih =>
    intro progress
    obtain ⟨hlocation, hrest⟩ := List.forall_mem_cons.mp hlocations
    obtain ⟨value, hvalue⟩ := Option.isSome_iff_exists.mp hlocation
    have hobeys : Obeys root following (Loading.reference root (spellings root) following) :=
      reference_obeys hunique hnodup hlead (Nat.le_add_left ..)
    rcases schema_does hunique hobeys hvalue progress with
      ⟨id, ids, middle, -, hloads, rfl⟩ | ⟨error, -, hrefuses⟩
    · obtain ⟨outcome, htail⟩ := ih hrest middle
      exact ⟨withFirst id outcome, .join hloads htail⟩
    · have happend : Refuses root following progress ([location] ++ rest) error :=
        hrefuses.append
      exact ⟨.error error, happend⟩

/-- A count of jumps that is large enough decides nothing. -/
theorem schema_jumps_eq (hunique : root.UniqueKeys) {jumps more : Nat} {value : Json}
    (hjumps : spellings root ≤ jumps) (hmore : spellings root ≤ more)
    (hvalue : resolve? root location = some value) :
    schema (Loading.reference root jumps []) location value progress =
      schema (Loading.reference root more []) location value progress := by
  have hobeys {jumps : Nat} (hjumps : spellings root ≤ jumps) :
      Obeys root [] (Loading.reference root jumps []) :=
    reference_obeys hunique List.nodup_nil nofun (by simpa using hjumps)
  rcases schema_does hunique (hobeys hjumps) hvalue progress with
    ⟨id, ids, after, hrun, hloads, rfl⟩ | ⟨error, hrun, hrefuses⟩ <;>
  rcases schema_does hunique (hobeys hmore) hvalue progress with
    ⟨id', ids', after', hrun', hloads', rfl⟩ | ⟨error', hrun', hrefuses'⟩
  · cases hloads.outcome_eq (.ok (_, _)) hloads'
    rw [hrun, hrun']
  · cases hloads.outcome_eq (.error _) hrefuses'
  · cases hrefuses.outcome_eq (.ok (_, _)) hloads'
  · cases hrefuses.outcome_eq (.error _) hrefuses'
    rw [hrun, hrun']

/-! ## Documents -/

/-- **Every loading ends.** The rules, which know no bound on jumps, give every document
one outcome, and so they do from any state that loading may come to. The loader gives the
same, and to allow it more jumps changes nothing. The descents that are under way at any
moment are into pairwise different pointers, all of which lead somewhere, so there are never
more of them than the document has pointers. -/
theorem loading_terminates {text : String} (hread : Json.read text = .ok root) :
    (∃! outcome, Ends root [] {} (topLocations root) outcome) ∧
    (∀ following progress locations, following.Nodup →
      (∀ location ∈ following, (resolve? root location).isSome) →
      (∀ location ∈ locations, (resolve? root location).isSome) →
        ∃! outcome, Ends root following progress locations outcome) ∧
    (SchemasFit root → ∀ outcome, Ends root [] {} (topLocations root) outcome →
      schemas root (root.get? "schemas") =
        outcome.map fun (ids, after) => (List.zip (topNames root) ids, after)) ∧
    (∀ jumps location value progress, spellings root ≤ jumps →
      resolve? root location = some value →
        schema (Loading.reference root jumps []) location value progress =
          schema (Loading.reference root (spellings root) []) location value progress) ∧
    ∀ stack, Unfinished root [] {} (topLocations root) stack →
      stack.Nodup ∧ (∀ location ∈ stack, (resolve? root location).isSome) ∧
        stack.length ≤ spellings root := by
  have hunique := Json.read_uniqueKeys hread
  refine ⟨?_, ?_, fun hfit outcome hends => ?_,
    fun jumps location value progress hjumps hvalue => ?_, fun stack hstack => ?_⟩
  · by_cases hfit : SchemasFit root
    · rcases schemas_follows hunique hfit with ⟨ids, after, -, hloads⟩ | ⟨error, -, hrefuses⟩
      · exact ⟨.ok (ids, after), hloads, hloads.outcome_eq⟩
      · exact ⟨.error error, hrefuses, hrefuses.outcome_eq⟩
    · -- nothing is loaded where no object stands
      have htop : topLocations root = [] := by
        by_contra hne
        exact hfit (.of_topLocations hne)
      rw [htop]
      exact ⟨.ok ([], {}), .nil, Loads.nil.outcome_eq⟩
  · intro following progress locations hnodup hlead hlocations
    obtain ⟨outcome, hends⟩ := exists_ends hunique hnodup hlead hlocations progress
    exact ⟨outcome, hends, fun other hother => hends.unique hother⟩
  · rcases schemas_follows hunique hfit with ⟨ids, after, hrun, hloads⟩ | ⟨error, hrun, hrefuses⟩
    · rw [hrun, hloads.outcome_eq outcome hends]
      rfl
    · rw [hrun, hrefuses.outcome_eq outcome hends]
      rfl
  · exact schema_jumps_eq hunique hjumps (Nat.le_refl _) hvalue
  · exact ⟨hstack.nodup, hstack.leads,
      Json.Pointer.length_le_spellings hstack.nodup hstack.leads⟩

/-! ## A document inside itself -/

/-- A property of `A` refers to the whole document, which is an array of `A` itself. -/
def insideItself : String :=
  "\x7b\"schemas\":\x7b\"A\":\x7b\"properties\":\x7b\"all\":\x7b\"$ref\":\"#\"\x7d\x7d\x7d\x7d," ++
    "\"items\":\x7b\"$ref\":\"A\"\x7d\x7d"

/-- What is read from it. -/
def insideItselfRoot : Json :=
  .object [
    ("schemas", .object [("A", .object [
      ("properties", .object [("all", .object [("$ref", .string "#")])])])]),
    ("items", .object [("$ref", .string "A")])]

theorem read_insideItself : Json.read insideItself = .ok insideItselfRoot := by
  unfold insideItself
  simp only [String.reduceAppend]
  exact Json.read_ofList (by decide)

/-- While the document is loaded, four descents are under way at once: into `A`, into
its property, into the whole document, and into its items. -/
theorem unfinished_insideItself :
    Unfinished insideItselfRoot [] {} (topLocations insideItselfRoot)
      ["/items", "", "/schemas/A/properties/all", "/schemas/A"] := by
  have hitems : finding? insideItselfRoot "/items" = some (.link "A") := by decide +kernel
  have hwhole : finding? insideItselfRoot "" =
      some (.own ⟨none, none, .array (some "/items")⟩) := by decide +kernel
  have hall : finding? insideItselfRoot "/schemas/A/properties/all" = some (.link "#") := by
    decide +kernel
  have hschema : finding? insideItselfRoot "/schemas/A" =
      some (.own ⟨some "A", none, .object [("all", "/schemas/A/properties/all")] none⟩) := by
    decide +kernel
  have htop : topLocations insideItselfRoot = ["/schemas/A"] := by decide +kernel
  rw [htop]
  change Unfinished _ _ _ _ (["/items", "", "/schemas/A/properties/all"] ++ ["/schemas/A"])
  refine .own rfl hschema ?_
  change Unfinished _ _ _ _ (["/items", ""] ++ ["/schemas/A/properties/all"])
  refine .link (by decide +kernel) hall (by decide) ?_
  change Unfinished _ _ _ _ (["/items"] ++ [""])
  refine .own (by decide +kernel) hwhole ?_
  change Unfinished _ _ _ _ ([] ++ ["/items"])
  exact .link (by decide +kernel) hitems (by decide) .idle

/-- The document comes to an end all the same, and the four pointers are different. -/
theorem inside_itself_ends :
    Json.read insideItself = .ok insideItselfRoot ∧
    (∃! outcome, Ends insideItselfRoot [] {} (topLocations insideItselfRoot) outcome) ∧
    ["/items", "", "/schemas/A/properties/all", "/schemas/A"].Nodup := by
  obtain ⟨hends, -, -, -, hstack⟩ := loading_terminates read_insideItself
  exact ⟨read_insideItself, hends, (hstack _ unfinished_insideItself).1⟩

end ApiClasses.Loading
