import ApiClasses.Proofs.Growth
import Mathlib.Data.List.Lex
import Mathlib.Data.Prod.Lex

/-!
# The first failure wins

A generation can go wrong in two ways: a decorator gives up, or the decorators of a class
have asked for a schema of another arena, which shows only once the class is decorated. Both
have a *moment* in the run: the way down to the class, given by the numbers of the classes on
it, and how many of its decorators are done. Moments are ordered lexicographically. That is
the order of a depth-first run: a class comes before everything inside it, and the classes
inside one class come in the order of their numbers.

What can go wrong at a moment is said without the generator, by steps from one decorator to
the next (`Stage.Leaves`, `Stage.Fault`) and from one class to those inside it (`Arrives`).
The generator fails exactly if something goes wrong at some moment, and it fails with the
error of the first such moment (`first_failure_wins`).
-/

namespace ApiClasses

variable {arena : Arena} {α : Type}

/-! ## Strangers -/

namespace Nesting

/-- The schemas of other arenas that a decoration asks for, in order. -/
def strangersOf : Nesting arena → Decoration arena α → List NodeId
  | _, .done _ => []
  | _, .fail _ => []
  | nesting, .request schema next =>
    (nesting.request schema).2.strangersOf (next (nesting.request schema).1)
  | nesting, .requestStranger id next =>
    id :: (nesting.requestStranger id).2.strangersOf (next (nesting.requestStranger id).1)

/-- None of them is forgotten. -/
theorem strangers_run {nesting after : Nesting arena} {m : Decoration arena α} {a : α}
    (h : nesting.run m = .ok (a, after)) :
    after.strangers = nesting.strangers ++ nesting.strangersOf m := by
  induction m generalizing nesting with
  | done result =>
    obtain ⟨-, rfl⟩ := Prod.mk.inj (Except.ok.inj h)
    exact (List.append_nil _).symm
  | fail error => cases h
  | request schema next ih => rw [ih _ h, strangersOf, strangers_request]
  | requestStranger id next ih =>
    rw [ih _ h, strangersOf, requestStranger, List.append_assoc, List.singleton_append]

end Nesting

/-! ## One class -/

/-- A class with the decorators that are to work on it. -/
structure Stage (arena : Arena) where
  /-- the schema the class is to stand for -/
  schema : Schema arena
  /-- the name of the class -/
  name : String
  /-- what answers the requests of its decorators -/
  before : Nesting arena
  /-- the work of each decorator, in order -/
  steps : List (ClassDecl → Decoration arena ClassDecl)

/-- All decorators work on a top-level class. -/
def Schema.stage (schema : Schema arena) (decorators : List Decorator) (settings : Settings)
    (name : String) : Stage arena where
  schema := schema
  name := name
  before := ({ settings, trail := "" } : Nesting arena).enclose schema.id name
  steps := decorators.map fun decorator => decorator.atTop schema

/-- Those that know how work on the class inside with a number. -/
def Nesting.stage (decorators : List Decorator) (nesting : Nesting arena)
    (entry : Schema arena × Nat) : Stage arena where
  schema := entry.1
  name := nesting.nestedName entry.2
  before := nesting.inside entry.2
  steps := (decorators.filterMap (·.inside?)).map fun decorate =>
    decorate (nesting.nestedName entry.2) entry.1

/-- All classes inside, in the order of their numbers. -/
def Nesting.stages (decorators : List Decorator) (nesting : Nesting arena) : List (Stage arena) :=
  nesting.numbered.map (nesting.stage decorators)

namespace Stage

/-- So many decorators are done, and they have left the class and the nesting like this. The
list has the schemas of other arenas that they have asked for. -/
inductive Leaves (stage : Stage arena) :
    Nat → ClassDecl → Nesting arena → List NodeId → Prop where
  /-- none is done -/
  | start : Leaves stage 0 { name := stage.name } stage.before []
  /-- the next one is done as well -/
  | step {count c d nesting after asked work} :
    Leaves stage count c nesting asked → stage.steps[count]? = some work →
    nesting.run (work c) = .ok (d, after) →
    Leaves stage (count + 1) d after (asked ++ nesting.strangersOf (work c))

/-- What goes wrong once so many decorators are done. -/
inductive Fault (stage : Stage arena) : Nat → GenerationError → Prop where
  /-- the next one gives up -/
  | gaveUp {count c nesting asked work error} :
    Leaves stage count c nesting asked → stage.steps[count]? = some work →
    nesting.run (work c) = .error error →
    Fault stage count (.decoration error)
  /-- all are done, but they have asked for a schema of another arena -/
  | stranger {c nesting id ids} :
    Leaves stage stage.steps.length c nesting (id :: ids) →
    Fault stage stage.steps.length (.misuse (.foreignSchema id))

variable {stage : Stage arena} {count later : Nat} {c d : ClassDecl} {nesting after : Nesting arena}
  {asked asked' : List NodeId} {error : GenerationError}

/-- The decorators leave no choice. -/
theorem Leaves.unique (h : stage.Leaves count c nesting asked)
    (h' : stage.Leaves count d after asked') : c = d ∧ nesting = after ∧ asked = asked' := by
  induction h generalizing d after asked' with
  | start => cases h'; exact ⟨rfl, rfl, rfl⟩
  | step _ hwork hrun ih =>
    obtain _ | ⟨hbefore, hwork', hrun'⟩ := h'
    obtain ⟨rfl, rfl, rfl⟩ := ih hbefore
    obtain rfl := Option.some.inj (hwork.symm.trans hwork')
    obtain ⟨rfl, rfl⟩ := Prod.mk.inj (Except.ok.inj (hrun.symm.trans hrun'))
    exact ⟨rfl, rfl, rfl⟩

/-- Where a decorator gives up, no later one is ever done. -/
theorem Leaves.le_of_error {work : ClassDecl → Decoration arena ClassDecl}
    {failed : DecorationError} (h : stage.Leaves count c nesting asked)
    (hwork : stage.steps[count]? = some work) (hrun : nesting.run (work c) = .error failed)
    (hlater : stage.Leaves later d after asked') : later ≤ count := by
  induction hlater with
  | start => exact Nat.zero_le count
  | @step reached _ _ _ _ _ _ hbefore hwork' hok ih =>
    by_contra hlt
    obtain rfl : count = reached := by omega
    obtain ⟨rfl, rfl, -⟩ := h.unique hbefore
    obtain rfl := Option.some.inj (hwork.symm.trans hwork')
    cases hrun.symm.trans hok

/-- Everything that has been asked for is on record. -/
theorem Leaves.strangers (h : stage.Leaves count c nesting asked)
    (hbefore : stage.before.strangers = []) : nesting.strangers = asked := by
  induction h with
  | start => exact hbefore
  | step _ _ hrun ih => rw [Nesting.strangers_run hrun, ih]

/-- When all decorators are done and have asked for nothing foreign, nothing goes wrong. -/
theorem Leaves.not_fault (h : stage.Leaves stage.steps.length c nesting []) :
    ¬ stage.Fault count error := by
  intro hfault
  cases hfault with
  | gaveUp hleaves hwork hrun =>
    obtain ⟨hlt, -⟩ := List.getElem?_eq_some_iff.mp hwork
    exact absurd (hleaves.le_of_error hwork hrun h) (Nat.not_le_of_lt hlt)
  | stranger hasked =>
    obtain ⟨-, -, hnil⟩ := h.unique hasked
    cases hnil

/-- At most one thing goes wrong with a class. -/
theorem Fault.unique {error' : GenerationError} (h : stage.Fault count error)
    (h' : stage.Fault later error') : count = later ∧ error = error' := by
  cases h with
  | gaveUp hleaves hwork hrun =>
    cases h' with
    | gaveUp hleaves' hwork' hrun' =>
      obtain rfl := Nat.le_antisymm (hleaves'.le_of_error hwork' hrun' hleaves)
        (hleaves.le_of_error hwork hrun hleaves')
      obtain ⟨rfl, rfl, -⟩ := hleaves.unique hleaves'
      obtain rfl := Option.some.inj (hwork.symm.trans hwork')
      obtain rfl := Except.error.inj (hrun.symm.trans hrun')
      exact ⟨rfl, rfl⟩
    | stranger hdone =>
      obtain ⟨hlt, -⟩ := List.getElem?_eq_some_iff.mp hwork
      exact absurd (hleaves.le_of_error hwork hrun hdone) (Nat.not_le_of_lt hlt)
  | stranger hdone =>
    cases h' with
    | gaveUp hleaves' hwork' hrun' =>
      obtain ⟨hlt, -⟩ := List.getElem?_eq_some_iff.mp hwork'
      exact absurd (hleaves'.le_of_error hwork' hrun' hdone) (Nat.not_le_of_lt hlt)
    | stranger hdone' =>
      obtain ⟨-, -, hsame⟩ := hdone.unique hdone'
      obtain rfl := (List.cons.inj hsame).1
      exact ⟨rfl, rfl⟩

/-! ### The work as a whole -/

/-- The class as the generator works on it: all decorators at once. -/
def site (stage : Stage arena) : Site arena where
  schema := stage.schema
  before := stage.before
  decoration := stage.steps.foldlM (fun c work => work c) { name := stage.name }

/-- The remaining decorators come to an end, or one of them gives up. -/
theorem Leaves.rest {done rest : List (ClassDecl → Decoration arena ClassDecl)}
    (h : stage.Leaves done.length c nesting asked) (hsteps : stage.steps = done ++ rest) :
    (∃ d after asked', nesting.run (rest.foldlM (fun c work => work c) c) = .ok (d, after) ∧
        stage.Leaves stage.steps.length d after asked') ∨
      ∃ later error, nesting.run (rest.foldlM (fun c work => work c) c) = .error error ∧
        stage.Fault later (.decoration error) := by
  induction rest generalizing done c nesting asked with
  | nil =>
    rw [List.append_nil] at hsteps
    exact .inl ⟨c, nesting, asked, rfl, hsteps ▸ h⟩
  | cons work rest ih =>
    have hwork : stage.steps[done.length]? = some work := by
      rw [hsteps, List.getElem?_append_right (Nat.le_refl _), Nat.sub_self, List.getElem?_cons_zero]
    rw [List.foldlM_cons, Nesting.run_bind]
    rcases hrun : nesting.run (work c) with error | ⟨d, after⟩
    · exact .inr ⟨done.length, error, rfl, .gaveUp h hwork hrun⟩
    · have hnext : stage.Leaves (done ++ [work]).length d after
          (asked ++ nesting.strangersOf (work c)) := by
        rw [List.length_append]
        exact h.step hwork hrun
      exact ih hnext (by rw [hsteps, List.append_assoc, List.singleton_append])

/-- So do all of them. -/
theorem ends (stage : Stage arena) :
    (∃ c after asked, stage.before.run stage.site.decoration = .ok (c, after) ∧
        stage.Leaves stage.steps.length c after asked) ∨
      ∃ count error, stage.before.run stage.site.decoration = .error error ∧
        stage.Fault count (.decoration error) := by
  have hstart : stage.Leaves ([] : List (ClassDecl → Decoration arena ClassDecl)).length _ _ _ :=
    .start
  exact hstart.rest rfl

/-- A class that the generator has decorated is what its decorators leave. -/
theorem leaves_of_decorating (hbefore : stage.before.strangers = [])
    (h : stage.site.before.decorating stage.site.decoration = .ok (c, after)) :
    stage.Leaves stage.steps.length c after after.strangers := by
  have hrun : stage.before.run stage.site.decoration = .ok (c, after) :=
    Nesting.decorating_eq_ok.mp h
  rcases stage.ends with ⟨d, last, asked, hok, hleaves⟩ | ⟨count, error, hfails, -⟩
  · obtain ⟨rfl, rfl⟩ := Prod.mk.inj (Except.ok.inj (hrun.symm.trans hok))
    rwa [hleaves.strangers hbefore]
  · cases hrun.symm.trans hfails

/-- The generator fails to decorate a class where one of its decorators gives up. -/
theorem fault_of_decorating
    (h : stage.site.before.decorating stage.site.decoration = .error error) :
    ∃ count, stage.Fault count error := by
  obtain ⟨reason, hrun, rfl⟩ := Nesting.decorating_eq_error.mp h
  rcases stage.ends with ⟨d, last, asked, hok, -⟩ | ⟨count, found, hfails, hfault⟩
  · cases hrun.symm.trans hok
  · obtain rfl := Except.error.inj (hrun.symm.trans hfails)
    exact ⟨count, hfault⟩

end Stage

theorem Schema.site_stage (schema : Schema arena) (decorators : List Decorator)
    (settings : Settings) (name : String) :
    (schema.stage decorators settings name).site = schema.site decorators settings name := by
  rw [Stage.site, Schema.stage, Schema.site, Decorator.allAtTop, List.foldlM_map]

/-- Inside, nothing has been asked for yet. -/
theorem Nesting.stages_untouched (nesting : Nesting arena) {decorators : List Decorator} :
    ∀ stage ∈ nesting.stages decorators, stage.before.strangers = [] := by
  intro stage hstage
  obtain ⟨entry, -, rfl⟩ := List.mem_map.mp hstage
  rfl

/-- A number is given once. -/
theorem Nesting.entry_eq {nesting : Nesting arena} {entry other : Schema arena × Nat}
    (hentry : entry ∈ nesting.numbered) (hother : other ∈ nesting.numbered)
    (hnumber : entry.2 = other.2) : entry = other := by
  obtain ⟨-, hschema⟩ := mem_numbered.mp hentry
  obtain ⟨-, hschema'⟩ := mem_numbered.mp hother
  rw [hnumber, hschema'] at hschema
  exact Prod.ext (Option.some.inj hschema).symm hnumber

theorem Nesting.sites_eq (decorators : List Decorator) (nesting : Nesting arena) :
    nesting.sites decorators = (nesting.stages decorators).map Stage.site := by
  rw [Nesting.sites, Nesting.stages, List.map_map]
  refine List.map_congr_left fun entry _ => ?_
  rw [Function.comp_apply, Stage.site, Nesting.stage, Nesting.site, Decorator.allInside,
    List.foldlM_map]

/-! ## The whole run -/

/-- The run comes to a class on this way down: the classes above are all decorated. -/
inductive Arrives (decorators : List Decorator) :
    Stage arena → List Nat → Stage arena → Prop where
  /-- the class at the top -/
  | here {stage} : Arrives decorators stage [] stage
  /-- a class inside one of those inside -/
  | inner {stage c after asked entry path last} :
    stage.Leaves stage.steps.length c after asked → entry ∈ after.numbered →
    Arrives decorators (after.stage decorators entry) path last →
    Arrives decorators stage (entry.2 :: path) last

/-- What goes wrong at the class on this way down, once so many of its decorators are done. -/
def Faults (decorators : List Decorator) (top : Stage arena) (path : List Nat) (count : Nat)
    (error : GenerationError) : Prop :=
  ∃ stage, Arrives decorators top path stage ∧ stage.Fault count error

/-- Nothing goes wrong. -/
def Faultless (decorators : List Decorator) (top : Stage arena) : Prop :=
  ∀ path count error, ¬ Faults decorators top path count error

/-- What goes wrong first. -/
def FirstFault (decorators : List Decorator) (top : Stage arena) (error : GenerationError) : Prop :=
  ∃ path count, Faults decorators top path count error ∧
    ∀ path' count' error', Faults decorators top path' count' error' →
      toLex (path, count) ≤ toLex (path', count')

section Runs

variable {decorators : List Decorator} {settings : Settings} {stage top last : Stage arena}
  {count : Nat} {c : ClassDecl} {after : Nesting arena} {asked : List NodeId}
  {error : GenerationError} {path : List Nat}

theorem faults_nil : Faults decorators stage [] count error ↔ stage.Fault count error := by
  constructor
  · rintro ⟨_, ⟨⟩, hfault⟩
    exact hfault
  · intro hfault
    exact ⟨stage, .here, hfault⟩

/-- What goes wrong further in goes wrong in a class inside. -/
theorem faults_cons (hdone : stage.Leaves stage.steps.length c after asked) {number : Nat} :
    Faults decorators stage (number :: path) count error ↔
      ∃ entry ∈ after.numbered, entry.2 = number ∧
        Faults decorators (after.stage decorators entry) path count error := by
  constructor
  · rintro ⟨last, hlast, hfault⟩
    obtain _ | ⟨hdone', hentry, harrives⟩ := hlast
    obtain ⟨-, rfl, -⟩ := hdone.unique hdone'
    exact ⟨_, hentry, rfl, last, harrives, hfault⟩
  · rintro ⟨entry, hentry, rfl, last, harrives, hfault⟩
    exact ⟨last, .inner hdone hentry harrives, hfault⟩

/-- On every way down there is at most one class. -/
theorem Arrives.unique {last' : Stage arena} (h : Arrives decorators top path last)
    (h' : Arrives decorators top path last') : last = last' := by
  induction h with
  | here => cases h'; rfl
  | @inner _ _ _ _ entry _ _ hdone hentry _ ih =>
    generalize hnumber : entry.2 = number at h'
    obtain _ | ⟨hdone', hentry', harrives⟩ := h'
    obtain ⟨-, rfl, -⟩ := hdone.unique hdone'
    rw [Nesting.entry_eq hentry hentry' hnumber] at ih
    exact ih harrives

/-- So one thing at most goes wrong first. -/
theorem FirstFault.unique {error' : GenerationError} (h : FirstFault decorators top error)
    (h' : FirstFault decorators top error') : error = error' := by
  obtain ⟨path, count, ⟨stage, harrives, hfault⟩, hfirst⟩ := h
  obtain ⟨path', count', ⟨stage', harrives', hfault'⟩, hfirst'⟩ := h'
  have hsame := le_antisymm (hfirst _ _ _ ⟨stage', harrives', hfault'⟩)
    (hfirst' _ _ _ ⟨stage, harrives, hfault⟩)
  obtain ⟨rfl, rfl⟩ := Prod.mk.inj (toLex.injective hsame)
  obtain rfl := harrives.unique harrives'
  exact (hfault.unique hfault').2

/-! ### One class after the other -/

/-- Moments further in come in the order they have there… -/
theorem toLex_cons_le_cons {number count' : Nat} {path' : List Nat}
    (h : toLex (path, count) ≤ toLex (path', count')) :
    toLex (number :: path, count) ≤ toLex (number :: path', count') := by
  refine Prod.Lex.toLex_le_toLex.mpr ?_
  rcases Prod.Lex.toLex_le_toLex.mp h with hlt | ⟨hsame, hle⟩
  · exact .inl (List.cons_lt_cons_iff.mpr (.inr ⟨rfl, hlt⟩))
  · exact .inr ⟨congrArg (number :: ·) hsame, hle⟩

/-- …and those in classes of lower numbers come first. -/
theorem toLex_cons_le_of_lt {number number' count' : Nat} {path' : List Nat}
    (h : number < number') : toLex (number :: path, count) ≤ toLex (number' :: path', count') :=
  Prod.Lex.toLex_le_toLex.mpr (.inl (List.cons_lt_cons_iff.mpr (.inl h)))

/-- What goes wrong with a class comes before anything inside it. -/
theorem Stage.Fault.first (h : stage.Fault count error) : FirstFault decorators stage error := by
  refine ⟨[], count, faults_nil.mpr h, fun path' count' error' hother => ?_⟩
  cases path' with
  | nil =>
    obtain ⟨rfl, -⟩ := h.unique (faults_nil.mp hother)
    exact le_refl _
  | cons number rest => exact Prod.Lex.toLex_le_toLex.mpr (.inl (List.nil_lt_cons number rest))

/-- The numbers of the classes inside go up. -/
theorem Nesting.pairwise_numbered (nesting : Nesting arena) :
    nesting.numbered.Pairwise fun entry later => entry.2 < later.2 := by
  rw [← List.pairwise_map (f := Prod.snd) (R := (· < ·)), numbered, List.zipIdx_map_snd]
  exact List.pairwise_lt_range'

/-- What goes wrong first in the first class inside that is not faultless goes wrong first. -/
theorem FirstFault.of_inside {front back : List (Stage arena)}
    (hdone : stage.Leaves stage.steps.length c after [])
    (hstages : after.stages decorators = front ++ last :: back)
    (hfront : ∀ earlier ∈ front, Faultless decorators earlier)
    (h : FirstFault decorators last error) : FirstFault decorators stage error := by
  obtain ⟨path, count, hfaults, hfirst⟩ := h
  obtain ⟨before, rest, hnumbered, rfl, hrest⟩ := List.map_eq_append_iff.mp hstages
  obtain ⟨entry, later, rfl, rfl, rfl⟩ := List.map_eq_cons_iff.mp hrest
  have hentry : entry ∈ after.numbered := hnumbered ▸ List.mem_append_right _ List.mem_cons_self
  refine ⟨entry.2 :: path, count, (faults_cons hdone).mpr ⟨entry, hentry, rfl, hfaults⟩, ?_⟩
  intro path' count' error' hother
  cases path' with
  | nil => exact absurd (faults_nil.mp hother) hdone.not_fault
  | cons number path' =>
    obtain ⟨other, hmem, rfl, hinner⟩ := (faults_cons hdone).mp hother
    rw [hnumbered, List.mem_append, List.mem_cons] at hmem
    rcases hmem with hearlier | rfl | hlater
    · -- nothing goes wrong in the classes before this one
      exact absurd hinner (hfront _ (List.mem_map_of_mem hearlier) _ _ _)
    · exact toLex_cons_le_cons (hfirst _ _ _ hinner)
    · have hpairs := after.pairwise_numbered
      rw [hnumbered, List.pairwise_append, List.pairwise_cons] at hpairs
      exact toLex_cons_le_of_lt (hpairs.2.1.1 other hlater)

/-- With nothing wrong with the class itself or inside it, it is faultless. -/
theorem Faultless.of_inside (hdone : stage.Leaves stage.steps.length c after [])
    (hinside : ∀ inner ∈ after.stages decorators, Faultless decorators inner) :
    Faultless decorators stage := by
  intro path count error hfaults
  cases path with
  | nil => exact hdone.not_fault (faults_nil.mp hfaults)
  | cons number path =>
    obtain ⟨entry, hentry, -, hfaults⟩ := (faults_cons hdone).mp hfaults
    exact hinside _ (List.mem_map_of_mem hentry) _ _ _ hfaults

/-- The run fails in the first class that is not faultless, with what goes wrong first there. -/
theorem Grows.failures {stages : List (Stage arena)}
    {result : Except GenerationError (List ClassTree)}
    (h : Grows decorators (stages.map Stage.site) result)
    (hbefore : ∀ stage ∈ stages, stage.before.strangers = []) :
    (∀ trees, result = .ok trees → ∀ stage ∈ stages, Faultless decorators stage) ∧
      ∀ error, result = .error error → ∃ front stage back, stages = front ++ stage :: back ∧
        (∀ earlier ∈ front, Faultless decorators earlier) ∧ FirstFault decorators stage error := by
  generalize hsites : stages.map Stage.site = sites at h
  induction h generalizing stages with
  | nil =>
    obtain rfl := List.map_eq_nil_iff.mp hsites
    exact ⟨fun _ _ _ => nofun, nofun⟩
  | undecorated hd =>
    obtain ⟨stage, rest, rfl, rfl, rfl⟩ := List.map_eq_cons_iff.mp hsites
    obtain ⟨count, hfault⟩ := Stage.fault_of_decorating hd
    refine ⟨nofun, ?_⟩
    rintro _ ⟨⟩
    exact ⟨[], stage, rest, rfl, nofun, hfault.first⟩
  | stranger hd hs =>
    obtain ⟨stage, rest, rfl, rfl, rfl⟩ := List.map_eq_cons_iff.mp hsites
    have hdone := Stage.leaves_of_decorating (hbefore _ List.mem_cons_self) hd
    rw [hs] at hdone
    refine ⟨nofun, ?_⟩
    rintro _ ⟨⟩
    exact ⟨[], stage, rest, rfl, nofun, (Stage.Fault.stranger hdone).first⟩
  | inside hd hs _ ih =>
    obtain ⟨stage, rest, rfl, rfl, rfl⟩ := List.map_eq_cons_iff.mp hsites
    have hdone := Stage.leaves_of_decorating (hbefore _ List.mem_cons_self) hd
    rw [hs] at hdone
    obtain ⟨-, hinner⟩ := ih (Nesting.stages_untouched _) (Nesting.sites_eq _ _).symm
    obtain ⟨front, inner, back, hstages, hfront, hfirst⟩ := hinner _ rfl
    refine ⟨nofun, ?_⟩
    rintro _ ⟨⟩
    exact ⟨[], stage, rest, rfl, nofun, hfirst.of_inside hdone hstages hfront⟩
  | @cons _ _ _ _ _ later hd hs _ _ ih ih_rest =>
    obtain ⟨stage, rest, rfl, rfl, rfl⟩ := List.map_eq_cons_iff.mp hsites
    obtain ⟨huntouched, hrest⟩ := List.forall_mem_cons.mp hbefore
    have hdone := Stage.leaves_of_decorating huntouched hd
    rw [hs] at hdone
    obtain ⟨hinner, -⟩ := ih (Nesting.stages_untouched _) (Nesting.sites_eq _ _).symm
    have hstage : Faultless decorators stage := .of_inside hdone (hinner _ rfl)
    obtain ⟨hok, herror⟩ := ih_rest hrest rfl
    rcases later with failed | trees
    · refine ⟨nofun, ?_⟩
      rintro _ ⟨⟩
      obtain ⟨front, first, back, rfl, hfront, hfirst⟩ := herror failed rfl
      exact ⟨stage :: front, first, back, rfl, List.forall_mem_cons.mpr ⟨hstage, hfront⟩, hfirst⟩
    · exact ⟨fun _ _ => List.forall_mem_cons.mpr ⟨hstage, hok trees rfl⟩, nofun⟩

/-- Every class that the run comes to is done, with nothing foreign asked for. -/
theorem Faultless.exists_leaves (h : Faultless decorators top)
    (harrives : Arrives decorators top path last) :
    ∃ c after, last.Leaves last.steps.length c after [] := by
  have hfaultless (count : Nat) (error : GenerationError) : ¬ last.Fault count error :=
    fun hfault => h path count error ⟨last, harrives, hfault⟩
  rcases last.ends with ⟨c, after, asked, -, hleaves⟩ | ⟨count, error, -, hfault⟩
  · rcases asked with _ | ⟨id, ids⟩
    · exact ⟨c, after, hleaves⟩
    · exact absurd (.stranger hleaves) (hfaultless _ _)
  · exact absurd hfault (hfaultless _ _)

/-- The class of a schema is there and faultless, or something goes wrong first and is its
error. -/
theorem Arena.classDecl_or {schema : Schema arena} {name : String}
    (hname : schema.className? = some name) (decorators : List Decorator) (settings : Settings) :
    (∃ c, arena.classDecl decorators settings schema.id = .ok c ∧
        Faultless decorators (schema.stage decorators settings name)) ∨
      ∃ error, arena.classDecl decorators settings schema.id = .error error ∧
        FirstFault decorators (schema.stage decorators settings name) error := by
  have hgrows : Grows decorators ([schema.stage decorators settings name].map Stage.site)
      ((fun tree => [tree]) <$> schema.classTree decorators settings name) := by
    rw [List.map_singleton, Schema.site_stage]
    exact schema.classTree_grows name
  obtain ⟨hok, herror⟩ := hgrows.failures (List.forall_mem_singleton.mpr rfl)
  rw [classDecl, classTree, get?_id]
  simp only [hname]
  generalize schema.classTree decorators settings name = result at hok herror ⊢
  rcases result with failed | tree
  · obtain ⟨front, stage, back, hstages, -, hfirst⟩ := herror failed rfl
    have hmem : stage ∈ [schema.stage decorators settings name] :=
      hstages ▸ List.mem_append_right _ List.mem_cons_self
    rw [List.mem_singleton.mp hmem] at hfirst
    exact .inr ⟨failed, rfl, hfirst⟩
  · exact .inl ⟨tree.decl, rfl, hok _ rfl _ List.mem_cons_self⟩

/-- **The first failure wins**: the class of a schema with a class name fails exactly if a
decorator gives up or a schema of another arena is asked for, somewhere in the run, and its
error is that of the first moment at which this happens. If there is a class, then all
decorators are done on every way down, and none of them has asked for anything foreign. -/
theorem first_failure_wins {arena : Arena} {schema : Schema arena} {name : String}
    (hname : schema.className? = some name) (decorators : List Decorator) (settings : Settings) :
    (∀ error, arena.classDecl decorators settings schema.id = .error error ↔
      FirstFault decorators (schema.stage decorators settings name) error) ∧
    ((∃ error, arena.classDecl decorators settings schema.id = .error error) ↔
      ∃ path count error,
        Faults decorators (schema.stage decorators settings name) path count error) ∧
    ∀ c, arena.classDecl decorators settings schema.id = .ok c →
      ∀ path last, Arrives decorators (schema.stage decorators settings name) path last →
        ∃ decorated after, last.Leaves last.steps.length decorated after [] := by
  rcases Arena.classDecl_or hname decorators settings with
    ⟨c, hok, hfaultless⟩ | ⟨error, hfails, hfirst⟩
  · rw [hok]
    refine ⟨fun error => ⟨nofun, ?_⟩, ⟨nofun, ?_⟩, fun _ _ _ _ => hfaultless.exists_leaves⟩
    · rintro ⟨path, count, hfaults, -⟩
      exact absurd hfaults (hfaultless path count error)
    · rintro ⟨path, count, error, hfaults⟩
      exact absurd hfaults (hfaultless path count error)
  · rw [hfails]
    refine ⟨fun other => ⟨?_, fun hother => ?_⟩, ⟨fun _ => ?_, fun _ => ⟨error, rfl⟩⟩, nofun⟩
    · rintro ⟨⟩
      exact hfirst
    · rw [hfirst.unique hother]
    · obtain ⟨path, count, hfaults, -⟩ := hfirst
      exact ⟨path, count, error, hfaults⟩

end Runs

/-- Asks for a foreign schema on every class inside another one. -/
def Decorator.nosy : Decorator where
  name := "Nosy"
  atTop := fun _ c => pure c
  inside? := some fun _ _ c => do
    let _ ← Decoration.classOfStranger ⟨7⟩
    return c

/-- Gives up on classes of a name. -/
def Decorator.choosy (refused : String) : Decorator :=
  .everywhere "Choosy" fun _ c =>
    if c.name = refused then .fail ⟨"Choosy", c.name, "refused"⟩ else pure c

/-- On the ring, the second class has asked for a foreign schema. If it is refused as well, that
is noticed first; if only the class inside it would be refused, the foreign schema is. -/
theorem ring_fails_first : ∃ schema : Schema Arena.ring, schema.className? = some "Graph" ∧
    FirstFault [.fields, .nosy, .choosy "NestedClass1"]
      (schema.stage [.fields, .nosy, .choosy "NestedClass1"] {} "Graph")
      (.decoration ⟨"Choosy", "NestedClass1", "refused"⟩) ∧
    FirstFault [.fields, .nosy, .choosy "NestedClass1_1"]
      (schema.stage [.fields, .nosy, .choosy "NestedClass1_1"] {} "Graph")
      (.misuse (.foreignSchema ⟨7⟩)) := by
  have hname : (⟨⟨0⟩, by decide⟩ : Schema Arena.ring).className? = some "Graph" := rfl
  exact ⟨_, hname, ((first_failure_wins hname _ {}).1 _).mp rfl,
    ((first_failure_wins hname _ {}).1 _).mp rfl⟩

end ApiClasses
