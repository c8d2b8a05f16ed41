import ApiClasses.Proofs.Answers
import ApiClasses.Proofs.Meanings
import Mathlib.Data.List.Induction

/-!
# Sessions

A nesting can be told and asked things in any order: schemas are bound to names from outside,
also when they have a number already, and schemas of the arena and of other arenas are asked
for. What it holds afterwards can be read off the list of calls (`records_session`): every
schema that was asked for while it was bound to no name has a number, by the order of the
first such requests, and the rest follows from there (`session_orderly`). A number once given
out stays, so the classes that are made at the end have the names that were given out before.
-/

namespace ApiClasses.Nesting

variable {arena : Arena} {settings : Settings} {trail : String} {nesting : Nesting arena}
  {id : NodeId} {name : String} {number : Nat}

/-! ## Calls -/

/-- What a nesting is told or asked. -/
inductive Call (arena : Arena) where
  /-- a schema is bound to a name from outside -/
  | enclose (id : NodeId) (name : String)
  /-- the class of a schema of the arena is asked for -/
  | request (schema : Schema arena)
  /-- the class of a schema of another arena is asked for -/
  | requestStranger (id : NodeId)

/-- The nesting after a call. -/
def afterCall (nesting : Nesting arena) : Call arena → Nesting arena
  | .enclose id name => nesting.enclose id name
  | .request schema => (nesting.request schema).2
  | .requestStranger id => (nesting.requestStranger id).2

/-- A new nesting after some calls. -/
def session (settings : Settings) (trail : String) (calls : List (Call arena)) : Nesting arena :=
  calls.foldl afterCall { settings, trail }

@[simp] theorem session_concat (calls : List (Call arena)) (call : Call arena) :
    session settings trail (calls ++ [call]) = (session settings trail calls).afterCall call := by
  simp [session]

/-! ## What the calls say -/

namespace Call

/-- The name that the call binds a schema to. -/
def binding? (id : NodeId) : Call arena → Option String
  | enclose other name => if other = id then some name else none
  | request _ => none
  | requestStranger _ => none

/-- The schema of another arena that the call asks for. -/
def stranger? : Call arena → Option NodeId
  | requestStranger id => some id
  | enclose _ _ => none
  | request _ => none

end Call

/-- The name that a schema was bound to last. -/
def boundName? (calls : List (Call arena)) (id : NodeId) : Option String :=
  calls.reverse.findSome? (Call.binding? id)

theorem boundName?_concat (calls : List (Call arena)) (call : Call arena) :
    boundName? (calls ++ [call]) id = (call.binding? id).or (boundName? calls id) := by
  rw [boundName?, List.reverse_append, List.findSome?_append]
  simp [boundName?]

/-- Calls that do not bind a schema leave its name as it is. -/
theorem boundName?_append (calls : List (Call arena)) {later : List (Call arena)}
    (h : ∀ name, .enclose id name ∉ later) :
    boundName? (calls ++ later) id = boundName? calls id := by
  have hnone : later.reverse.findSome? (Call.binding? id) = none := by
    refine List.findSome?_eq_none_iff.mpr fun call hcall => ?_
    cases call with
    | enclose other name =>
      refine if_neg ?_
      rintro rfl
      exact h name (List.mem_reverse.mp hcall)
    | request schema => rfl
    | requestStranger other => rfl
  rw [boundName?, List.reverse_append, List.findSome?_append, hnone, Option.none_or, boundName?]

/-- The schema that the call asks for, if earlier calls have bound it to no name. -/
def Call.unbound? (earlier : List (Call arena)) : Call arena → Option NodeId
  | request schema => if boundName? earlier schema.id = none then some schema.id else none
  | enclose _ _ => none
  | requestStranger _ => none

/-- The schemas that are asked for while they are bound to no name, in order, coming after
earlier calls. -/
def unboundRequests : (earlier calls : List (Call arena)) → List NodeId
  | _, [] => []
  | earlier, call :: rest =>
    (call.unbound? earlier).toList ++ unboundRequests (earlier ++ [call]) rest

theorem unboundRequests_append (earlier calls rest : List (Call arena)) :
    unboundRequests earlier (calls ++ rest) =
      unboundRequests earlier calls ++ unboundRequests (earlier ++ calls) rest := by
  induction calls generalizing earlier with
  | nil => simp [unboundRequests]
  | cons call later ih => simp [unboundRequests, ih, List.append_assoc]

theorem unboundRequests_concat (calls : List (Call arena)) (call : Call arena) :
    unboundRequests [] (calls ++ [call]) =
      unboundRequests [] calls ++ (call.unbound? calls).toList := by
  simp [unboundRequests_append, unboundRequests]

/-- Each of them is asked for at some point where nothing before binds it. -/
theorem mem_unboundRequests {calls : List (Call arena)} :
    id ∈ unboundRequests [] calls ↔ ∃ earlier schema later,
      calls = earlier ++ .request schema :: later ∧ schema.id = id ∧
        boundName? earlier id = none := by
  have hcall {earlier : List (Call arena)} {call : Call arena} :
      id ∈ (call.unbound? earlier).toList ↔
        ∃ schema, call = .request schema ∧ schema.id = id ∧ boundName? earlier id = none := by
    cases call with
    | enclose other name => simp [Call.unbound?]
    | requestStranger other => simp [Call.unbound?]
    | request schema =>
      by_cases hbound : boundName? earlier schema.id = none
      · simp only [Call.unbound?, hbound, if_true, Option.mem_toList, Call.request.injEq]
        constructor
        · intro h
          obtain rfl := Option.some.inj h
          exact ⟨schema, rfl, rfl, hbound⟩
        · rintro ⟨_, rfl, rfl, -⟩
          rfl
      · simp only [Call.unbound?, hbound, if_false, Option.toList_none, List.not_mem_nil,
          Call.request.injEq, false_iff, not_exists, not_and]
        rintro _ rfl rfl
        exact hbound
  constructor
  · intro h
    induction calls using List.reverseRecOn with
    | nil => cases h
    | append_singleton calls call ih =>
      rw [unboundRequests_concat] at h
      rcases List.mem_append.mp h with h | h
      · obtain ⟨earlier, schema, later, rfl, hid, hbound⟩ := ih h
        exact ⟨earlier, schema, later ++ [call], by simp, hid, hbound⟩
      · obtain ⟨schema, rfl, hid, hbound⟩ := hcall.mp h
        exact ⟨calls, schema, [], rfl, hid, hbound⟩
  · rintro ⟨earlier, schema, later, rfl, hid, hbound⟩
    rw [unboundRequests_append, unboundRequests]
    refine List.mem_append_right _ (List.mem_append_left _ ?_)
    exact hcall.mpr ⟨schema, rfl, hid, hbound⟩

/-! ## Without repetitions -/

/-- One more entry counts if it has not been there before. -/
theorem eraseDups_concat {α : Type} [DecidableEq α] (entries : List α) (entry : α) :
    (entries ++ [entry]).eraseDups =
      if entry ∈ entries then entries.eraseDups else entries.eraseDups ++ [entry] := by
  rw [List.eraseDups_append]
  by_cases h : entry ∈ entries
  · simp [List.removeAll, h]
  · simp [List.removeAll, h, List.eraseDups_cons]

/-! ## What a nesting holds -/

/-- The nesting holds what the calls say. -/
structure Records (settings : Settings) (trail : String) (calls : List (Call arena))
    (nesting : Nesting arena) : Prop where
  /-- names are put together from the settings -/
  settings : nesting.settings = settings
  /-- and the trail -/
  trail : nesting.trail = trail
  /-- a schema has the name it was bound to last -/
  outer : ∀ id, nesting.outerName? id = boundName? calls id
  /-- what was asked for without a name has become a class inside, once -/
  named : nesting.named.map (·.id) = (unboundRequests [] calls).eraseDups
  /-- numbers are places -/
  inStep : nesting.InStep
  /-- strangers are kept in order -/
  strangers : nesting.strangers = calls.filterMap Call.stranger?

theorem outerName?_enclose {other : NodeId} :
    (nesting.enclose other name).outerName? id =
      if other = id then some name else nesting.outerName? id := by
  by_cases h : other = id <;> simp [outerName?, enclose, h]

/-- A schema becomes a class inside if it has no name from outside and is none yet. -/
theorem ids_request (h : nesting.InStep) (schema : Schema arena) :
    (nesting.request schema).2.named.map (·.id) =
      if nesting.outerName? schema.id = none ∧ schema.id ∉ nesting.named.map (·.id) then
        nesting.named.map (·.id) ++ [schema.id]
      else nesting.named.map (·.id) := by
  have hnew : nesting.name? schema.id = none ↔
      nesting.outerName? schema.id = none ∧ schema.id ∉ nesting.named.map (·.id) := by
    rw [name?_eq_none, h.number?_eq_none]
  rcases hname : nesting.name? schema.id with _ | name
  · rw [request_of_new hname, if_pos (hnew.mp hname)]
    simp [handOut, register]
  · rw [request_of_name? hname, if_neg (mt hnew.mpr (hname ▸ Option.some_ne_none name))]
    rfl

namespace Records

variable {calls : List (Call arena)}

theorem enclose (h : Records settings trail calls nesting) (id : NodeId) (name : String) :
    Records settings trail (calls ++ [.enclose id name]) (nesting.enclose id name) where
  settings := h.settings
  trail := h.trail
  outer other := by
    rw [outerName?_enclose, boundName?_concat, Call.binding?, h.outer]
    by_cases hid : id = other <;> simp [hid]
  named := by
    rw [unboundRequests_concat, Call.unbound?, Option.toList_none, List.append_nil]
    exact h.named
  inStep := h.inStep
  strangers := by
    rw [List.filterMap_append, ← h.strangers]
    simp [Nesting.enclose, Call.stranger?]

theorem request (h : Records settings trail calls nesting) (schema : Schema arena) :
    Records settings trail (calls ++ [.request schema]) (nesting.request schema).2 where
  settings := (Later.request nesting schema).settings.trans h.settings
  trail := (Later.request nesting schema).trail.trans h.trail
  outer other := by
    rw [boundName?_concat, Call.binding?, Option.none_or, ← h.outer, outerName?, outerName?,
      (Later.request nesting schema).outer]
  named := by
    rw [ids_request h.inStep, h.outer, unboundRequests_concat, Call.unbound?, h.named]
    by_cases hbound : boundName? calls schema.id = none
    · rw [if_pos hbound, Option.toList_some, eraseDups_concat]
      by_cases hmem : schema.id ∈ unboundRequests [] calls <;> simp [hbound, hmem]
    · simp [hbound]
  inStep := h.inStep.request schema
  strangers := by
    rw [strangers_request, List.filterMap_append, ← h.strangers]
    simp [Call.stranger?]

theorem requestStranger (h : Records settings trail calls nesting) (id : NodeId) :
    Records settings trail (calls ++ [.requestStranger id]) (nesting.requestStranger id).2 where
  settings := h.settings
  trail := h.trail
  outer other := by
    rw [boundName?_concat, Call.binding?, Option.none_or, ← h.outer]
    rfl
  named := by
    rw [unboundRequests_concat, Call.unbound?, Option.toList_none, List.append_nil]
    exact h.named
  inStep := h.inStep
  strangers := by
    rw [List.filterMap_append, ← h.strangers]
    simp [Nesting.requestStranger, Call.stranger?]

/-- One more call is recorded. -/
theorem afterCall (h : Records settings trail calls nesting) (call : Call arena) :
    Records settings trail (calls ++ [call]) (nesting.afterCall call) := by
  cases call with
  | enclose id name => exact h.enclose id name
  | request schema => exact h.request schema
  | requestStranger id => exact h.requestStranger id

end Records

/-- A new nesting holds what it was told and asked since. -/
theorem records_session (settings : Settings) (trail : String) (calls : List (Call arena)) :
    Records settings trail calls (session settings trail calls) := by
  induction calls using List.reverseRecOn with
  | nil => exact ⟨rfl, rfl, fun _ => rfl, rfl, .of_untouched rfl rfl, rfl⟩
  | append_singleton calls call ih =>
    rw [session_concat]
    exact ih.afterCall call

/-! ## Numbers -/

/-- A number once given out stays. -/
theorem number?_afterCall (h : nesting.number? id = some number) (call : Call arena) :
    (nesting.afterCall call).number? id = some number := by
  cases call with
  | enclose other name => exact h
  | request schema => exact number?_request h schema
  | requestStranger other => exact h

theorem number?_session_append {calls : List (Call arena)}
    (h : (session settings trail calls).number? id = some number) (later : List (Call arena)) :
    (session settings trail (calls ++ later)).number? id = some number := by
  induction later using List.reverseRecOn with
  | nil => simpa using h
  | append_singleton later call ih =>
    rw [← List.append_assoc, session_concat]
    exact number?_afterCall ih call

theorem number?_session_cons {earlier : List (Call arena)} {call : Call arena}
    (h : (session settings trail (earlier ++ [call])).number? id = some number)
    (later : List (Call arena)) :
    (session settings trail (earlier ++ call :: later)).number? id = some number := by
  have hkept := number?_session_append h later
  rwa [List.append_assoc, List.singleton_append] at hkept

/-! ## Answers -/

/-- A schema that is bound to a name is answered with the last such name. -/
theorem answer_of_bound {calls : List (Call arena)} {schema : Schema arena}
    (h : boundName? calls schema.id = some name) :
    ((session settings trail calls).request schema).1 = ⟨name, []⟩ := by
  rw [request, (records_session settings trail calls).outer, h]
  rfl

/-- Any other schema gets a number with the request, if it has none, and is answered with the
name of its number. -/
theorem answer_of_unbound (settings : Settings) (trail : String) {calls : List (Call arena)}
    {schema : Schema arena} (h : boundName? calls schema.id = none) :
    ∃ number,
      (session settings trail (calls ++ [.request schema])).number? schema.id = some number ∧
      ((session settings trail calls).request schema).1 =
        ⟨settings.nestedName trail number, []⟩ := by
  have hafter := records_session settings trail (calls ++ [.request schema])
  have houter := hafter.outer schema.id
  rw [boundName?_concat, Call.binding?, Option.none_or, h] at houter
  obtain ⟨name, hanswer, hname⟩ := name?_request_self (session settings trail calls) schema
  change ((session settings trail calls).afterCall (.request schema)).name? schema.id = _ at hname
  rw [← session_concat, name?, houter, Option.none_or] at hname
  obtain ⟨number, hnumber, rfl⟩ := Option.map_eq_some_iff.mp hname
  refine ⟨number, hnumber, ?_⟩
  rw [hanswer, nestedName, hafter.settings, hafter.trail]

/-- A schema that is asked for again is answered with the same name, unless it was bound to a
name in between. -/
theorem answer_again {earlier between : List (Call arena)} {schema : Schema arena}
    (h : ∀ name, .enclose schema.id name ∉ between) :
    ((session settings trail (earlier ++ .request schema :: between)).request schema).1 =
      ((session settings trail earlier).request schema).1 := by
  have hbound : boundName? (earlier ++ .request schema :: between) schema.id =
      boundName? earlier schema.id := by
    refine boundName?_append earlier fun name hmem => ?_
    rcases List.mem_cons.mp hmem with hfirst | hmem
    · cases hfirst
    · exact h name hmem
  rcases hname : boundName? earlier schema.id with _ | name
  · obtain ⟨number, hnumber, hanswer⟩ := answer_of_unbound settings trail hname
    obtain ⟨again, hagain, hsecond⟩ := answer_of_unbound settings trail (hbound.trans hname)
    -- the first number is still there
    have hkept := number?_session_cons hnumber (between ++ [.request schema])
    rw [← List.cons_append, ← List.append_assoc, hagain] at hkept
    rw [hanswer, hsecond, Option.some.inj hkept]
  · rw [answer_of_bound hname, answer_of_bound (hbound.trans hname)]

/-- Different schemas that are bound to no name are answered with different names. -/
theorem answer_apart {earlier between : List (Call arena)} {one other : Schema arena}
    (hne : one.id ≠ other.id) (hone : boundName? earlier one.id = none)
    (hother : boundName? (earlier ++ .request one :: between) other.id = none) :
    ((session settings trail (earlier ++ .request one :: between)).request other).1 ≠
      ((session settings trail earlier).request one).1 := by
  obtain ⟨number, hnumber, hanswer⟩ := answer_of_unbound settings trail hone
  obtain ⟨second, hsecond, hanswer'⟩ := answer_of_unbound settings trail hother
  have hkept := number?_session_cons hnumber (between ++ [.request other])
  rw [← List.cons_append, ← List.append_assoc] at hkept
  have hrecords := records_session settings trail
    (earlier ++ .request one :: between ++ [.request other])
  intro hsame
  rw [hanswer, hanswer'] at hsame
  obtain rfl : second = number :=
    eq_of_toString_eq ((String.append_right_inj _).mp (congrArg TypeRef.base hsame))
  -- one place holds one schema
  have hfirst := ((hrecords.inStep _ _).mp hkept).2
  have hlast := ((hrecords.inStep _ _).mp hsecond).2
  exact hne (Option.some.inj (hfirst.symm.trans hlast))

/-! ## The classes inside -/

/-- Each numbered schema has become a class inside, under the name of its number. -/
theorem exists_trees_of_decls {decorators : List Decorator}
    (happ : ∀ decorator ∈ decorators, decorator.AppendsOnly) {classes : List ClassDecl}
    (h : nesting.decls decorators = .ok classes) :
    ∃ trees : List ClassTree, classes = trees.map (·.decl) ∧
      List.Forall₂ (fun entry tree => tree.schema = entry.1.id ∧
          tree.decl.name = nesting.nestedName entry.2)
        nesting.numbered trees := by
  rcases hs : nesting.strangers with _ | ⟨id, ids⟩
  · rcases htrees : nesting.trees decorators with error | trees
    · rw [decls, htrees] at h
      cases h
    · rw [decls, htrees] at h
      obtain rfl := Except.ok.inj h
      have hgrows : Grows decorators (nesting.sites decorators) (.ok trees) :=
        htrees ▸ trees_grows decorators nesting hs
      exact ⟨trees, ClassTree.decls_eq_map trees, hgrows.numbered happ⟩
  · rw [decls, trees, innerTrees_of_stranger decorators _ hs] at h
    cases h

/-! ## Whole sessions -/

/-- What holds of a session from which the classes inside are made by some decorators. -/
structure Orderly (decorators : List Decorator) (settings : Settings) (trail : String)
    (calls : List (Call arena)) : Prop where
  /-- the schemas asked for while they were bound to no name are registered once, in the order
  of their first such requests -/
  registered : (session settings trail calls).named.map (·.id) =
    (unboundRequests [] calls).eraseDups
  /-- no schema is registered twice -/
  distinct : ((session settings trail calls).named.map (·.id)).Nodup
  /-- exactly those are registered that are asked for where nothing before binds them -/
  mem_registered : ∀ id, id ∈ (session settings trail calls).named.map (·.id) ↔
    ∃ earlier schema later, calls = earlier ++ .request schema :: later ∧ schema.id = id ∧
      boundName? earlier id = none
  /-- the number kept for a schema is its place among the registered ones, counted from one -/
  place : ∀ id number, (session settings trail calls).number? id = some number ↔
    1 ≤ number ∧ ((session settings trail calls).named.map (·.id))[number - 1]? = some id
  /-- it never changes -/
  stays : ∀ earlier later, calls = earlier ++ later → ∀ id number,
    (session settings trail earlier).number? id = some number →
      (session settings trail calls).number? id = some number
  /-- a schema that is bound to a name is answered with the last such name -/
  bound : ∀ earlier schema later name, calls = earlier ++ .request schema :: later →
    boundName? earlier schema.id = some name →
      ((session settings trail earlier).request schema).1 = ⟨name, []⟩
  /-- any other is answered with the stem, the trail and its number -/
  unbound : ∀ earlier schema later, calls = earlier ++ .request schema :: later →
    boundName? earlier schema.id = none →
      ∃ number, (session settings trail calls).number? schema.id = some number ∧
        ((session settings trail earlier).request schema).1 = ⟨settings.nestedName trail number, []⟩
  /-- the next answer is the same, if the schema is not bound to a name in between -/
  again : ∀ earlier schema between later,
    calls = earlier ++ .request schema :: between ++ .request schema :: later →
    (∀ name, .enclose schema.id name ∉ between) →
      ((session settings trail (earlier ++ .request schema :: between)).request schema).1 =
        ((session settings trail earlier).request schema).1
  /-- different schemas that are bound to no name are answered differently -/
  apart : ∀ earlier one between other later,
    calls = earlier ++ .request one :: between ++ .request other :: later → one.id ≠ other.id →
    boundName? earlier one.id = none →
    boundName? (earlier ++ .request one :: between) other.id = none →
      ((session settings trail (earlier ++ .request one :: between)).request other).1 ≠
        ((session settings trail earlier).request one).1
  /-- a stranger is never registered, and gets no number -/
  stranger : ∀ earlier id later, calls = earlier ++ .requestStranger id :: later →
    (session settings trail (earlier ++ [.requestStranger id])).named =
        (session settings trail earlier).named ∧
      (session settings trail (earlier ++ [.requestStranger id])).number? =
        (session settings trail earlier).number?
  /-- after a request for a stranger no classes are made, and the first one is reported -/
  refused : ∀ id ids, calls.filterMap Call.stranger? = id :: ids →
    (session settings trail calls).decls decorators = .error (.misuse (.foreignSchema id))
  /-- otherwise the registered schemas get their classes one after the other -/
  made : calls.filterMap Call.stranger? = [] →
    (session settings trail calls).decls decorators =
      ClassTree.decls <$> ((session settings trail calls).sites decorators).mapM
        (Site.grow fun after => after.trees decorators)
  /-- which makes one class for each, in order, under the name of its number -/
  called : ∀ classes, (session settings trail calls).decls decorators = .ok classes →
    ∃ trees : List ClassTree, classes = trees.map (·.decl) ∧
      List.Forall₂ (fun entry tree =>
          (session settings trail calls).number? entry.1.id = some entry.2 ∧
            tree.schema = entry.1.id ∧ tree.decl.name = settings.nestedName trail entry.2)
        (session settings trail calls).numbered trees

/-- **Sessions are orderly**, whatever is called in whatever order, and whatever the classes
inside are decorated with, as long as the decorators only append. -/
theorem session_orderly {decorators : List Decorator}
    (happ : ∀ decorator ∈ decorators, decorator.AppendsOnly) (settings : Settings)
    (trail : String) (calls : List (Call arena)) : Orderly decorators settings trail calls := by
  have hrecords := records_session settings trail calls
  exact {
    registered := hrecords.named
    distinct := hrecords.inStep.nodup
    mem_registered := fun id => by rw [hrecords.named, List.mem_eraseDups, mem_unboundRequests]
    place := hrecords.inStep
    stays := by
      rintro earlier later rfl id number h
      exact number?_session_append h later
    bound := by
      rintro earlier schema later name - h
      exact answer_of_bound h
    unbound := by
      rintro earlier schema later rfl h
      obtain ⟨number, hnumber, hanswer⟩ := answer_of_unbound settings trail h
      exact ⟨number, number?_session_cons hnumber later, hanswer⟩
    again := by
      rintro earlier schema between later - h
      exact answer_again h
    apart := by
      rintro earlier one between other later - hne hone hother
      exact answer_apart hne hone hother
    stranger := by
      rintro earlier id later -
      rw [session_concat]
      exact ⟨rfl, rfl⟩
    refused := by
      intro id ids h
      rw [decls, trees, innerTrees_of_stranger decorators _ (hrecords.strangers.trans h)]
      rfl
    made := by
      intro h
      rw [decls, trees_eq_mapM decorators _ (hrecords.strangers.trans h)]
    called := by
      intro classes h
      obtain ⟨trees, rfl, hcalled⟩ := exists_trees_of_decls happ h
      refine ⟨trees, rfl, (List.forall₂_and_left _ _).mpr ⟨?_, ?_⟩⟩
      · exact fun entry hentry => hrecords.inStep.number?_of_mem_numbered hentry
      · refine hcalled.imp fun entry tree hentry => ⟨hentry.1, ?_⟩
        rw [hentry.2, nestedName, hrecords.settings, hrecords.trail] }

/-- The second schema of the ring is asked for, bound to a name, and asked for again; then the
third one is asked for. -/
def lateBinding : List (Call Arena.ring) :=
  [.request ⟨⟨1⟩, by decide⟩, .enclose ⟨1⟩ "Outer", .request ⟨⟨1⟩, by decide⟩,
    .request ⟨⟨2⟩, by decide⟩]

/-- The name comes too late: the schema keeps its number and its class. -/
theorem lateBinding_orderly :
    (∀ decorator ∈ Decorator.standard {}, decorator.AppendsOnly) ∧
      Orderly (Decorator.standard {}) {} "" lateBinding ∧
      (session {} "" lateBinding).named.map (·.id) = [⟨1⟩, ⟨2⟩] ∧
      (session {} "" lateBinding).answers =
        [(⟨1⟩, "NestedClass1"), (⟨1⟩, "Outer"), (⟨2⟩, "NestedClass2")] ∧
      ∃ classes, (session {} "" lateBinding).decls (Decorator.standard {}) = .ok classes ∧
        classes.map (·.name) = ["NestedClass1", "NestedClass2"] :=
  ⟨Decorator.standard_appendsOnly {}, session_orderly (Decorator.standard_appendsOnly {}) {} "" _,
    rfl, rfl, _, rfl, rfl⟩

end ApiClasses.Nesting
