import ApiClasses.Nesting
import Mathlib.Data.List.Nodup

/-!
# What requests leave behind

A decoration reaches its nesting through requests alone, so what every request
keeps, a whole run keeps (`run_keeps`). A request for a schema that has a name is
answered with that name, and otherwise with the one it gets (`request_of_name?`,
`request_of_new`). Three things are kept this way:

* `Later` — the names from outside stay as they are, and schemas are only ever
  added to those that become classes inside;
* `InStep` — the number of such a schema is its place among them;
* `Tidy` — no schema becomes a class inside while an outer class stands for it,
  and every name given out still stands for its schema.
-/

namespace ApiClasses.Nesting

variable {arena : Arena} {α : Type}

/-! ## Looking names up -/

theorem mem_outer_of_outerName? {nesting : Nesting arena} {id : NodeId} {name : String}
    (h : nesting.outerName? id = some name) : (id, name) ∈ nesting.outer := by
  obtain ⟨entry, hfind, hname⟩ := Option.map_eq_some_iff.mp h
  have hid : entry.1 = id := by simpa using List.find?_some hfind
  have hmem := List.mem_of_find?_eq_some hfind
  rwa [← hid, ← hname]

theorem outerName?_eq_none {nesting : Nesting arena} {id : NodeId} :
    nesting.outerName? id = none ↔ id ∉ nesting.outer.map (·.1) := by
  simp only [outerName?, Option.map_eq_none_iff, List.find?_eq_none, beq_iff_eq, List.mem_map,
    not_exists, not_and]

theorem mem_numbered {nesting : Nesting arena} {schema : Schema arena} {number : Nat} :
    (schema, number) ∈ nesting.numbered ↔
      1 ≤ number ∧ nesting.named[number - 1]? = some schema := by
  rw [numbered, List.mk_mem_zipIdx_iff_le_and_getElem?_sub]

theorem mem_outerInside {nesting : Nesting arena} {id : NodeId} {name : String} :
    (id, name) ∈ nesting.outerInside ↔
      (∃ schema number, (schema, number) ∈ nesting.numbered ∧ schema.id = id ∧
        nesting.nestedName number = name) ∨ (id, name) ∈ nesting.outer := by
  simp [outerInside]

/-- The name that stands for a schema: it comes from outside, or it is the name of the
schema's number. -/
def name? (nesting : Nesting arena) (id : NodeId) : Option String :=
  (nesting.outerName? id).or ((nesting.number? id).map nesting.nestedName)

theorem name?_eq_none {nesting : Nesting arena} {id : NodeId} :
    nesting.name? id = none ↔ nesting.outerName? id = none ∧ nesting.number? id = none := by
  rw [name?, Option.or_eq_none_iff, Option.map_eq_none_iff]

/-! ## Requests -/

section Request

variable {nesting : Nesting arena} {schema : Schema arena} {name : String}

/-- A schema that has a name is answered with it. -/
theorem request_of_name? (h : nesting.name? schema.id = some name) :
    nesting.request schema = nesting.handOut schema.id name := by
  rw [name?] at h
  rw [request]
  rcases houter : nesting.outerName? schema.id with _ | bound
  · rw [houter, Option.none_or] at h
    obtain ⟨number, hnumber, rfl⟩ := Option.map_eq_some_iff.mp h
    rw [hnumber]
  · rw [houter, Option.some_or] at h
    rw [Option.some.inj h]

/-- Any other one becomes a class inside, and is answered with the name of its number. -/
theorem request_of_new (h : nesting.name? schema.id = none) :
    nesting.request schema = (nesting.register schema).handOut schema.id
      (nesting.nestedName (nesting.named.length + 1)) := by
  obtain ⟨houter, hnumber⟩ := name?_eq_none.mp h
  rw [request, houter, hnumber]

/-- What every request keeps follows from what the two kinds of requests keep. -/
theorem request_keeps {P : Nesting arena → Prop} (nesting : Nesting arena) (schema : Schema arena)
    (known : ∀ name, nesting.name? schema.id = some name → P (nesting.handOut schema.id name).2)
    (new : nesting.name? schema.id = none →
      P ((nesting.register schema).handOut schema.id
        (nesting.nestedName (nesting.named.length + 1))).2) :
    P (nesting.request schema).2 := by
  rcases hname : nesting.name? schema.id with _ | name
  · rw [request_of_new hname]
    exact new hname
  · rw [request_of_name? hname]
    exact known name hname

theorem strangers_request (nesting : Nesting arena) (schema : Schema arena) :
    (nesting.request schema).2.strangers = nesting.strangers :=
  request_keeps (P := fun later => later.strangers = nesting.strangers) nesting schema
    (fun _ _ => rfl) fun _ => rfl

theorem number?_register {id : NodeId} : (nesting.register schema).number? id =
    if schema.id = id then some (nesting.named.length + 1) else nesting.number? id := by
  by_cases h : schema.id = id <;> simp [number?, register, h]

/-- A number once given out stays. -/
theorem number?_request {id : NodeId} {number : Nat} (h : nesting.number? id = some number)
    (schema : Schema arena) : (nesting.request schema).2.number? id = some number := by
  refine request_keeps (P := fun later => later.number? id = some number) nesting schema
    (fun _ _ => h) fun hnew => ?_
  change (nesting.register schema).number? id = some number
  rw [number?_register, if_neg, h]
  rintro rfl
  rw [(name?_eq_none.mp hnew).2] at h
  cases h

/-- A schema that has a name keeps it… -/
theorem name?_request {id : NodeId} (h : nesting.name? id = some name) (schema : Schema arena) :
    (nesting.request schema).2.name? id = some name := by
  refine request_keeps (P := fun later => later.name? id = some name) nesting schema
    (fun _ _ => h) fun hnew => ?_
  change (nesting.register schema).name? id = some name
  rw [name?, number?_register, if_neg]
  · exact h
  · rintro rfl
    rw [hnew] at h
    cases h

/-- …and after its request every schema has the one it was answered with. -/
theorem name?_request_self (nesting : Nesting arena) (schema : Schema arena) :
    ∃ name, (nesting.request schema).1 = ⟨name, []⟩ ∧
      (nesting.request schema).2.name? schema.id = some name := by
  rcases hname : nesting.name? schema.id with _ | name
  · rw [request_of_new hname]
    refine ⟨_, rfl, ?_⟩
    change (nesting.register schema).name? schema.id = _
    rw [name?, number?_register, if_pos rfl]
    have houter : (nesting.register schema).outerName? schema.id = none :=
      (name?_eq_none.mp hname).1
    rw [houter]
    rfl
  · rw [request_of_name? hname]
    exact ⟨name, rfl, hname⟩

end Request

/-! ## Runs -/

/-- Whatever every single request keeps, a run keeps. -/
theorem run_keeps {P : Nesting arena → Prop}
    (own : ∀ nesting schema, P nesting → P (nesting.request schema).2)
    (stranger : ∀ nesting id, P nesting → P (nesting.requestStranger id).2)
    {nesting after : Nesting arena} {m : Decoration arena α} {a : α}
    (h : nesting.run m = .ok (a, after)) (hP : P nesting) : P after := by
  induction m generalizing nesting with
  | done result =>
    obtain ⟨-, rfl⟩ := Prod.mk.inj (Except.ok.inj h)
    exact hP
  | fail error => cases h
  | request schema next ih => exact ih _ h (own _ _ hP)
  | requestStranger id next ih => exact ih _ h (stranger _ _ hP)

/-- What a run may change, from `before` to `after`. -/
structure Later (before after : Nesting arena) : Prop where
  /-- names are put together as before -/
  settings : after.settings = before.settings
  /-- the class under decoration is the same -/
  trail : after.trail = before.trail
  /-- nothing is bound from outside -/
  outer : after.outer = before.outer
  /-- schemas are added at the end -/
  named : before.named <+: after.named

namespace Later

variable {before after : Nesting arena}

theorem refl (nesting : Nesting arena) : Later nesting nesting :=
  ⟨rfl, rfl, rfl, List.prefix_rfl⟩

theorem trans {last : Nesting arena} (h₁ : Later before after) (h₂ : Later after last) :
    Later before last :=
  ⟨h₂.settings.trans h₁.settings, h₂.trail.trans h₁.trail, h₂.outer.trans h₁.outer,
    h₁.named.trans h₂.named⟩

theorem request (nesting : Nesting arena) (schema : Schema arena) :
    Later nesting (nesting.request schema).2 :=
  request_keeps nesting schema (fun _ _ => ⟨rfl, rfl, rfl, List.prefix_rfl⟩)
    fun _ => ⟨rfl, rfl, rfl, List.prefix_append ..⟩

theorem nestedName (h : Later before after) (number : Nat) :
    after.nestedName number = before.nestedName number := by
  rw [Nesting.nestedName, Nesting.nestedName, h.settings, h.trail]

/-- Numbers that are given out stay. -/
theorem mem_numbered (h : Later before after) {schema : Schema arena} {number : Nat}
    (hmem : (schema, number) ∈ before.numbered) : (schema, number) ∈ after.numbered := by
  obtain ⟨hpos, hget⟩ := Nesting.mem_numbered.mp hmem
  obtain ⟨hlt, -⟩ := List.getElem?_eq_some_iff.mp hget
  refine Nesting.mem_numbered.mpr ⟨hpos, ?_⟩
  rw [List.prefix_iff_getElem?.mp h.named _ hlt, ← hget, List.getElem?_eq_getElem hlt]

/-- Names that the classes inside are going to see stay. -/
theorem mem_outerInside (h : Later before after) {id : NodeId} {name : String}
    (hmem : (id, name) ∈ before.outerInside) : (id, name) ∈ after.outerInside := by
  refine Nesting.mem_outerInside.mpr ?_
  rcases Nesting.mem_outerInside.mp hmem with ⟨schema, number, hnum, hid, hname⟩ | houter
  · exact .inl ⟨schema, number, h.mem_numbered hnum, hid, (h.nestedName number).trans hname⟩
  · exact .inr (h.outer ▸ houter)

end Later

theorem run_later {before after : Nesting arena} {m : Decoration arena α} {a : α}
    (h : before.run m = .ok (a, after)) : Later before after :=
  run_keeps (P := Later before) (fun _ schema hl => hl.trans (Later.request _ schema))
    (fun _ _ hl => ⟨hl.settings, hl.trail, hl.outer, hl.named⟩) h (Later.refl before)

/-! ## Numbers and places -/

/-- The two records of what becomes a class inside are in step: the number of a
schema is its place, counted from one. -/
def InStep (nesting : Nesting arena) : Prop :=
  ∀ id number, nesting.number? id = some number ↔
    1 ≤ number ∧ (nesting.named.map (·.id))[number - 1]? = some id

namespace InStep

variable {nesting : Nesting arena} {id : NodeId} {number : Nat}

/-- Nothing is numbered at first. -/
theorem of_untouched (hnumbers : nesting.numbers = []) (hnamed : nesting.named = []) :
    nesting.InStep := by
  simp [InStep, number?, hnumbers, hnamed]

/-- Exactly the schemas that become classes inside have numbers. -/
theorem number?_eq_none (h : nesting.InStep) :
    nesting.number? id = none ↔ id ∉ nesting.named.map (·.id) := by
  constructor
  · intro hnone hmem
    obtain ⟨i, hi⟩ := List.mem_iff_getElem?.mp hmem
    have hnumber := (h id (i + 1)).mpr ⟨by omega, hi⟩
    rw [hnone] at hnumber
    cases hnumber
  · intro hmem
    refine Option.eq_none_iff_forall_ne_some.mpr fun number hnumber => hmem ?_
    exact List.mem_of_getElem? ((h id number).mp hnumber).2

/-- No schema becomes a class inside twice. -/
theorem nodup (h : nesting.InStep) : (nesting.named.map (·.id)).Nodup := by
  refine List.nodup_iff_getElem?_ne_getElem?.mpr fun i j hij hj hsame => ?_
  have hi := List.getElem?_eq_getElem (Nat.lt_trans hij hj)
  have hone := (h _ (i + 1)).mpr ⟨by omega, hi⟩
  have hother := (h _ (j + 1)).mpr ⟨by omega, hsame.symm.trans hi⟩
  have := Option.some.inj (hone.symm.trans hother)
  omega

/-- A schema with a number is among the numbered ones. -/
theorem mem_numbered (h : nesting.InStep) (hnumber : nesting.number? id = some number) :
    ∃ schema, schema.id = id ∧ (schema, number) ∈ nesting.numbered := by
  obtain ⟨hpos, hplace⟩ := (h id number).mp hnumber
  rw [List.getElem?_map] at hplace
  obtain ⟨schema, hget, hid⟩ := Option.map_eq_some_iff.mp hplace
  exact ⟨schema, hid, Nesting.mem_numbered.mpr ⟨hpos, hget⟩⟩

/-- What is numbered has its number. -/
theorem number?_of_mem_numbered (h : nesting.InStep) {schema : Schema arena}
    (hmem : (schema, number) ∈ nesting.numbered) : nesting.number? schema.id = some number := by
  obtain ⟨hpos, hget⟩ := Nesting.mem_numbered.mp hmem
  refine (h schema.id number).mpr ⟨hpos, ?_⟩
  rw [List.getElem?_map, hget, Option.map_some]

/-- One more schema gets the number of the last place. -/
theorem register (h : nesting.InStep) {schema : Schema arena}
    (hnew : nesting.number? schema.id = none) : (nesting.register schema).InStep := by
  have hids : (nesting.register schema).named.map (·.id) =
      nesting.named.map (·.id) ++ [schema.id] := by
    simp [Nesting.register]
  have hlength : (nesting.named.map (·.id)).length = nesting.named.length := List.length_map _
  intro id number
  rw [number?_register, hids]
  by_cases hid : schema.id = id
  · subst hid
    have hmem := h.number?_eq_none.mp hnew
    rw [if_pos rfl, Option.some.injEq]
    constructor
    · rintro rfl
      refine ⟨by omega, ?_⟩
      rw [Nat.add_sub_cancel, ← hlength, List.getElem?_concat_length]
    · rintro ⟨hpos, hplace⟩
      -- the schema stands at no earlier place
      rcases Nat.lt_or_ge (number - 1) (nesting.named.map (·.id)).length with hlt | hge
      · rw [List.getElem?_append_left hlt] at hplace
        exact absurd (List.mem_of_getElem? hplace) hmem
      · obtain ⟨hlast, -⟩ := List.getElem?_eq_some_iff.mp hplace
        rw [List.length_append, List.length_singleton] at hlast
        omega
  · rw [if_neg hid, h id number]
    refine and_congr_right fun hpos => ?_
    rcases Nat.lt_or_ge (number - 1) (nesting.named.map (·.id)).length with hlt | hge
    · rw [List.getElem?_append_left hlt]
    · rw [List.getElem?_append_right hge, List.getElem?_eq_none hge]
      simp [List.getElem?_singleton, hid]

/-- A request keeps the step. -/
theorem request (h : nesting.InStep) (schema : Schema arena) :
    (nesting.request schema).2.InStep :=
  request_keeps nesting schema (fun _ _ => h) fun hnew => h.register (name?_eq_none.mp hnew).2

end InStep

/-! ## Answers -/

/-- The order that requests keep in a nesting. -/
structure Tidy (nesting : Nesting arena) : Prop where
  /-- no outer class stands for a schema that becomes a class inside -/
  unseen : ∀ schema ∈ nesting.named, nesting.outerName? schema.id = none
  /-- numbers are places -/
  inStep : nesting.InStep
  /-- every name given out still stands for its schema -/
  agreed : ∀ entry ∈ nesting.answers, nesting.name? entry.1 = some entry.2

namespace Tidy

variable {nesting : Nesting arena}

/-- The classes inside are going to see every name given out. -/
theorem answered (h : nesting.Tidy) : ∀ entry ∈ nesting.answers, entry ∈ nesting.outerInside := by
  rintro ⟨id, name⟩ hentry
  have hname := h.agreed _ hentry
  refine mem_outerInside.mpr ?_
  rcases houter : nesting.outerName? id with _ | bound
  · left
    rw [name?, houter, Option.none_or] at hname
    obtain ⟨number, hnumber, hname⟩ := Option.map_eq_some_iff.mp hname
    obtain ⟨schema, hid, hmem⟩ := h.inStep.mem_numbered hnumber
    exact ⟨schema, number, hmem, hid, hname⟩
  · right
    rw [name?, houter, Option.some_or] at hname
    exact mem_outer_of_outerName? (houter.trans hname)

theorem request (h : nesting.Tidy) (schema : Schema arena) : (nesting.request schema).2.Tidy where
  unseen := by
    refine request_keeps
      (P := fun later => ∀ other ∈ later.named, later.outerName? other.id = none)
      nesting schema (fun _ _ => h.unseen) fun hnew => ?_
    intro other hmem
    rcases List.mem_append.mp hmem with hmem | hmem
    · exact h.unseen other hmem
    · obtain rfl := List.mem_singleton.mp hmem
      exact (name?_eq_none.mp hnew).1
  inStep := h.inStep.request schema
  agreed := by
    intro entry hmem
    obtain ⟨name, hanswer, hrecord⟩ := answers_request nesting schema
    rw [hrecord] at hmem
    rcases List.mem_append.mp hmem with hmem | hmem
    · exact name?_request (h.agreed entry hmem) schema
    · obtain rfl := List.mem_singleton.mp hmem
      obtain ⟨_, hself, hname⟩ := name?_request_self nesting schema
      rw [hanswer] at hself
      rwa [(TypeRef.mk.inj hself).1]

/-- A run leaves a tidy nesting tidy. -/
theorem run {before after : Nesting arena} {m : Decoration arena α} {a : α} (h : before.Tidy)
    (hrun : before.run m = .ok (a, after)) : after.Tidy :=
  run_keeps (fun _ schema ht => ht.request schema)
    (fun _ _ ht => ⟨ht.unseen, ht.inStep, ht.agreed⟩) hrun h

/-- Nothing is asked for before the decoration starts. -/
theorem of_untouched (hnumbers : nesting.numbers = []) (hnamed : nesting.named = [])
    (hanswers : nesting.answers = []) : nesting.Tidy :=
  ⟨by simp [hnamed], .of_untouched hnumbers hnamed, by simp [hanswers]⟩

end Tidy

end ApiClasses.Nesting
