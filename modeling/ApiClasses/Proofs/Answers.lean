import ApiClasses.Proofs.Requests

/-!
# Results under recorded answers

What a decoration ends in depends on the names it is given. A nesting records them, so
afterwards the result can be found without the nesting: given the names on record, one after
the other, the decoration asks for the schemas they are recorded for, and ends in the same
result (`run_replays`). Often it is enough that each name is on record somewhere
(`run_endsIn`). In this form a result can be taken apart along the program: where one program
follows another, both end in something under the same record (`endsIn_bind`).

The other thing a nesting takes from its decoration is what becomes a class inside, and
that is only what the decoration asks for (`run_asksOnly`).
-/

namespace ApiClasses

variable {arena : Arena} {α β : Type} {answers : List (NodeId × String)}
  {nesting after : Nesting arena} {m : Decoration arena α} {a : α} {b : β}

namespace Decoration

/-! ## Results -/

/-- The program asks for the listed schemas, in this order and for nothing else, and ends in
the result when each request is answered with the name beside its schema. -/
def Replays : Decoration arena α → (given : List (NodeId × String)) → (result : α) → Prop
  | done found, given, result => given = [] ∧ found = result
  | fail _, _, _ => False
  | request schema next, given, result =>
    ∃ name later, given = (schema.id, name) :: later ∧ (next ⟨name, []⟩).Replays later result
  | requestStranger _ _, _, _ => False

/-- The program ends in the result, if each request is answered with some name that is
listed for its schema; it asks for nothing else. -/
def EndsIn (answers : List (NodeId × String)) (result : α) : Decoration arena α → Prop
  | done found => found = result
  | fail _ => False
  | request schema next =>
    ∃ name, (schema.id, name) ∈ answers ∧ (next ⟨name, []⟩).EndsIn answers result
  | requestStranger _ _ => False

/-- In particular each request is answered with some name that is listed. -/
theorem Replays.endsIn {given : List (NodeId × String)} (h : m.Replays given a)
    (hlisted : given ⊆ answers) : m.EndsIn answers a := by
  induction m generalizing given with
  | done result => exact h.2
  | fail error => exact h.elim
  | request schema next ih =>
    obtain ⟨name, later, rfl, hlater⟩ := h
    obtain ⟨hname, hlisted⟩ := List.cons_subset.mp hlisted
    exact ⟨name, hname, ih _ hlater hlisted⟩
  | requestStranger id next ih => exact h.elim

/-- Of two programs in a row, the second one starts from what the first one ends in. -/
theorem endsIn_bind {f : α → Decoration arena β} :
    (m >>= f).EndsIn answers b ↔ ∃ a, m.EndsIn answers a ∧ (f a).EndsIn answers b := by
  induction m with
  | done result => exact ⟨fun h => ⟨result, rfl, h⟩, fun ⟨_, heq, h⟩ => heq ▸ h⟩
  | fail error => exact ⟨nofun, fun ⟨_, h, _⟩ => h⟩
  | request schema next ih =>
    constructor
    · rintro ⟨name, hname, h⟩
      obtain ⟨a, hfirst, hsecond⟩ := (ih _).mp h
      exact ⟨a, ⟨name, hname, hfirst⟩, hsecond⟩
    · rintro ⟨a, ⟨name, hname, hfirst⟩, hsecond⟩
      exact ⟨name, hname, (ih _).mpr ⟨a, hfirst, hsecond⟩⟩
  | requestStranger id next ih => exact ⟨nofun, fun ⟨_, h, _⟩ => h⟩

theorem endsIn_map {f : α → β} :
    (f <$> m).EndsIn answers b ↔ ∃ a, m.EndsIn answers a ∧ f a = b := by
  rw [map_eq_pure_bind]
  exact endsIn_bind

/-- Asking for a class ends in a name that is listed for its schema. -/
theorem endsIn_classOf {schema : Schema arena} {type : TypeRef} :
    (classOf schema).EndsIn answers type ↔
      ∃ name, (schema.id, name) ∈ answers ∧ ⟨name, []⟩ = type :=
  Iff.rfl

/-! ## Requests -/

/-- Whatever the answers are, only schemas with the property are asked for. -/
def AsksOnly (P : Schema arena → Prop) : Decoration arena α → Prop
  | done _ => True
  | fail _ => True
  | request schema next => P schema ∧ ∀ type, (next type).AsksOnly P
  | requestStranger _ next => ∀ type, (next type).AsksOnly P

theorem AsksOnly.imp {P Q : Schema arena → Prop} (h : m.AsksOnly P)
    (himp : ∀ schema, P schema → Q schema) : m.AsksOnly Q := by
  induction m with
  | done result => trivial
  | fail error => trivial
  | request schema next ih => exact ⟨himp _ h.1, fun type => ih type (h.2 type)⟩
  | requestStranger id next ih => exact fun type => ih type (h type)

theorem asksOnly_bind {P : Schema arena → Prop} {f : α → Decoration arena β} (hm : m.AsksOnly P)
    (hf : ∀ a, (f a).AsksOnly P) : (m >>= f).AsksOnly P := by
  induction m with
  | done result => exact hf result
  | fail error => trivial
  | request schema next ih => exact ⟨hm.1, fun type => ih type (hm.2 type)⟩
  | requestStranger id next ih => exact fun type => ih type (hm type)

theorem asksOnly_map {P : Schema arena → Prop} {f : α → β} (hm : m.AsksOnly P) :
    (f <$> m).AsksOnly P := by
  rw [map_eq_pure_bind]
  exact asksOnly_bind hm fun _ => trivial

/-- Steps in a row ask for what the steps ask for. -/
theorem asksOnly_foldlM {P : Schema arena → Prop} {f : α → β → Decoration arena α}
    {steps : List β} (hf : ∀ step ∈ steps, ∀ a, (f a step).AsksOnly P) (a : α) :
    (steps.foldlM f a).AsksOnly P := by
  induction steps generalizing a with
  | nil => trivial
  | cons step rest ih =>
    obtain ⟨hstep, hrest⟩ := List.forall_mem_cons.mp hf
    exact asksOnly_bind (hstep a) fun next => ih hrest next

end Decoration

/-! ## Runs -/

namespace Nesting

/-- Strangers are only ever added. -/
theorem run_strangers (h : nesting.run m = .ok (a, after)) :
    nesting.strangers <+: after.strangers :=
  run_keeps (P := fun later => nesting.strangers <+: later.strangers)
    (fun _ _ hkept => by rwa [strangers_request])
    (fun _ _ hkept => hkept.trans (List.prefix_append ..)) h List.prefix_rfl

/-- What a run hands out is what it puts on record: given this, the program asks for the same
and ends in the same result. -/
theorem run_replays (h : nesting.run m = .ok (a, after)) (hstrangers : after.strangers = []) :
    ∃ given, after.answers = nesting.answers ++ given ∧ m.Replays given a := by
  induction m generalizing nesting with
  | done result =>
    obtain ⟨rfl, rfl⟩ := Prod.mk.inj (Except.ok.inj h)
    exact ⟨[], (List.append_nil _).symm, rfl, rfl⟩
  | fail error => cases h
  | request schema next ih =>
    obtain ⟨name, hanswer, hrecord⟩ := answers_request nesting schema
    rw [run, hanswer] at h
    obtain ⟨later, hlater, hreplays⟩ := ih _ h
    exact ⟨(schema.id, name) :: later, by simp [hlater, hrecord], name, later, rfl, hreplays⟩
  | requestStranger id next ih =>
    -- a stranger would be on record
    have hrest : (nesting.requestStranger id).2.run (next (nesting.requestStranger id).1) =
      .ok (a, after) := h
    have hmem := (run_strangers hrest).subset (List.mem_append_right _ List.mem_cons_self)
    rw [hstrangers] at hmem
    exact absurd hmem List.not_mem_nil

/-- A run ends in what the record of its answers makes of the program. -/
theorem run_endsIn (h : nesting.run m = .ok (a, after)) (hstrangers : after.strangers = []) :
    m.EndsIn after.answers a := by
  obtain ⟨given, hrecord, hreplays⟩ := run_replays h hstrangers
  exact hreplays.endsIn (hrecord ▸ List.subset_append_right _ _)

/-! ## What was asked for -/

/-- What becomes a class inside was asked for. -/
theorem run_asksOnly {P : Schema arena → Prop} (h : nesting.run m = .ok (a, after))
    (hasks : m.AsksOnly P) (hnamed : ∀ schema ∈ nesting.named, P schema) :
    ∀ schema ∈ after.named, P schema := by
  induction m generalizing nesting with
  | done result =>
    obtain ⟨-, rfl⟩ := Prod.mk.inj (Except.ok.inj h)
    exact hnamed
  | fail error => cases h
  | request schema next ih =>
    refine ih _ h (hasks.2 _) ?_
    refine request_keeps (P := fun later => ∀ schema ∈ later.named, P schema) nesting schema
      (fun _ _ => hnamed) fun _ other hother => ?_
    rcases List.mem_append.mp hother with hother | hother
    · exact hnamed other hother
    · exact List.mem_singleton.mp hother ▸ hasks.1
  | requestStranger id next ih => exact ih _ h (hasks _) hnamed

end Nesting

end ApiClasses
