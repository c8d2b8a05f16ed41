import ApiClasses.Json.Pointer
import ApiClasses.Json.Reader

/-!
# No key twice

A repeated key in a text takes the place of the earlier one, so in a value that was
read every object holds each of its keys once, however deep inside it is
(`Json.read_uniqueKeys`). Hence a member is found again under its own key.
-/

namespace ApiClasses.Json

open Pointer (follow? step?)

/-! ## Objects at every depth -/

/-- Every object inside the value, the value included, holds each key once. -/
def UniqueKeys (value : Json) : Prop :=
  ∀ tokens members, follow? value tokens = some (.object members) → (Members.keys members).Nodup

theorem UniqueKeys.nodup {root : Json} {pointer : String} {members : Members}
    (h : root.UniqueKeys) (hresolve : Pointer.resolve? root pointer = some (.object members)) :
    members.keys.Nodup := by
  obtain ⟨tokens, -, hfollow⟩ := Option.bind_eq_some_iff.mp hresolve
  exact h tokens members hfollow

theorem Members.mem_of_get? {members : Members} {key : String} {value : Json}
    (h : members.get? key = some value) : (key, value) ∈ members := by
  obtain ⟨entry, hfind, hvalue⟩ := Option.map_eq_some_iff.mp h
  have hkey : entry.1 = key := by simpa using List.find?_some hfind
  have hmem := List.mem_of_find?_eq_some hfind
  rwa [← hkey, ← hvalue]

/-- A member is found under its key, if no other has the key. -/
theorem Members.get?_eq_some_of_mem {members : Members} {key : String} {value : Json}
    (h : members.keys.Nodup) (hmem : (key, value) ∈ members) :
    members.get? key = some value := by
  induction members with
  | nil => cases hmem
  | cons entry rest ih =>
    obtain ⟨k, v⟩ := entry
    obtain ⟨hnew, hrest⟩ := List.nodup_cons.mp h
    rcases List.mem_cons.mp hmem with heq | hmem
    · obtain ⟨rfl, rfl⟩ := Prod.mk.inj heq
      simp [get?]
    · have hne : k ≠ key := by
        rintro rfl
        exact hnew (List.mem_map.mpr ⟨(k, value), hmem, rfl⟩)
      have := ih hrest hmem
      simpa [get?, hne] using this

/-- A member's value is smaller than the object. -/
theorem Members.sizeOf_lt {members : Members} {key : String} {value : Json}
    (h : (key, value) ∈ members) : sizeOf value < sizeOf (object members) := by
  have hlt := List.sizeOf_lt_of_mem h
  simp only [Prod.mk.sizeOf_spec, object.sizeOf_spec] at hlt ⊢
  omega

/-- What is put under a key joins the values that are there. -/
theorem Members.mem_put {members : Members} {key : String} {value : Json}
    {entry : String × Json} (h : entry ∈ members.put key value) :
    entry ∈ members ∨ entry.2 = value := by
  induction members with
  | nil =>
    obtain rfl := List.mem_singleton.mp h
    exact .inr rfl
  | cons first rest ih =>
    obtain ⟨k, v⟩ := first
    rw [put] at h
    by_cases hk : k == key
    · rw [if_pos hk] at h
      rcases List.mem_cons.mp h with rfl | h
      · exact .inr rfl
      · exact .inl (List.mem_cons_of_mem _ h)
    · rw [if_neg hk] at h
      rcases List.mem_cons.mp h with rfl | h
      · exact .inl List.mem_cons_self
      · exact (ih h).imp_left (List.mem_cons_of_mem _)

/-- A value that nothing leads into holds no object inside. -/
theorem uniqueKeys_of_leaf {value : Json} (hobject : value.members? = none)
    (hstep : ∀ token, step? value token = none) : value.UniqueKeys := by
  rintro (_ | ⟨token, tokens⟩) members h
  · obtain rfl := Option.some.inj h
    cases hobject
  · rw [follow?, hstep token] at h
    cases h

theorem uniqueKeys_array {elements : List Json} (h : ∀ element ∈ elements, element.UniqueKeys) :
    (array elements).UniqueKeys := by
  rintro (_ | ⟨token, tokens⟩) members hfollow
  · cases hfollow
  · obtain ⟨element, hstep, hrest⟩ := Option.bind_eq_some_iff.mp hfollow
    obtain ⟨index, -, hget⟩ := Option.bind_eq_some_iff.mp hstep
    exact h element (List.mem_of_getElem? hget) tokens members hrest

theorem uniqueKeys_object {members : Members} (hkeys : members.keys.Nodup)
    (h : ∀ entry ∈ members, entry.2.UniqueKeys) : (object members).UniqueKeys := by
  rintro (_ | ⟨token, tokens⟩) inner hfollow
  · obtain ⟨rfl⟩ := Option.some.inj hfollow
    exact hkeys
  · obtain ⟨value, hstep, hrest⟩ := Option.bind_eq_some_iff.mp hfollow
    exact h _ (Members.mem_of_get? hstep) tokens inner hrest

/-! ## Readers -/

/-- Whatever the reader gives has the property. -/
def Reading.Gives {α : Type} (P : α → Prop) (reader : Reading α) : Prop :=
  ∀ ⦃text a rest⦄, reader text = .ok (a, rest) → P a

namespace Reading

variable {α β : Type} {P : β → Prop} {Q : α → Prop}

theorem gives_pure {b : β} (h : P b) : Gives P (pure b) := by
  rintro text _ rest ⟨⟩
  exact h

theorem gives_stop (reason : Reason) : Gives P (stop reason) := by
  rintro text b rest ⟨⟩

theorem Gives.bind {reader : Reading α} {next : α → Reading β} (hQ : Gives Q reader)
    (hP : ∀ a, Q a → Gives P (next a)) : Gives P (reader >>= next) := by
  intro text b rest h
  rcases hread : reader text with stopped | ⟨a, left⟩
  · simp [Bind.bind, StateT.bind, Except.bind, hread] at h
  · simp only [Bind.bind, StateT.bind, Except.bind, hread] at h
    exact hP a (hQ hread) h

/-- Nothing needs to be known of what is read first. -/
theorem gives_bind {reader : Reading α} {next : α → Reading β} (h : ∀ a, Gives P (next a)) :
    Gives P (reader >>= next) :=
  Gives.bind (fun _ _ _ _ => trivial) fun a (_ : True) => h a

end Reading

open Reading

/-- With so many rounds, whatever is read holds each key once. -/
structure ReadsUniqueKeys (rounds : Nat) : Prop where
  /-- any value -/
  value : ∀ depth, Gives UniqueKeys (Json.value rounds depth)
  /-- an array, if the elements so far do -/
  elements : ∀ depth acc, (∀ element ∈ acc, element.UniqueKeys) →
    Gives UniqueKeys (Json.elements rounds depth acc)
  /-- an object, if the members so far do and no key came twice -/
  members : ∀ depth acc, (Members.keys acc).Nodup → (∀ entry ∈ acc, entry.2.UniqueKeys) →
    Gives UniqueKeys (Json.members rounds depth acc)

namespace ReadsUniqueKeys

variable {rounds : Nat} (h : ReadsUniqueKeys rounds)

include h

/-- One round more for a value. -/
theorem value_succ (depth : Nat) : Gives UniqueKeys (Json.value (rounds + 1) depth) := by
  have leaf {value : Json} (hobject : value.members? = none)
      (hstep : ∀ token, step? value token = none) : Gives UniqueKeys (pure value) :=
    gives_pure (uniqueKeys_of_leaf hobject hstep)
  rw [Json.value.eq_def]
  dsimp only
  -- the first character tells what kind of value comes
  refine gives_bind fun _ => gives_bind fun next => ?_
  split
  · exact gives_stop _
  · exact gives_bind fun _ => leaf rfl fun _ => rfl
  · exact gives_bind fun _ => leaf rfl fun _ => rfl
  · exact gives_bind fun _ => leaf rfl fun _ => rfl
  · exact gives_bind fun _ => gives_bind fun _ => leaf rfl fun _ => rfl
  · exact gives_bind fun _ => leaf rfl fun _ => rfl
  · cases depth with
    | zero => exact gives_stop _
    | succ depth => exact gives_bind fun _ => h.elements depth [] (by simp)
  · cases depth with
    | zero => exact gives_stop _
    | succ depth => exact gives_bind fun _ => h.members depth [] (by simp) (by simp)
  · split
    · exact gives_bind fun _ => leaf rfl fun _ => rfl
    · exact gives_stop _

/-- One round more for the elements of an array. -/
theorem elements_succ (depth : Nat) (acc : List Json) (hacc : ∀ element ∈ acc, element.UniqueKeys) :
    Gives UniqueKeys (Json.elements (rounds + 1) depth acc) := by
  have step : Gives UniqueKeys (do
      let element ← Json.value rounds depth
      Json.elements rounds depth (element :: acc)) := by
    refine (h.value depth).bind fun element helement => ?_
    exact h.elements depth _ (List.forall_mem_cons.mpr ⟨helement, hacc⟩)
  rw [Json.elements]
  refine gives_bind fun _ => gives_bind fun next => ?_
  split
  · exact gives_stop _
  · refine gives_bind fun _ => gives_pure (uniqueKeys_array ?_)
    simpa using hacc
  · split
    · exact gives_bind fun _ => step
    · exact step

/-- One round more for the members of an object. -/
theorem members_succ (depth : Nat) (acc : Members) (hkeys : acc.keys.Nodup)
    (hacc : ∀ entry ∈ acc, entry.2.UniqueKeys) :
    Gives UniqueKeys (Json.members (rounds + 1) depth acc) := by
  have member : Gives UniqueKeys (do
      let key ← stringValue
      colon
      let member ← Json.value rounds depth
      Json.members rounds depth (acc.put key member)) := by
    refine gives_bind fun key => gives_bind fun _ => (h.value depth).bind fun value hvalue => ?_
    -- a key that comes again is put in the place of the first
    refine h.members depth _ (Members.nodup_keys_put key value hkeys) fun entry hmem => ?_
    rcases Members.mem_put hmem with hold | hnew
    · exact hacc entry hold
    · exact hnew ▸ hvalue
  have step : Gives UniqueKeys (do
      if (← peek?) != some '"' then stop .keyNotString
      let key ← stringValue
      colon
      let member ← Json.value rounds depth
      Json.members rounds depth (acc.put key member)) := by
    refine gives_bind fun quote => ?_
    split
    · exact gives_bind fun _ => member
    · exact member
  rw [Json.members]
  refine gives_bind fun _ => gives_bind fun next => ?_
  split
  · exact gives_stop _
  · exact gives_bind fun _ => gives_pure (uniqueKeys_object hkeys hacc)
  · split
    · exact gives_bind fun _ => step
    · exact step

end ReadsUniqueKeys

theorem readsUniqueKeys (rounds : Nat) : ReadsUniqueKeys rounds := by
  induction rounds with
  | zero => exact ⟨fun _ => gives_stop _, fun _ _ _ => gives_stop _, fun _ _ _ _ => gives_stop _⟩
  | succ rounds ih => exact ⟨ih.value_succ, ih.elements_succ, ih.members_succ⟩

/-- In a value that was read, every object holds each key once. -/
theorem read_uniqueKeys {text : String} {root : Json} (h : read text = .ok root) :
    root.UniqueKeys := by
  have hdocument (rounds : Nat) : Gives UniqueKeys (document rounds) := by
    refine ((readsUniqueKeys rounds).value deepest).bind fun value hvalue => ?_
    refine gives_bind fun _ => gives_bind fun left => ?_
    split
    · exact gives_bind fun _ => gives_pure hvalue
    · exact gives_pure hvalue
  rw [read] at h
  dsimp only [StateT.run] at h
  split at h
  · next hread =>
    obtain rfl := Except.ok.inj h
    exact hdocument _ hread
  · cases h

end ApiClasses.Json
