import ApiClasses.Schema.Classes
import Mathlib.Logic.Relation

/-!
# Chains of properties held by value

The search for a chain opens schemas off a stack until the goal comes up. It finds a
chain exactly if there is one (`leadsTo_iff`).

What it finds is there, since whatever is on the stack was put there by a chain. That it
misses none rests on two things. At any time a property of an opened schema is opened
itself or waits on the stack (`Covered`), so an empty stack means that the opened
schemas lead to each other only. And the steps suffice, because they are as many as
there are entries on the stack and properties still to be put on it (`unopened`).
-/

namespace ApiClasses

open Relation (ReflTransGen)

variable {arena : Arena} {schema last : Schema arena} {goal : NodeId} {opened : List NodeId}
  {stack : List (Schema arena)} {steps start : Nat} {node : Node} {nodes : List Node}

/-- A property of the first schema holds the second one by value. -/
def Schema.Holds (schema held : Schema arena) : Prop := held ∈ schema.byValueProperties

/-! ## What is left to open -/

/-- The number of properties of the nodes that are not opened yet, `start` being the
index of the first of them. -/
def unopened (opened : List NodeId) : (start : Nat) → List Node → Nat
  | _, [] => 0
  | start, node :: rest =>
    (if opened.contains ⟨start⟩ then 0 else node.shape.properties.length) +
      unopened opened (start + 1) rest

/-- At first all properties are left. -/
theorem unopened_nil (start : Nat) (nodes : List Node) :
    unopened [] start nodes =
      nodes.foldr (fun node count => node.shape.properties.length + count) 0 := by
  induction nodes generalizing start with
  | nil => rfl
  | cons node rest ih => simp [unopened, ih]

/-- Opening a node before the first changes nothing. -/
theorem unopened_cons_of_lt {index : Nat} (h : index < start) :
    unopened (⟨index⟩ :: opened) start nodes = unopened opened start nodes := by
  induction nodes generalizing start with
  | nil => rfl
  | cons node rest ih =>
    have hne : start ≠ index := by omega
    simp [unopened, ih (Nat.lt_succ_of_lt h), hne]

/-- Opening a node takes its properties off. -/
theorem unopened_cons {index : Nat} (hnode : nodes[index]? = some node)
    (hnew : ⟨start + index⟩ ∉ opened) :
    unopened (⟨start + index⟩ :: opened) start nodes + node.shape.properties.length =
      unopened opened start nodes := by
  induction nodes generalizing start index with
  | nil => cases hnode
  | cons first rest ih =>
    cases index with
    | zero =>
      obtain rfl := Option.some.inj hnode
      have hrest : unopened (⟨start⟩ :: opened) (start + 1) rest =
          unopened opened (start + 1) rest :=
        unopened_cons_of_lt (Nat.lt_succ_self start)
      simp only [Nat.add_zero] at hnew ⊢
      simp [unopened, hrest, hnew]
      omega
    | succ index =>
      have hplace : start + (index + 1) = start + 1 + index := by omega
      have hne : start ≠ start + 1 + index := by omega
      rw [hplace] at hnew ⊢
      have hrest := ih hnode hnew
      simp [unopened, hne, ← hrest]
      omega

/-! ## The search -/

/-- What the search finds, the stack leads to. -/
theorem exists_of_search (h : search goal steps opened stack = true) :
    ∃ schema ∈ stack, ∃ last, ReflTransGen Schema.Holds schema last ∧ last.id = goal := by
  induction steps generalizing opened stack with
  | zero => cases h
  | succ steps ih =>
    rcases stack with _ | ⟨schema, rest⟩
    · cases h
    · rw [search] at h
      split at h
      · next hgoal => exact ⟨schema, List.mem_cons_self, schema, .refl, by simpa using hgoal⟩
      · split at h
        · obtain ⟨other, hother, hfound⟩ := ih h
          exact ⟨other, List.mem_cons_of_mem _ hother, hfound⟩
        · obtain ⟨other, hother, last, hpath, hlast⟩ := ih h
          rcases List.mem_append.mp hother with hheld | hrest
          · exact ⟨schema, List.mem_cons_self, last, .head hheld hpath, hlast⟩
          · exact ⟨other, List.mem_cons_of_mem _ hrest, last, hpath, hlast⟩

/-- The schema is opened or waits on the stack. -/
def Seen (opened : List NodeId) (stack : List (Schema arena)) (schema : Schema arena) : Prop :=
  schema.id ∈ opened ∨ schema ∈ stack

namespace Seen

variable {first : Schema arena} {rest : List (Schema arena)}

/-- An opened schema may be taken off the stack. -/
theorem drop (h : Seen opened (first :: rest) schema) (hopened : first.id ∈ opened) :
    Seen opened rest schema := by
  rcases h with hin | hwaits
  · exact .inl hin
  · rcases List.mem_cons.mp hwaits with rfl | hrest
    · exact .inl hopened
    · exact .inr hrest

/-- The first schema on the stack may be opened. -/
theorem unfold (h : Seen opened (first :: rest) schema) :
    Seen (first.id :: opened) (first.byValueProperties ++ rest) schema := by
  rcases h with hin | hwaits
  · exact .inl (List.mem_cons_of_mem _ hin)
  · rcases List.mem_cons.mp hwaits with rfl | hrest
    · exact .inl List.mem_cons_self
    · exact .inr (List.mem_append_right _ hrest)

end Seen

/-- Whatever an opened schema holds by value is seen. -/
def Covered (opened : List NodeId) (stack : List (Schema arena)) : Prop :=
  ∀ schema : Schema arena, schema.id ∈ opened → ∀ held, schema.Holds held →
    Seen opened stack held

namespace Covered

variable {first : Schema arena} {rest : List (Schema arena)}

theorem drop (h : Covered opened (first :: rest)) (hopened : first.id ∈ opened) :
    Covered opened rest :=
  fun other hother held hheld => (h other hother held hheld).drop hopened

/-- What the opened schema holds is put on the stack. -/
theorem unfold (h : Covered opened (first :: rest)) :
    Covered (first.id :: opened) (first.byValueProperties ++ rest) := by
  intro other hother held hheld
  rcases List.mem_cons.mp hother with hself | hother
  · rw [Schema.ext hself] at hheld
    exact .inr (List.mem_append_left _ hheld)
  · exact (h other hother held hheld).unfold

/-- With nothing waiting, chains stay among the opened schemas. -/
theorem mem_opened (h : @Covered arena opened []) (hseen : Seen opened [] schema)
    (hpath : ReflTransGen Schema.Holds schema last) : last.id ∈ opened := by
  induction hpath with
  | refl => exact hseen.resolve_right List.not_mem_nil
  | tail _ hheld ih => exact (h _ ih _ hheld).resolve_right List.not_mem_nil

end Covered

/-- Opening a schema puts no more on the stack than it takes off what is left. -/
theorem length_byValueProperties_le (hnew : schema.id ∉ opened) :
    schema.byValueProperties.length + unopened (schema.id :: opened) 0 arena.nodes.toList ≤
      unopened opened 0 arena.nodes.toList := by
  have hnode : arena.nodes.toList[schema.id.index]? = some schema.node := by
    rw [Array.getElem?_toList]
    exact schema.node?_id
  have hleft : unopened (schema.id :: opened) 0 arena.nodes.toList +
      schema.node.shape.properties.length = unopened opened 0 arena.nodes.toList := by
    have hplace : 0 + schema.id.index = schema.id.index := Nat.zero_add _
    have h := @unopened_cons opened 0 _ _ _ hnode
    rw [hplace] at h
    exact h hnew
  have hheld : schema.byValueProperties.length ≤ schema.properties.length := by
    have hmapped : (schema.properties.map (·.2)).length = schema.properties.length :=
      List.length_map ..
    exact hmapped ▸ List.length_filter_le _ _
  have hproperties : schema.properties.length ≤ schema.node.shape.properties.length :=
    List.length_filterMap_le _ _
  omega

/-- The search misses nothing that seen schemas lead to. -/
theorem ne_goal_of_search
    (hsteps : stack.length + unopened opened 0 arena.nodes.toList ≤ steps)
    (hcovered : Covered opened stack) (hgoal : goal ∉ opened)
    (h : search goal steps opened stack = false) (hseen : Seen opened stack schema)
    (hpath : ReflTransGen Schema.Holds schema last) : last.id ≠ goal := by
  induction steps generalizing opened stack with
  | zero =>
    obtain rfl : stack = [] := List.length_eq_zero_iff.mp (by omega)
    exact fun heq => hgoal (heq ▸ hcovered.mem_opened hseen hpath)
  | succ steps ih =>
    rcases stack with _ | ⟨first, rest⟩
    · exact fun heq => hgoal (heq ▸ hcovered.mem_opened hseen hpath)
    · rw [search] at h
      simp only [List.length_cons] at hsteps
      split at h
      · cases h
      · next hother =>
        split at h
        · next hopened =>
          have hopened : first.id ∈ opened := by simpa using hopened
          exact ih (by omega) (hcovered.drop hopened) hgoal h (hseen.drop hopened)
        · next hnew =>
          have hless := length_byValueProperties_le (by simpa using hnew : first.id ∉ opened)
          have hgoal' : goal ∉ first.id :: opened := by
            intro hmem
            rcases List.mem_cons.mp hmem with heq | hmem
            · exact hother (by simp [heq])
            · exact hgoal hmem
          refine ih ?_ hcovered.unfold hgoal' h hseen.unfold
          rw [List.length_append]
          omega

/-- **The search decides**: a schema leads to a goal exactly if a chain of properties
held by value goes from it to the schema with that id. -/
theorem leadsTo_iff :
    schema.leadsTo goal = true ↔
      ∃ last, ReflTransGen Schema.Holds schema last ∧ last.id = goal := by
  constructor
  · intro h
    obtain ⟨other, hother, hfound⟩ := exists_of_search h
    obtain rfl := List.mem_singleton.mp hother
    exact hfound
  · rintro ⟨last, hpath, hlast⟩
    have hsteps :
        [schema].length + unopened [] 0 arena.nodes.toList ≤ arena.propertyCount + 1 := by
      refine Nat.le_of_eq ?_
      rw [unopened_nil, List.length_singleton, Nat.add_comm]
      rfl
    have hcovered : Covered [] [schema] := fun _ hin => absurd hin List.not_mem_nil
    rcases h : schema.leadsTo goal with _ | _
    · exact absurd hlast
        (ne_goal_of_search hsteps hcovered List.not_mem_nil h (.inr List.mem_cons_self) hpath)
    · rfl

end ApiClasses
