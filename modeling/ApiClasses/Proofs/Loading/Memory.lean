import ApiClasses.Proofs.Loading.Rules

/-!
# What the loader remembers

Whatever is known stays known under its id, and a finished node is never touched
again (`Loads.keeps`). A location that becomes known is complete by the time loading
ends: its children are known, and its node holds their ids (`Loads.new`). Only a
location whose reference is being followed stays unknown, however often it is come
upon (`Loads.open_stays`).

A schema of its own gets an id that no other schema of its own has
(`Loads.distinct`).
-/

namespace ApiClasses.Loading

open Json (Members)

/-! ## Looking locations up -/

namespace Progress

variable {root : Json}

theorem id?_note {progress : Progress} {location other : String} {id : NodeId} :
    (progress.note location id).id? other =
      if location = other then some id else progress.id? other := by
  by_cases h : location = other
  · rw [if_pos h, ← h, id?_note_self]
  · rw [if_neg h, id?_note_of_ne h]

theorem id?_reserve {progress : Progress} {location other : String} :
    (progress.reserve location).id? other =
      if location = other then some progress.fresh else progress.id? other :=
  id?_note

/-- Noting a reference does not touch the schemas of their own. -/
theorem id?_note_of_own {progress : Progress} {location other reference : String} {id : NodeId}
    {draft : Draft} (hfind : finding? root location = some (.link reference))
    (hown : finding? root other = some (.own draft)) :
    (progress.note location id).id? other = progress.id? other := by
  refine id?_note_of_ne ?_
  rintro rfl
  cases hown.symm.trans hfind

@[simp] theorem size_reserve (progress : Progress) (location : String) :
    (progress.reserve location).arena.size = progress.arena.size + 1 :=
  Arena.size_alloc ..

@[simp] theorem id?_fill (progress : Progress) (id : NodeId) (node : Node) (location : String) :
    (progress.fill id node).id? location = progress.id? location := rfl

@[simp] theorem size_fill (progress : Progress) (id : NodeId) (node : Node) :
    (progress.fill id node).arena.size = progress.arena.size :=
  Arena.size_put ..

end Progress

variable {root : Json} {following : List String} {progress after : Progress}
  {locations : List String} {ids : List NodeId} {location : String} {id : NodeId}

/-- What a location leads to: the target of a reference, the children of a schema of
its own. -/
def next (root : Json) (location : String) : List String :=
  match finding? root location with
  | some (.link reference) => [target reference]
  | some (.own draft) => draft.outline.children
  | _ => []

theorem next_link {reference : String} (h : finding? root location = some (.link reference)) :
    next root location = [target reference] := by
  rw [next, h]

theorem next_own {draft : Draft} (h : finding? root location = some (.own draft)) :
    next root location = draft.outline.children := by
  rw [next, h]

/-! ## What stays -/

/-- `after` has everything that `before` has. -/
structure Progress.Keeps (before after : Progress) : Prop where
  /-- known locations keep their ids -/
  id? : ∀ {location id}, before.id? location = some id → after.id? location = some id
  /-- the arena only grows -/
  size : before.arena.size ≤ after.arena.size
  /-- nodes stay as they are -/
  node? : ∀ {id : NodeId}, id.index < before.arena.size →
    after.arena.node? id = before.arena.node? id

namespace Progress.Keeps

variable {first second third : Progress}

theorem refl (progress : Progress) : progress.Keeps progress :=
  ⟨fun h => h, Nat.le_refl _, fun _ => rfl⟩

theorem trans (h₁ : first.Keeps second) (h₂ : second.Keeps third) : first.Keeps third := by
  refine ⟨fun hid => h₂.id? (h₁.id? hid), Nat.le_trans h₁.size h₂.size, fun hid => ?_⟩
  exact (h₂.node? (Nat.lt_of_lt_of_le hid h₁.size)).trans (h₁.node? hid)

/-- An unknown location may be noted. -/
theorem note (h : first.Keeps second) (hnew : first.id? location = none) :
    first.Keeps (second.note location id) := by
  refine ⟨fun {other} _ hid => ?_, h.size, h.node?⟩
  have hne : location ≠ other := by
    rintro rfl
    cases hnew.symm.trans hid
  rw [id?_note, if_neg hne, h.id? hid]

/-- A reserved node may be filled. -/
theorem fill (h : (first.reserve location).Keeps second) (hnew : first.id? location = none)
    (node : Node) : first.Keeps (second.fill first.fresh node) := by
  have hsize := h.size
  rw [size_reserve] at hsize
  refine ⟨fun {other} _ hid => ?_, ?_, fun {id} hid => ?_⟩
  · have hne : location ≠ other := by
      rintro rfl
      cases hnew.symm.trans hid
    rw [id?_fill]
    exact h.id? (by rw [id?_reserve, if_neg hne, hid])
  · rw [size_fill]
    omega
  · have hne : id ≠ first.fresh := by
      rintro rfl
      exact Nat.lt_irrefl _ hid
    calc (second.fill first.fresh node).arena.node? id = second.arena.node? id :=
          Arena.node?_put_of_ne node hne
      _ = (first.reserve location).arena.node? id := h.node? (by rw [size_reserve]; omega)
      _ = first.arena.node? id := Arena.node?_alloc_of_contains _ (decide_eq_true hid)

end Progress.Keeps

/-- Loading keeps everything. -/
theorem Loads.keeps (h : Loads root following progress locations ids after) :
    progress.Keeps after := by
  induction h with
  | nil => exact .refl _
  | known _ _ ih => exact ih
  | link hnew _ _ _ _ ih_target ih => exact (ih_target.note hnew).trans ih
  | own hnew _ _ _ ih_inner ih => exact (ih_inner.fill hnew _).trans ih

/-- The locations asked for are known under the ids that were given. -/
theorem Loads.given (h : Loads root following progress locations ids after) :
    List.Forall₂ (fun location id => after.id? location = some id) locations ids := by
  induction h with
  | nil => exact .nil
  | known hid hrest ih => exact .cons (hrest.keeps.id? hid) ih
  | link _ _ _ _ hrest _ ih =>
    exact .cons (hrest.keeps.id? (Progress.id?_note_self ..)) ih
  | own _ _ hinner hrest _ ih =>
    exact .cons (hrest.keeps.id? (hinner.keeps.id? (Progress.id?_note_self ..))) ih

/-- A location asked for is known afterwards. -/
theorem Loads.known_of_mem (h : Loads root following progress locations ids after)
    (hmem : location ∈ locations) : ∃ id, after.id? location = some id := by
  obtain ⟨i, hi, rfl⟩ := List.mem_iff_getElem.mp hmem
  have hgiven := h.given
  exact ⟨_, hgiven.get hi (hgiven.length_eq ▸ hi)⟩

/-- A location whose reference is being followed does not become known. -/
theorem Loads.open_stays (h : Loads root following progress locations ids after)
    {reference : String} (hfind : finding? root location = some (.link reference))
    (hmem : location ∈ following) (hnew : progress.id? location = none) :
    after.id? location = none := by
  induction h with
  | nil => exact hnew
  | known _ _ ih => exact ih hmem hnew
  | @link _ _ here _ _ _ _ _ _ _ _ hnot _ _ ih_target ih =>
    have hne : here ≠ location := by
      rintro rfl
      exact hnot hmem
    refine ih hmem ?_
    rw [Progress.id?_note, if_neg hne]
    exact ih_target (List.mem_cons_of_mem _ hmem) hnew
  | @own _ _ here _ _ _ _ _ _ _ hown _ _ ih_inner ih =>
    have hne : here ≠ location := by
      rintro rfl
      cases hown.symm.trans hfind
    exact ih hmem (ih_inner hmem (by rw [Progress.id?_reserve, if_neg hne, hnew]))

/-! ## What is new -/

/-- A location that has become known since `before` is complete. -/
inductive New (root : Json) (before after : Progress) (location : String) : Prop where
  /-- a reference has the id of its target -/
  | link {reference id} :
    finding? root location = some (.link reference) →
    after.id? location = some id →
    after.id? (target reference) = some id →
    New root before after location
  /-- a schema of its own has a new id, and its node holds the ids of its children -/
  | own {draft id ids} :
    finding? root location = some (.own draft) →
    after.id? location = some id →
    before.arena.size ≤ id.index ∧ id.index < after.arena.size →
    List.Forall₂ (fun child id => after.id? child = some id) draft.outline.children ids →
    after.arena.node? id = some (draft.node ids) →
    New root before after location

namespace New

variable {before middle : Progress}

theorem since (h : New root middle after location) (hsize : before.arena.size ≤ middle.arena.size) :
    New root before after location := by
  cases h with
  | link hfind hid htarget => exact .link hfind hid htarget
  | own hfind hid hbounds hchildren hnode =>
    exact .own hfind hid ⟨Nat.le_trans hsize hbounds.1, hbounds.2⟩ hchildren hnode

/-- It stays complete while more is loaded. -/
theorem mono (h : New root before middle location) (hkeeps : middle.Keeps after) :
    New root before after location := by
  cases h with
  | link hfind hid htarget => exact .link hfind (hkeeps.id? hid) (hkeeps.id? htarget)
  | own hfind hid hbounds hchildren hnode =>
    refine .own hfind (hkeeps.id? hid) ⟨hbounds.1, Nat.lt_of_lt_of_le hbounds.2 hkeeps.size⟩
      (hchildren.imp fun _ _ hchild => hkeeps.id? hchild) ?_
    rw [hkeeps.node? hbounds.2, hnode]

/-- It stays complete while the node of the schema around it is filled. -/
theorem fill {outer : String} (h : New root (before.reserve outer) middle location) (node : Node) :
    New root before (middle.fill before.fresh node) location := by
  cases h with
  | link hfind hid htarget => exact .link hfind hid htarget
  | @own _ id _ hfind hid hbounds hchildren hnode =>
    rw [Progress.size_reserve] at hbounds
    have hne : id ≠ before.fresh := by
      rintro rfl
      exact Nat.lt_irrefl _ hbounds.1
    refine .own hfind hid ⟨by omega, by rw [Progress.size_fill]; exact hbounds.2⟩ hchildren ?_
    exact (Arena.node?_put_of_ne node hne).trans hnode

end New

/-- A reference is complete once it has been followed to the end. -/
theorem Loads.new_link {reference : String} (hnew : progress.id? location = none)
    (hfind : finding? root location = some (.link reference))
    (h : Loads root (location :: following) progress [target reference] [id] after) :
    after.Keeps (after.note location id) ∧ New root progress (after.note location id) location := by
  -- where it leads may come by it again, but does not get to know it
  have hopen := h.open_stays hfind List.mem_cons_self hnew
  have hkeeps : after.Keeps (after.note location id) := (Progress.Keeps.refl after).note hopen
  obtain ⟨htarget, -⟩ := List.forall₂_cons.mp h.given
  exact ⟨hkeeps, .link hfind (Progress.id?_note_self ..) (hkeeps.id? htarget)⟩

/-- A schema of its own is complete once its node is filled. -/
theorem Loads.new_own {draft : Draft} (hfind : finding? root location = some (.own draft))
    (h : Loads root following (progress.reserve location) draft.outline.children ids after) :
    New root progress (after.fill progress.fresh (draft.node ids)) location := by
  have hlt : progress.fresh.index < after.arena.size := by
    have hsize := h.keeps.size
    rwa [Progress.size_reserve] at hsize
  have hreserved : after.id? location = some progress.fresh :=
    h.keeps.id? (Progress.id?_note_self ..)
  exact .own hfind hreserved ⟨Nat.le_refl _, by rwa [Progress.size_fill]⟩ h.given
    (Arena.node?_put_self _ (decide_eq_true hlt))

/-- Whatever becomes known is complete when loading ends. -/
theorem Loads.new (h : Loads root following progress locations ids after)
    (hnew : progress.id? location = none) (hid : after.id? location = some id) :
    New root progress after location := by
  induction h generalizing id with
  | nil => cases hnew.symm.trans hid
  | known _ _ ih => exact ih hnew hid
  | @link following before here reference known middle _ _ _ hunknown hlink hnot htarget hrest
      ih_target ih =>
    obtain ⟨hnoted, hcomplete⟩ := htarget.new_link hunknown hlink
    rcases hmiddle : (middle.note here known).id? location with _ | _
    · exact (ih hmiddle hid).since htarget.keeps.size
    · by_cases hhere : here = location
      · subst hhere
        exact hcomplete.mono hrest.keeps
      · rw [Progress.id?_note, if_neg hhere] at hmiddle
        exact ((ih_target hnew hmiddle).mono hnoted).mono hrest.keeps
  | @own _ before here draft inner middle _ _ _ hunknown hown hinner hrest ih_inner ih =>
    rcases hmiddle : middle.id? location with _ | _
    · have hsize := hinner.keeps.size
      rw [Progress.size_reserve] at hsize
      exact (ih hmiddle hid).since (by rw [Progress.size_fill]; omega)
    · by_cases hhere : here = location
      · subst hhere
        exact (hinner.new_own hown).mono hrest.keeps
      · have hnew : (before.reserve here).id? location = none := by
          rw [Progress.id?_reserve, if_neg hhere, hnew]
        exact ((ih_inner hnew hmiddle).fill _).mono hrest.keeps

/-- Everything that a newly known location leads to is known. -/
theorem Loads.closed (h : Loads root following progress locations ids after)
    (hnew : progress.id? location = none) (hid : after.id? location = some id) :
    ∀ other ∈ next root location, ∃ id, after.id? other = some id := by
  intro other hother
  cases h.new hnew hid with
  | link hfind _ htarget =>
    rw [next_link hfind] at hother
    obtain rfl := List.mem_singleton.mp hother
    exact ⟨_, htarget⟩
  | own hfind _ _ hchildren _ =>
    rw [next_own hfind] at hother
    obtain ⟨i, hi, rfl⟩ := List.mem_iff_getElem.mp hother
    exact ⟨_, hchildren.get hi (hchildren.length_eq ▸ hi)⟩

/-! ## Ids are not shared -/

/-- Schemas of their own do not share ids. -/
structure Progress.Distinct (root : Json) (progress : Progress) : Prop where
  /-- their ids are in the arena -/
  within : ∀ {location draft id}, finding? root location = some (.own draft) →
    progress.id? location = some id → id.index < progress.arena.size
  /-- each of them has an id for itself -/
  injective : ∀ {location other draft draft' id},
    finding? root location = some (.own draft) → finding? root other = some (.own draft') →
    progress.id? location = some id → progress.id? other = some id → location = other

namespace Progress.Distinct

theorem empty (root : Json) : Distinct root {} := by
  refine ⟨fun _ hid => ?_, fun _ _ hid => ?_⟩
  · cases hid
  · cases hid

theorem note (h : progress.Distinct root) {reference : String}
    (hfind : finding? root location = some (.link reference)) (id : NodeId) :
    (progress.note location id).Distinct root := by
  refine ⟨fun hown hid => ?_, fun hown hown' hid hid' => ?_⟩
  · exact h.within hown ((id?_note_of_own hfind hown).symm.trans hid)
  · rw [id?_note_of_own hfind hown] at hid
    rw [id?_note_of_own hfind hown'] at hid'
    exact h.injective hown hown' hid hid'

theorem reserve (h : progress.Distinct root) (location : String) :
    (progress.reserve location).Distinct root := by
  -- an id that is known already is below the fresh one
  have hfresh {other draft id} (hown : finding? root other = some (.own draft))
      (hid : progress.id? other = some id) : id ≠ progress.fresh := by
    rintro rfl
    exact Nat.lt_irrefl _ (h.within hown hid)
  refine ⟨fun {other} _ id hown hid => ?_, fun {one other} _ _ id hown hown' hid hid' => ?_⟩
  · rw [size_reserve]
    rw [id?_reserve] at hid
    split at hid
    · obtain rfl := Option.some.inj hid
      exact Nat.lt_succ_self _
    · exact Nat.lt_succ_of_lt (h.within hown hid)
  · rw [id?_reserve] at hid hid'
    split at hid
    · obtain rfl := Option.some.inj hid
      split at hid'
      · next heq heq' => exact heq.symm.trans heq'
      · exact absurd rfl (hfresh hown' hid')
    · split at hid'
      · obtain rfl := Option.some.inj hid'
        exact absurd rfl (hfresh hown hid)
      · exact h.injective hown hown' hid hid'

theorem fill (h : progress.Distinct root) (id : NodeId) (node : Node) :
    (progress.fill id node).Distinct root :=
  ⟨fun hown hid => by rw [size_fill]; exact h.within hown hid, h.injective⟩

end Progress.Distinct

/-- Loading gives every schema of its own an id for itself. -/
theorem Loads.distinct (h : Loads root following progress locations ids after)
    (hdistinct : progress.Distinct root) : after.Distinct root := by
  induction h with
  | nil => exact hdistinct
  | known _ _ ih => exact ih hdistinct
  | link _ hfind _ _ _ ih_target ih => exact ih ((ih_target hdistinct).note hfind _)
  | own _ _ _ _ ih_inner ih => exact ih ((ih_inner (hdistinct.reserve _)).fill _ _)

end ApiClasses.Loading
