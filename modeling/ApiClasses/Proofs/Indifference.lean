import ApiClasses.Proofs.Placement
import ApiClasses.Proofs.Renaming

/-!
# Classes do not depend on ids

The class of a schema is the same in every arena that holds what the schema reaches, under
whatever ids (`classDecl_of_renames`). Ids are only ever compared with each other, so a run
on one side can be followed by a run on the other side: the decorators do alike and ask for
twins (`Decoration.Alike`), the nestings that answer them have named twins
(`Nesting.Alike`), and hence the names that are answered are the same.

It follows that schemas which are allocated later, and are not reached, leave the classes of
the others as they are, and that the order of allocation does not matter
(`class_follows_shape`).
-/

namespace ApiClasses

variable {arena other : Arena} {α β γ δ : Type} {R : Schema arena → Schema other → Prop}
  {start : NodeId} {f : NodeId → NodeId}

/-! ## Programs -/

/-- The programs do the same, while the second one asks for related schemas. Neither asks for
schemas of another arena. -/
inductive Decoration.Alike (R : Schema arena → Schema other → Prop) :
    Decoration arena α → Decoration other α → Prop where
  /-- both end in the result -/
  | done (a : α) : Alike R (.done a) (.done a)
  /-- both give up -/
  | fail (error : DecorationError) : Alike R (.fail error) (.fail error)
  /-- both ask, and go on alike with every answer -/
  | request {schema twin next next'} : R schema twin → (∀ type, Alike R (next type) (next' type)) →
    Alike R (.request schema next) (.request twin next')

namespace Decoration

theorem alike_bind {m : Decoration arena α} {m' : Decoration other α} (hm : Alike R m m')
    {g : α → Decoration arena β} {g' : α → Decoration other β} (hg : ∀ a, Alike R (g a) (g' a)) :
    Alike R (m >>= g) (m' >>= g') := by
  induction hm with
  | done a => exact hg a
  | fail error => exact .fail error
  | request hasked _ ih => exact .request hasked ih

theorem alike_map {m : Decoration arena α} {m' : Decoration other α} (hm : Alike R m m')
    (g : α → β) : Alike R (g <$> m) (g <$> m') := by
  rw [map_eq_pure_bind, map_eq_pure_bind]
  exact alike_bind hm fun a => .done (g a)

/-- Steps in a row do alike if each of them does. -/
theorem alike_foldlM {S : γ → δ → Prop} {steps : List γ} {steps' : List δ}
    {g : α → γ → Decoration arena α} {g' : α → δ → Decoration other α}
    (hsteps : List.Forall₂ S steps steps')
    (hg : ∀ a step step', S step step' → Alike R (g a step) (g' a step')) (a : α) :
    Alike R (steps.foldlM g a) (steps'.foldlM g' a) := by
  induction hsteps generalizing a with
  | nil => exact .done a
  | cons hstep _ ih =>
    rw [List.foldlM_cons, List.foldlM_cons]
    exact alike_bind (hg a _ _ hstep) ih

/-- So do the same steps on both sides. -/
theorem alike_foldlM_same {steps : List γ} {g : α → γ → Decoration arena α}
    {g' : α → γ → Decoration other α} (hg : ∀ step ∈ steps, ∀ a, Alike R (g a step) (g' a step))
    (a : α) : Alike R (steps.foldlM g a) (steps.foldlM g' a) := by
  refine alike_foldlM (S := fun own its => own = its ∧ own ∈ steps)
    (List.forall₂_same.mpr fun step hstep => ⟨rfl, hstep⟩) ?_ a
  rintro a step _ ⟨rfl, hstep⟩
  exact hg step hstep a

end Decoration

/-! ## The standard decorators -/

namespace Twin

variable {schema owner content : Schema arena} {twin ownerTwin contentTwin : Schema other}
  {layers layers' : Nat} {opened : List NodeId} (h : Renames arena other start f)

include h

/-- What twins hold has the same type if what one layer further in does. -/
theorem contentType_alike (htwin : Twin start f schema twin) (hroom : Room arena layers opened)
    (hroom' : Room other layers' (opened.map f))
    (hopened : ∀ id ∈ opened, arena.Reaches start id)
    (hinside : ∀ fewer fewer', fewer < layers → Room arena fewer (schema.id :: opened) →
      Room other fewer' ((schema.id :: opened).map f) →
      Decoration.Alike (Twin start f) (fieldType fewer (schema.id :: opened) content)
        (fieldType fewer' ((schema.id :: opened).map f) contentTwin)) :
    Decoration.Alike (Twin start f) (contentType layers opened schema content)
      (contentType layers' (opened.map f) twin contentTwin) := by
  by_cases hopen : schema.id ∈ opened
  · have hopen' : twin.id ∈ opened.map f := htwin.id ▸ List.mem_map_of_mem hopen
    rw [contentType_of_mem hopen, contentType_of_mem hopen']
    exact .done _
  · have hopen' : twin.id ∉ opened.map f := by
      intro hmem
      obtain ⟨id, hid, hsame⟩ := List.mem_map.mp hmem
      have hself := h.injective _ _ (hopened id hid) htwin.reached (hroom.contained id hid)
        (decide_eq_true schema.inside) (hsame.trans htwin.id)
      exact hopen (hself ▸ hid)
    obtain ⟨fewer, rfl, htype, hroom⟩ := contentType_of_notMem content hroom hopen
    obtain ⟨fewer', rfl, htype', hroom'⟩ := contentType_of_notMem contentTwin hroom' hopen'
    rw [htype, htype']
    rw [htwin.id, ← List.map_cons] at hroom' ⊢
    exact hinside fewer fewer' (Nat.lt_succ_self fewer) hroom hroom'

/-- Twins have the same type, whatever bounds their arenas put on it. -/
theorem fieldType_alike (htwin : Twin start f schema twin) (hroom : Room arena layers opened)
    (hroom' : Room other layers' (opened.map f))
    (hopened : ∀ id ∈ opened, arena.Reaches start id) :
    Decoration.Alike (Twin start f) (fieldType layers opened schema)
      (fieldType layers' (opened.map f) twin) := by
  induction layers using Nat.strongRecOn generalizing layers' opened schema twin with
  | ind layers ih =>
    have hheld (content : Schema arena) (contentTwin : Schema other)
        (hcontent : Twin start f content contentTwin) :
        Decoration.Alike (Twin start f) (contentType layers opened schema content)
          (contentType layers' (opened.map f) twin contentTwin) := by
      refine htwin.contentType_alike h hroom hroom' hopened ?_
      intro fewer fewer' hfewer hroom hroom'
      exact ih fewer hfewer hcontent hroom hroom'
        (List.forall_mem_cons.mpr ⟨htwin.reached, hopened⟩)
    rw [fieldType_eq, fieldType_eq, htwin.shape_eq h, htwin.className?_eq h]
    have hitems := htwin.items h
    have hadditional := htwin.additional h
    generalize schema.items = items, twin.items = itemsTwin at hitems
    generalize schema.additional = additional, twin.additional = additionalTwin at hadditional
    cases schema.shape with
    | any | boolean | integer | number | string => exact .done _
    | array id =>
      cases hitems with
      | none => exact .done _
      | some hitem => exact Decoration.alike_map (hheld _ _ hitem) _
    | object properties id =>
      simp only [Shape.renamed, List.isEmpty_map]
      rcases schema.className? with _ | name
      · cases hadditional with
        | none => exact .request htwin fun type => .done type
        | some hvalue =>
          dsimp only
          split
          · exact Decoration.alike_map (hheld _ _ hvalue) _
          · exact .request htwin fun type => .done type
      · exact .done _

/-- The fields of twins have the same type. -/
theorem propertyType_alike (howner : Twin start f owner ownerTwin)
    (htwin : Twin start f schema twin) :
    Decoration.Alike (Twin start f) (propertyType owner schema) (propertyType ownerTwin twin) := by
  rw [propertyType, propertyType, htwin.isByValue_eq h, htwin.leadsTo_eq h howner]
  refine Decoration.alike_bind ?_ fun type => .done _
  exact htwin.fieldType_alike h (.all arena) (.all other) (List.forall_mem_nil _)

/-- The same fields are added for twins. -/
theorem addProperties_alike (htwin : Twin start f schema twin) (c : ClassDecl) :
    Decoration.Alike (Twin start f) (addProperties schema c) (addProperties twin c) := by
  refine Decoration.alike_foldlM (htwin.properties h) ?_ c
  rintro c ⟨key, property⟩ ⟨_, propertyTwin⟩ ⟨rfl, hproperty⟩
  rw [addProperty, addProperty]
  dsimp only [propertyField]
  rw [hproperty.description_eq h]
  exact Decoration.alike_bind (htwin.propertyType_alike h hproperty) fun type => .done _

end Twin

/-- A decorator that does alike on related schemas. -/
structure Decorator.Alike (R : Schema arena → Schema other → Prop) (decorator : Decorator) :
    Prop where
  /-- on top-level classes -/
  atTop : ∀ schema twin c, R schema twin →
    Decoration.Alike R (decorator.atTop schema c) (decorator.atTop twin c)
  /-- on the classes inside -/
  inside : ∀ decorate ∈ decorator.inside?, ∀ className schema twin c, R schema twin →
    Decoration.Alike R (decorate className schema c) (decorate className twin c)

namespace Decorator

/-- A decorator that does the same everywhere does alike if it does so anywhere. -/
theorem everywhere_alike {name : String}
    {decorate : {arena : Arena} → Schema arena → ClassDecl → Decoration arena ClassDecl}
    (h : ∀ (schema : Schema arena) (twin : Schema other) c, R schema twin →
      Decoration.Alike R (decorate schema c) (decorate twin c)) :
    (everywhere name decorate).Alike R := by
  refine ⟨fun schema twin c htwin => h schema twin c htwin, ?_⟩
  rintro _ ⟨⟩ className schema twin c htwin
  exact h schema twin c htwin

/-- The standard decorators do alike on twins. -/
theorem standard_alike (h : Renames arena other start f) (settings : Settings) :
    ∀ decorator ∈ standard settings, decorator.Alike
      (Twin start f : Schema arena → Schema other → Prop) := by
  simp only [standard, List.forall_mem_cons]
  refine ⟨everywhere_alike fun schema twin c htwin => ?_,
    everywhere_alike fun schema twin c htwin => ?_, ⟨fun schema twin c htwin => ?_, ?_⟩,
    everywhere_alike fun schema twin c htwin => htwin.addProperties_alike h c,
    List.forall_mem_nil _⟩
  · rw [htwin.description_eq h]
    rcases schema.description with _ | description
    · exact .done _
    · exact .done _
  · split
    · exact .done _
    · exact .done _
  · dsimp only [answerMark]
    split
    · exact .done _
    · exact .done _
  · -- the mark is for top-level classes only
    intro decorate hinside
    cases hinside

variable {decorators : List Decorator}

theorem allAtTop_alike (h : ∀ decorator ∈ decorators, decorator.Alike R) {schema : Schema arena}
    {twin : Schema other} (htwin : R schema twin) (c : ClassDecl) :
    Decoration.Alike R (allAtTop decorators schema c) (allAtTop decorators twin c) := by
  refine Decoration.alike_foldlM_same (fun decorator hmem c => ?_) c
  exact (h decorator hmem).atTop schema twin c htwin

theorem allInside_alike (h : ∀ decorator ∈ decorators, decorator.Alike R) {schema : Schema arena}
    {twin : Schema other} (htwin : R schema twin) (className : String) (c : ClassDecl) :
    Decoration.Alike R (allInside decorators className schema c)
      (allInside decorators className twin c) := by
  refine Decoration.alike_foldlM_same (fun decorate hmem c => ?_) c
  obtain ⟨decorator, hdecorator, hinside⟩ := List.mem_filterMap.mp hmem
  exact (h decorator hdecorator).inside decorate hinside className schema twin c htwin

end Decorator

/-! ## Nestings -/

/-- Two nestings that have come to the same with related schemas. -/
structure Nesting.Alike (R : Schema arena → Schema other → Prop) (nesting : Nesting arena)
    (twin : Nesting other) : Prop where
  /-- they put names together in the same way -/
  settings : twin.settings = nesting.settings
  /-- they serve classes at the same place -/
  trail : twin.trail = nesting.trail
  /-- outer classes of the same names stand for related schemas -/
  outer : List.Forall₂ (fun own its => its.2 = own.2 ∧
    ∃ schema twin, R schema twin ∧ schema.id = own.1 ∧ twin.id = its.1) nesting.outer twin.outer
  /-- related schemas have the same numbers -/
  numbers : List.Forall₂ (fun own its => its.2 = own.2 ∧
    ∃ schema twin, R schema twin ∧ schema.id = own.1 ∧ twin.id = its.1) nesting.numbers twin.numbers
  /-- the classes inside stand for related schemas -/
  named : List.Forall₂ R nesting.named twin.named
  /-- the first one was asked for no stranger -/
  noStranger : nesting.strangers = []
  /-- neither was the second one -/
  noStranger' : twin.strangers = []

namespace Nesting.Alike

variable {nesting : Nesting arena} {twinNesting : Nesting other} {schema : Schema arena}
  {twin : Schema other}

theorem nestedName_eq (h : nesting.Alike R twinNesting) (number : Nat) :
    twinNesting.nestedName number = nesting.nestedName number := by
  rw [Nesting.nestedName, Nesting.nestedName, h.settings, h.trail]

variable (hR : Relator.BiUnique R)

include hR

/-- Related schemas are the same as others on both sides or on neither. -/
theorem id_beq_eq {asked : Schema arena} {askedTwin : Schema other} (htwin : R schema twin)
    (hasked : R asked askedTwin) : (twin.id == askedTwin.id) = (schema.id == asked.id) := by
  refine Bool.eq_iff_iff.mpr ?_
  rw [beq_iff_eq, beq_iff_eq]
  constructor
  · intro hid
    obtain rfl := Schema.ext hid
    exact congrArg Schema.id (hR.1 htwin hasked)
  · intro hid
    obtain rfl := Schema.ext hid
    exact congrArg Schema.id (hR.2 htwin hasked)

/-- Related schemas are found with the same entries. -/
theorem find?_eq {own : List (NodeId × β)} {its : List (NodeId × β)}
    (h : List.Forall₂ (fun own its => its.2 = own.2 ∧
      ∃ schema twin, R schema twin ∧ schema.id = own.1 ∧ twin.id = its.1) own its)
    (htwin : R schema twin) :
    (its.find? (·.1 == twin.id)).map (·.2) = (own.find? (·.1 == schema.id)).map (·.2) := by
  induction h with
  | nil => rfl
  | @cons entry entryTwin _ _ hentry _ ih =>
    obtain ⟨hsame, kept, keptTwin, hkept, hid, hidTwin⟩ := hentry
    have hfound := id_beq_eq hR hkept htwin
    rw [hid, hidTwin] at hfound
    rw [List.find?_cons, List.find?_cons, hfound]
    split
    · exact congrArg some hsame
    · exact ih

/-- They stand for the same names. -/
theorem name?_eq (h : nesting.Alike R twinNesting) (htwin : R schema twin) :
    twinNesting.name? twin.id = nesting.name? schema.id := by
  have houter : twinNesting.outerName? twin.id = nesting.outerName? schema.id :=
    find?_eq hR h.outer htwin
  have hnumber : twinNesting.number? twin.id = nesting.number? schema.id :=
    find?_eq hR h.numbers htwin
  rw [Nesting.name?, Nesting.name?, houter, hnumber, funext h.nestedName_eq]

/-- A request for related schemas is answered alike, and they are alike after it. -/
theorem request (h : nesting.Alike R twinNesting) (htwin : R schema twin) :
    (twinNesting.request twin).1 = (nesting.request schema).1 ∧
      (nesting.request schema).2.Alike R (twinNesting.request twin).2 := by
  have hname := h.name?_eq hR htwin
  rcases hown : nesting.name? schema.id with _ | name
  · rw [request_of_new hown, request_of_new (hname.trans hown), h.nestedName_eq,
      h.named.length_eq]
    refine ⟨rfl, h.settings, h.trail, h.outer, ?_, ?_, h.noStranger, h.noStranger'⟩
    · exact .cons ⟨congrArg (· + 1) h.named.length_eq.symm, schema, twin, htwin, rfl, rfl⟩ h.numbers
    · exact List.rel_append h.named (.cons htwin .nil)
  · rw [request_of_name? hown, request_of_name? (hname.trans hown)]
    exact ⟨rfl, h.settings, h.trail, h.outer, h.numbers, h.named, h.noStranger, h.noStranger'⟩

/-- Programs that do alike end alike. -/
theorem run {m : Decoration arena α} {m' : Decoration other α} (hm : Decoration.Alike R m m')
    (h : nesting.Alike R twinNesting) :
    (∃ a after after', nesting.run m = .ok (a, after) ∧ twinNesting.run m' = .ok (a, after') ∧
        after.Alike R after') ∨
      ∃ error, nesting.run m = .error error ∧ twinNesting.run m' = .error error := by
  induction hm generalizing nesting twinNesting with
  | done a => exact .inl ⟨a, nesting, twinNesting, rfl, rfl, h⟩
  | fail error => exact .inr ⟨error, rfl, rfl⟩
  | @request schema twin next next' htwin _ ih =>
    obtain ⟨hanswer, halike⟩ := h.request hR htwin
    rw [Nesting.run, Nesting.run, hanswer]
    exact ih _ halike

omit hR in
/-- The classes inside have the same numbers. -/
theorem numbered (h : nesting.Alike R twinNesting) :
    List.Forall₂ (fun own its => R own.1 its.1 ∧ its.2 = own.2) nesting.numbered
      twinNesting.numbered := by
  have hnamed := h.named
  rw [Nesting.numbered, Nesting.numbered]
  generalize nesting.named = own, twinNesting.named = its at hnamed
  generalize 1 = first
  induction hnamed generalizing first with
  | nil => exact .nil
  | cons hhead _ ih =>
    rw [List.zipIdx_cons, List.zipIdx_cons]
    exact .cons ⟨hhead, rfl⟩ (ih (first + 1))

omit hR in
/-- The classes inside start from nestings that are alike. -/
theorem inside (h : nesting.Alike R twinNesting) (number : Nat) :
    (nesting.inside number).Alike R (twinNesting.inside number) := by
  refine ⟨h.settings, ?_, ?_, .nil, .nil, rfl, rfl⟩
  · rw [Nesting.inside, Nesting.inside, h.trail]
  · refine List.rel_append ?_ h.outer
    rw [List.forall₂_map_left_iff, List.forall₂_map_right_iff]
    refine h.numbered.imp ?_
    rintro ⟨own, _⟩ ⟨its, number⟩ ⟨htwin, rfl⟩
    exact ⟨h.nestedName_eq number, own, its, htwin, rfl, rfl⟩

end Nesting.Alike

/-! ## Trees -/

/-- Two classes about to be decorated alike. -/
structure Site.Alike (R : Schema arena → Schema other → Prop) (site : Site arena)
    (twin : Site other) : Prop where
  /-- they are answered alike -/
  before : site.before.Alike R twin.before
  /-- the decorators do alike -/
  decoration : Decoration.Alike R site.decoration twin.decoration

/-- The declarations that a generation ends with, if it does not fail. -/
def outcome (result : Except GenerationError (List ClassTree)) : Option (List ClassDecl) :=
  result.toOption.map ClassTree.decls

variable {decorators : List Decorator} {settings : Settings}

theorem Nesting.Alike.sites (h : ∀ decorator ∈ decorators, decorator.Alike R)
    {nesting : Nesting arena} {twinNesting : Nesting other} (hn : nesting.Alike R twinNesting) :
    List.Forall₂ (Site.Alike R) (nesting.sites decorators) (twinNesting.sites decorators) := by
  rw [Nesting.sites, Nesting.sites, List.forall₂_map_left_iff, List.forall₂_map_right_iff]
  refine hn.numbered.imp ?_
  rintro ⟨own, _⟩ ⟨its, number⟩ ⟨htwin, rfl⟩
  refine ⟨hn.inside number, ?_⟩
  dsimp only [Nesting.site]
  rw [hn.nestedName_eq]
  exact Decorator.allInside_alike h htwin _ _

theorem outcome_cons (tree : ClassTree) (result : Except GenerationError (List ClassTree)) :
    outcome ((tree :: ·) <$> result) = (outcome result).map (tree.decl :: ·) := by
  cases result with
  | error error => rfl
  | ok trees => rfl

namespace Site.Alike

variable {site : Site arena} {twin : Site other} {decorated : ClassDecl} {after : Nesting arena}
  (hR : Relator.BiUnique R) (h : site.Alike R twin)

include hR h

/-- If one is decorated, so is the other… -/
theorem of_ok (hd : site.before.decorating site.decoration = .ok (decorated, after)) :
    ∃ after', twin.before.decorating twin.decoration = .ok (decorated, after') ∧
      after.Alike R after' := by
  have hrun := Nesting.decorating_eq_ok.mp hd
  rcases h.before.run hR h.decoration with ⟨c, left, left', hown, hits, halike⟩ | ⟨error, hown, -⟩
  · obtain ⟨rfl, rfl⟩ := Prod.mk.inj (Except.ok.inj (hown.symm.trans hrun))
    exact ⟨left', Nesting.decorating_eq_ok.mpr hits, halike⟩
  · cases hown.symm.trans hrun

/-- …and if a decorator gives up on one, it gives up on the other. -/
theorem of_error {error : GenerationError}
    (hd : site.before.decorating site.decoration = .error error) :
    twin.before.decorating twin.decoration = .error error := by
  obtain ⟨reason, hfails, rfl⟩ := Nesting.decorating_eq_error.mp hd
  rcases h.before.run hR h.decoration with ⟨c, left, left', hown, -, -⟩ | ⟨found, hown, hits⟩
  · cases hfails.symm.trans hown
  · obtain rfl := Except.error.inj (hfails.symm.trans hown)
    exact Nesting.decorating_eq_error.mpr ⟨reason, hits, rfl⟩

end Site.Alike

/-- The classes of sites that are alike grow into the same. -/
theorem Grows.alike (hR : Relator.BiUnique R) (h : ∀ decorator ∈ decorators, decorator.Alike R)
    {sites : List (Site arena)} {twins : List (Site other)}
    {result : Except GenerationError (List ClassTree)} (hgrows : Grows decorators sites result)
    (hsites : List.Forall₂ (Site.Alike R) sites twins) :
    ∃ result', Grows decorators twins result' ∧ outcome result' = outcome result := by
  induction hgrows generalizing twins with
  | nil =>
    cases hsites
    exact ⟨_, .nil, rfl⟩
  | undecorated hd =>
    obtain _ | ⟨hsite, -⟩ := hsites
    exact ⟨_, .undecorated (hsite.of_error hR hd), rfl⟩
  | stranger hd hs =>
    -- neither side asks for strangers
    obtain _ | ⟨hsite, -⟩ := hsites
    obtain ⟨after', -, halike⟩ := hsite.of_ok hR hd
    cases hs.symm.trans halike.noStranger
  | inside hd hs _ ih =>
    obtain _ | ⟨hsite, -⟩ := hsites
    obtain ⟨after', hd', halike⟩ := hsite.of_ok hR hd
    obtain ⟨result', hinner', hsame⟩ := ih (halike.sites h)
    rcases result' with error' | inner'
    · exact ⟨_, .inside hd' halike.noStranger' hinner', rfl⟩
    · cases hsame
  | cons hd hs _ _ ih ih_rest =>
    obtain _ | ⟨hsite, hrest⟩ := hsites
    obtain ⟨after', hd', halike⟩ := hsite.of_ok hR hd
    obtain ⟨result', hinner', hsame⟩ := ih (halike.sites h)
    obtain ⟨later', hlater', hsame_rest⟩ := ih_rest hrest
    rcases result' with error' | inner'
    · cases hsame
    · have hdecls : ClassTree.decls inner' = ClassTree.decls _ := Option.some.inj hsame
      refine ⟨_, .cons hd' halike.noStranger' hinner' hlater', ?_⟩
      rw [outcome_cons, outcome_cons, hsame_rest, ClassTree.decl, ClassTree.decl, hdecls]

/-! ## Classes -/

/-- A schema has the same class in every arena that holds what it reaches, under whatever
ids; or it has none in either. -/
theorem classDecl_of_renames (h : Renames arena other start f) (settings : Settings) :
    (other.classDecl (Decorator.standard settings) settings (f start)).toOption =
      (arena.classDecl (Decorator.standard settings) settings start).toOption := by
  have hstart := h.get? .refl
  rw [Arena.classDecl, Arena.classDecl, Arena.classTree, Arena.classTree]
  generalize arena.get? start = own, other.get? (f start) = its at hstart ⊢
  cases hstart with
  | none => rfl
  | @some schema twin htwin =>
    dsimp only
    rw [htwin.className?_eq h]
    rcases schema.className? with _ | name
    · rfl
    · dsimp only
      have halike := Decorator.standard_alike h settings
      have hsites : List.Forall₂ (Site.Alike (Twin start f))
          [schema.site (Decorator.standard settings) settings name]
          [twin.site (Decorator.standard settings) settings name] := by
        refine .cons ⟨⟨rfl, rfl, ?_, .nil, .nil, rfl, rfl⟩, ?_⟩ .nil
        · exact .cons ⟨rfl, schema, twin, htwin, rfl, rfl⟩ .nil
        · exact Decorator.allAtTop_alike halike htwin _
      obtain ⟨result, hgrows, hsame⟩ := (schema.classTree_grows name).alike h.biUnique halike hsites
      rw [← (twin.classTree_grows name).unique hgrows] at hsame
      generalize schema.classTree (Decorator.standard settings) settings name = own,
        twin.classTree (Decorator.standard settings) settings name = its at hsame ⊢
      rcases own with error | tree <;> rcases its with error' | tree'
      · rfl
      · cases hsame
      · cases hsame
      · exact congrArg some (List.cons.inj (Option.some.inj hsame)).1

/-- So it has a class in one arena exactly if it has this class in the other one. -/
theorem classDecl_eq_ok_iff (h : Renames arena other start f) {c : ClassDecl} :
    arena.classDecl (Decorator.standard settings) settings start = .ok c ↔
      other.classDecl (Decorator.standard settings) settings (f start) = .ok c := by
  have hsame := classDecl_of_renames h settings
  generalize arena.classDecl (Decorator.standard settings) settings start = own,
    other.classDecl (Decorator.standard settings) settings (f start) = its at hsame ⊢
  rcases own with error | c₁ <;> rcases its with error' | c₂
  · simp
  · cases hsame
  · cases hsame
  · obtain rfl := Option.some.inj hsame
    rfl

/-- **Classes follow the shape of what can be reached, not the ids**: in any arena that holds
the schemas which `start` reaches, under whatever ids, it has a class exactly if it has this
class here. In particular schemas that are added and not reached make no difference, and
neither does the order of the schemas. -/
theorem class_follows_shape (settings : Settings) (arena : Arena) (start : NodeId) (c : ClassDecl) :
    (∀ (other : Arena) (f : NodeId → NodeId), Renames arena other start f →
      (arena.classDecl (Decorator.standard settings) settings start = .ok c ↔
        other.classDecl (Decorator.standard settings) settings (f start) = .ok c)) ∧
    (∀ nodes : List Node,
      (∀ id, (arena.allocAll nodes).Reaches start id →
        (arena.allocAll nodes).contains id = true → arena.contains id = true) →
      (arena.classDecl (Decorator.standard settings) settings start = .ok c ↔
        (arena.allocAll nodes).classDecl (Decorator.standard settings) settings start = .ok c)) ∧
    ∀ order : Equiv.Perm (Fin arena.size),
      (arena.classDecl (Decorator.standard settings) settings start = .ok c ↔
        (arena.reordered order).classDecl (Decorator.standard settings) settings
          (arena.place order start) = .ok c) := by
  refine ⟨fun other f h => classDecl_eq_ok_iff h, fun nodes hnew => ?_, fun order => ?_⟩
  · exact classDecl_eq_ok_iff (.of_unreached hnew)
  · exact classDecl_eq_ok_iff (.of_order order)

/-- The ring behind a schema that has nothing to do with it, and the other way round. -/
def Arena.turnedRing : Arena :=
  ⟨#[⟨some "Stray", none, .array (some ⟨2⟩)⟩,
    ⟨none, none, .object [⟨"back", ⟨2⟩⟩, ⟨"top", ⟨3⟩⟩] none⟩,
    ⟨none, none, .object [⟨"other", ⟨1⟩⟩] none⟩,
    ⟨some "Graph", none, .object [⟨"start", ⟨2⟩⟩] none⟩]⟩

/-- The ring reaches nothing but itself. -/
theorem index_lt_of_ring_reaches {id : NodeId} (h : Arena.ring.Reaches ⟨0⟩ id) : id.index < 3 := by
  induction h with
  | refl => decide
  | @tail middle child _ hnames ih =>
    obtain ⟨node, hnode, hchild⟩ := hnames
    have hchildren : ∀ node ∈ Arena.ring.nodes.toList,
        ∀ id ∈ node.shape.children, id.index < 3 := by
      decide
    exact hchildren node (Array.mem_toList_iff.mpr (Array.mem_of_getElem? hnode)) child hchild

theorem renames_ring : Renames Arena.ring Arena.turnedRing ⟨0⟩ fun id => ⟨3 - id.index⟩ := by
  refine ⟨fun ⟨index₁⟩ ⟨index₂⟩ h₁ h₂ _ _ hsame => ?_, fun ⟨index⟩ h => ?_⟩
  · have hlt₁ := index_lt_of_ring_reaches h₁
    have hlt₂ := index_lt_of_ring_reaches h₂
    have hindex := congrArg NodeId.index hsame
    dsimp only at hlt₁ hlt₂ hindex
    exact congrArg NodeId.mk (by omega)
  · match index, index_lt_of_ring_reaches h with
    | 0, _ => rfl
    | 1, _ => rfl
    | 2, _ => rfl

/-- `Graph` has the same class at either place. -/
theorem turned_ring_same_class :
    Renames Arena.ring Arena.turnedRing ⟨0⟩ (fun id => ⟨3 - id.index⟩) ∧
      ∃ c, Arena.ring.classDecl (Decorator.standard {}) {} ⟨0⟩ = .ok c ∧
        Arena.turnedRing.classDecl (Decorator.standard {}) {} ⟨3⟩ = .ok c :=
  ⟨renames_ring, _, rfl, ((class_follows_shape {} Arena.ring ⟨0⟩ _).1 _ _ renames_ring).mp rfl⟩

end ApiClasses
