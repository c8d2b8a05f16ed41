import ApiClasses.Proofs.Loading.Faults
import ApiClasses.Proofs.ResourceTrees

/-!
# Resource classes in the order of the walk

The walk goes through a resource and all below it, each before those below itself. The
generator has a recursion of its own over the same tree, in which it may stop: at a name that
gives no class name, or at a decorator that gives up. Both take the same way. If there is a
class, then it and the classes inside it, each before those inside itself, are those of the
walk one by one; if there is none, the error comes from the first resource of the walk that is
refused (`classAt_outcome`).

Which resources are refused is said of each of them alone (`Refuses`): of its name, and of the
decorators in their order, working on its class and told the names on the way to it.

Class names are not changed by decorators that only append, and no class is declared inside but
those of the resources below. Nothing more has to be known of the decorators
(`classes_follow_walk`).
-/

namespace ApiClasses

open Loading (Outcome)

/-! ## Going through -/

namespace Resource

mutual

/-- The walk, each resource with the names on the way to it. -/
def places (above : List String) : Resource → List (List String × Resource)
  | resource@⟨name, _, below⟩ => (above ++ [name], resource) :: placesBelow (above ++ [name]) below

/-- The walks of several resources, one after the other. -/
def placesBelow (way : List String) : List Resource → List (List String × Resource)
  | [] => []
  | resource :: rest => resource.places way ++ placesBelow way rest

end

theorem placesBelow_eq_flatMap (way : List String) (resources : List Resource) :
    placesBelow way resources = resources.flatMap (·.places way) := by
  induction resources with
  | nil => rfl
  | cons resource rest ih => rw [placesBelow, ih, List.flatMap_cons]

theorem places_eq (resource : Resource) (above : List String) :
    resource.places above = (above ++ [resource.name], resource) ::
      placesBelow (above ++ [resource.name]) resource.resources := by
  obtain ⟨name, endpoints, below⟩ := resource
  rw [places]

/-- Up to the names, this is the walk. -/
theorem map_snd_places (resource : Resource) (above : List String) :
    (resource.places above).map (·.2) = resource.walk := by
  induction resource using induction_below generalizing above with
  | step resource ih =>
    rw [places_eq, walk_eq, List.map_cons, placesBelow_eq_flatMap, List.map_flatMap]
    exact congrArg (resource :: ·) (List.flatMap_congr fun below hbelow => ih below hbelow _)

end Resource

namespace ClassDecl

mutual

/-- The class and all inside it, each before those inside itself. -/
def walk : ClassDecl → List ClassDecl
  | c@⟨_, _, _, _, _, members⟩ => c :: walkInside members

/-- The walks of the classes among some members, one after the other. -/
def walkInside : List (Member ClassDecl) → List ClassDecl
  | [] => []
  | .inner c :: rest => c.walk ++ walkInside rest
  | .field _ :: rest => walkInside rest
  | .method _ :: rest => walkInside rest

end

theorem walkInside_eq_flatMap (members : List (Member ClassDecl)) :
    walkInside members = (members.filterMap Member.inner?).flatMap walk := by
  induction members with
  | nil => rfl
  | cons member rest ih =>
    cases member <;> simp [walkInside, ih, List.filterMap_cons, Member.inner?]

theorem walk_eq (c : ClassDecl) : c.walk = c :: c.innerClasses.flatMap walk := by
  obtain ⟨name, doc, visibility, attributes, traits, members⟩ := c
  rw [walk, walkInside_eq_flatMap, innerClasses]

end ClassDecl

/-! ## Decorators that only append -/

/-- `after` is `before` with attributes, traits and members appended, but no classes among
these; its doc comment and who may see it may be others. -/
structure ClassDecl.Continues (after before : ClassDecl) : Prop where
  /-- the name stays -/
  name : after.name = before.name
  /-- attributes are appended -/
  attributes : before.attributes <+: after.attributes
  /-- traits are appended -/
  traits : before.traits <+: after.traits
  /-- members other than classes are appended -/
  members : ∃ added, after.members = before.members ++ added ∧
    ∀ member ∈ added, member.inner? = none

namespace ClassDecl

variable {first second third : ClassDecl}

theorem Continues.refl (c : ClassDecl) : c.Continues c :=
  ⟨rfl, List.prefix_rfl, List.prefix_rfl, [], (List.append_nil _).symm, List.forall_mem_nil _⟩

theorem Continues.trans (h₁ : third.Continues second) (h₂ : second.Continues first) :
    third.Continues first := by
  refine ⟨h₁.name.trans h₂.name, h₂.attributes.trans h₁.attributes, h₂.traits.trans h₁.traits, ?_⟩
  obtain ⟨added₁, hadded₁, hnone₁⟩ := h₁.members
  obtain ⟨added₂, hadded₂, hnone₂⟩ := h₂.members
  refine ⟨added₂ ++ added₁, ?_, List.forall_mem_append.mpr ⟨hnone₂, hnone₁⟩⟩
  rw [hadded₁, hadded₂, List.append_assoc]

/-- No class is declared inside that was not before. -/
theorem Continues.innerClasses_eq (h : second.Continues first) :
    second.innerClasses = first.innerClasses := by
  obtain ⟨added, hadded, hnone⟩ := h.members
  rw [innerClasses, hadded, List.filterMap_append, List.filterMap_eq_nil_iff.mpr hnone,
    List.append_nil, innerClasses]

theorem addField_continues (c : ClassDecl) (field : ClassField) : (c.addField field).Continues c :=
  ⟨rfl, List.prefix_rfl, List.prefix_rfl, [.field field], rfl, List.forall_mem_singleton.mpr rfl⟩

theorem addMethod_continues (c : ClassDecl) (method : ClassMethod) :
    (c.addMethod method).Continues c :=
  ⟨rfl, List.prefix_rfl, List.prefix_rfl, [.method method], rfl, List.forall_mem_singleton.mpr rfl⟩

end ClassDecl

/-- Steps in a row append if each of them does. -/
theorem foldlM_continues {α ε : Type} {f : ClassDecl → α → Except ε ClassDecl} {steps : List α}
    (hf : ∀ step ∈ steps, ∀ c d, f c step = .ok d → d.Continues c) {c d : ClassDecl}
    (h : steps.foldlM f c = .ok d) : d.Continues c := by
  induction steps generalizing c with
  | nil =>
    obtain rfl := Except.ok.inj h
    exact .refl c
  | cons step rest ih =>
    obtain ⟨hstep, hrest⟩ := List.forall_mem_cons.mp hf
    rw [List.foldlM_cons] at h
    obtain ⟨middle, hmiddle, h⟩ := Loading.bind_eq_ok h
    exact (ih hrest h).trans (hstep c middle hmiddle)

namespace ResourceDecorator

/-- A decorator of resource classes that only appends, wherever it does not give up. -/
def AppendsOnly (decorator : ResourceDecorator) : Prop :=
  ∀ resource place c d, decorator.decorate resource place c = .ok d → d.Continues c

theorem handle_appendsOnly : handle.AppendsOnly := by
  intro resource place c d h
  dsimp only [handle] at h
  split at h
  · obtain rfl := Except.ok.inj h
    exact c.addField_continues _
  · cases h

theorem requests_appendsOnly : requests.AppendsOnly := by
  intro resource place c d h
  refine foldlM_continues (fun endpoint _ c d h => ?_) h
  rw [addRequest] at h
  split at h
  · cases h
  · split at h
    · obtain rfl := Except.ok.inj h
      exact c.addMethod_continues _
    · cases h

/-- The standard decorators only append. -/
theorem standard_appendsOnly : ∀ decorator ∈ standard, decorator.AppendsOnly := by
  simp only [standard, List.forall_mem_cons]
  exact ⟨handle_appendsOnly, requests_appendsOnly, List.forall_mem_nil _⟩

end ResourceDecorator

/-! ## Refused resources -/

/-- Steps in a row fail where the first of them fails. -/
theorem foldlM_eq_error {α β ε : Type} {f : β → α → Except ε β} {steps : List α} {b : β}
    {error : ε} : steps.foldlM f b = .error error ↔
      ∃ before step after c, steps = before ++ step :: after ∧
        before.foldlM f b = .ok c ∧ f c step = .error error := by
  constructor
  · intro h
    induction steps generalizing b with
    | nil => cases h
    | cons first rest ih =>
      rw [List.foldlM_cons] at h
      rcases hfirst : f b first with failed | next
      · rw [hfirst] at h
        obtain rfl := Except.error.inj h
        exact ⟨[], first, rest, b, rfl, rfl, hfirst⟩
      · rw [hfirst] at h
        obtain ⟨before, step, after, c, rfl, hbefore, hstep⟩ := ih h
        refine ⟨first :: before, step, after, c, rfl, ?_, hstep⟩
        rw [List.foldlM_cons, hfirst]
        exact hbefore
  · rintro ⟨before, step, after, c, rfl, hbefore, hstep⟩
    rw [List.foldlM_append, hbefore]
    change (step :: after).foldlM f c = .error error
    rw [List.foldlM_cons, hstep]
    rfl

namespace ResourceClasses

/-- The generator refuses the resource that some names lead to. -/
inductive Refuses (generator : ResourceClasses) :
    List String × Resource → GenerationError → Prop where
  /-- its name gives no class name -/
  | unnamed {way resource} : Identifier.forClass? resource.name = none →
    Refuses generator (way, resource) (.misuse (.unnamedResource resource.name))
  /-- a decorator gives up on its class, as the decorators before leave it -/
  | gaveUp {way resource name before decorator after error} {c : ClassDecl} :
    generator.className resource.name = .ok name →
    generator.decorators = before ++ decorator :: after →
    before.foldlM (fun c decorator =>
      decorator.decorate resource ⟨generator.service, ".".intercalate way⟩ c) { name } = .ok c →
    decorator.decorate resource ⟨generator.service, ".".intercalate way⟩ c = .error error →
    Refuses generator (way, resource) (.decoration error)

/-- There is nothing to refuse the resource for. -/
def Accepts (generator : ResourceClasses) (place : List String × Resource) : Prop :=
  ∀ error, ¬ generator.Refuses place error

/-- Of these resources, the first one that is refused is refused with this error. -/
def RefusesFirst (generator : ResourceClasses) (places : List (List String × Resource))
    (error : GenerationError) : Prop :=
  ∃ front place back, places = front ++ place :: back ∧
    (∀ earlier ∈ front, generator.Accepts earlier) ∧ generator.Refuses place error

/-- The classes are those of the resources one by one, and there is nothing to refuse any of
these for. -/
structure Follows (generator : ResourceClasses) (classes : List ClassDecl)
    (places : List (List String × Resource)) : Prop where
  /-- the name comes from the resource, and inside is a class for each resource below -/
  classes : List.Forall₂ (fun c place => generator.className place.2.name = .ok c.name ∧
    c.innerClasses.length = place.2.resources.length) classes places
  /-- every resource is accepted -/
  accepts : ∀ place ∈ places, generator.Accepts place

variable {generator : ResourceClasses} {place : List String × Resource}
  {places rest : List (List String × Resource)} {classes later : List ClassDecl} {c : ClassDecl}
  {error other : GenerationError} {resource : Resource} {path : String} {way : List String}

/-! ### One after the other -/

theorem Follows.append (h : generator.Follows classes places) (h' : generator.Follows later rest) :
    generator.Follows (classes ++ later) (places ++ rest) where
  classes := List.rel_append h.classes h'.classes
  accepts := List.forall_mem_append.mpr ⟨h.accepts, h'.accepts⟩

theorem RefusesFirst.append_left (h : generator.RefusesFirst places error)
    (rest : List (List String × Resource)) : generator.RefusesFirst (places ++ rest) error := by
  obtain ⟨front, place, back, rfl, hfront, hrefuses⟩ := h
  exact ⟨front, place, back ++ rest, List.append_assoc _ _ _, hfront, hrefuses⟩

theorem RefusesFirst.append_right (haccepts : ∀ place ∈ places, generator.Accepts place)
    (h : generator.RefusesFirst rest error) : generator.RefusesFirst (places ++ rest) error := by
  obtain ⟨front, place, back, rfl, hfront, hrefuses⟩ := h
  exact ⟨places ++ front, place, back, (List.append_assoc _ _ _).symm,
    List.forall_mem_append.mpr ⟨haccepts, hfront⟩, hrefuses⟩

theorem refusesFirst_cons : generator.RefusesFirst (place :: rest) error ↔
    generator.Refuses place error ∨
      generator.Accepts place ∧ generator.RefusesFirst rest error := by
  constructor
  · rintro ⟨_ | ⟨first, front⟩, refused, back, hplaces, hfront, hrefuses⟩
    · obtain ⟨rfl, -⟩ := List.cons.inj hplaces
      exact .inl hrefuses
    · obtain ⟨rfl, rfl⟩ := List.cons.inj hplaces
      obtain ⟨haccepts, hfront⟩ := List.forall_mem_cons.mp hfront
      exact .inr ⟨haccepts, front, refused, back, rfl, hfront, hrefuses⟩
  · rintro (hrefuses | ⟨haccepts, hfirst⟩)
    · exact ⟨[], place, rest, rfl, List.forall_mem_nil _, hrefuses⟩
    · exact hfirst.append_right (List.forall_mem_singleton.mpr haccepts)

/-! ### One resource -/

/-- The class of a resource alone, without those of the resources below. -/
def own (generator : ResourceClasses) (path : String) (resource : Resource) :
    Except GenerationError ClassDecl := do
  let name ← generator.className resource.name
  generator.decorated path resource { name }

theorem classAt_eq : generator.classAt path resource = (do
    let c ← generator.own path resource
    return c.addInner (← generator.classesBelow path resource.resources)) := by
  obtain ⟨name, endpoints, below⟩ := resource
  rw [classAt, own, bind_assoc]

theorem className_eq_error {name : String} : generator.className name = .error error ↔
    Identifier.forClass? name = none ∧ error = .misuse (.unnamedResource name) := by
  rw [className]
  rcases Identifier.forClass? name with _ | base
  · simp [eq_comm]
  · simp

theorem decorated_eq_error : generator.decorated path resource c = .error error ↔
    ∃ reason, generator.decorators.foldlM
        (fun c decorator => decorator.decorate resource ⟨generator.service, path⟩ c) c =
          .error reason ∧ error = .decoration reason := by
  rw [decorated]
  split
  · next d hd => simp [hd]
  · next reason hreason => simp [hreason, eq_comm]

theorem foldlM_of_decorated {d : ClassDecl} (h : generator.decorated path resource c = .ok d) :
    generator.decorators.foldlM
      (fun c decorator => decorator.decorate resource ⟨generator.service, path⟩ c) c = .ok d := by
  rw [decorated] at h
  split at h
  · next made hmade => rwa [Except.ok.inj h] at hmade
  · cases h

/-- The class alone is where a resource is refused. -/
theorem refuses_iff : generator.Refuses (way, resource) error ↔
    generator.own (".".intercalate way) resource = .error error := by
  rw [own]
  constructor
  · intro h
    cases h with
    | unnamed hnone =>
      rw [className_eq_error.mpr ⟨hnone, rfl⟩]
      rfl
    | gaveUp hname hdecorators hbefore hgaveUp =>
      rw [hname]
      refine decorated_eq_error.mpr ⟨_, foldlM_eq_error.mpr ?_, rfl⟩
      exact ⟨_, _, _, _, hdecorators, hbefore, hgaveUp⟩
  · intro h
    rcases hname : generator.className resource.name with failed | name
    · rw [hname] at h
      obtain rfl := Except.error.inj h
      obtain ⟨hnone, rfl⟩ := className_eq_error.mp hname
      exact .unnamed hnone
    · rw [hname] at h
      obtain ⟨reason, hfold, rfl⟩ := decorated_eq_error.mp h
      obtain ⟨before, decorator, after, c, hdecorators, hbefore, hgaveUp⟩ :=
        foldlM_eq_error.mp hfold
      exact .gaveUp hname hdecorators hbefore hgaveUp

/-- A resource is refused for one thing at most. -/
theorem Refuses.unique (h : generator.Refuses place error) (h' : generator.Refuses place other) :
    error = other := by
  obtain ⟨way, resource⟩ := place
  exact Except.error.inj ((refuses_iff.mp h).symm.trans (refuses_iff.mp h'))

/-- Of several resources, one at most is the first that is refused. -/
theorem RefusesFirst.unique (h : generator.RefusesFirst places error)
    (h' : generator.RefusesFirst places other) : error = other := by
  induction places with
  | nil =>
    obtain ⟨front, place, back, hplaces, -⟩ := h
    exact absurd hplaces.symm (List.append_ne_nil_of_right_ne_nil _ (List.cons_ne_nil _ _))
  | cons place rest ih =>
    rcases refusesFirst_cons.mp h with hrefuses | ⟨haccepts, hfirst⟩
    · rcases refusesFirst_cons.mp h' with hother | ⟨haccepts, -⟩
      · exact hrefuses.unique hother
      · exact absurd hrefuses (haccepts error)
    · rcases refusesFirst_cons.mp h' with hother | ⟨-, hother⟩
      · exact absurd hother (haccepts other)
      · exact ih hfirst hother

/-- A resource is accepted and has a class of its own, with nothing inside, or it is refused. -/
theorem own_outcome (happend : ∀ decorator ∈ generator.decorators, decorator.AppendsOnly)
    (way : List String) (resource : Resource) :
    Outcome (fun c => generator.Accepts (way, resource) ∧
        generator.className resource.name = .ok c.name ∧ c.innerClasses = [])
      (generator.Refuses (way, resource)) (generator.own (".".intercalate way) resource) := by
  rcases hown : generator.own (".".intercalate way) resource with error | c
  · exact .error (refuses_iff.mpr hown)
  · refine .ok ⟨fun error hrefuses => ?_, ?_⟩
    · cases hown.symm.trans (refuses_iff.mp hrefuses)
    · obtain ⟨name, hname, hdecorated⟩ := Loading.bind_eq_ok hown
      have hcontinues : c.Continues { name } :=
        foldlM_continues (fun decorator hmem => happend decorator hmem resource _)
          (foldlM_of_decorated hdecorated)
      exact ⟨hcontinues.name ▸ hname, hcontinues.innerClasses_eq⟩

/-! ## The whole tree -/

/-- Resources side by side are gone through one after the other, if each of them is gone
through in the order of its walk. -/
theorem classesBelow_outcome {resources : List Resource}
    (h : ∀ below ∈ resources, Outcome (fun c => generator.Follows c.walk (below.places way))
      (generator.RefusesFirst (below.places way))
      (generator.classAt (path ++ "." ++ below.name) below)) :
    Outcome (fun inner => inner.length = resources.length ∧
        generator.Follows (inner.flatMap ClassDecl.walk) (Resource.placesBelow way resources))
      (generator.RefusesFirst (Resource.placesBelow way resources))
      (generator.classesBelow path resources) := by
  induction resources with
  | nil => exact .ok ⟨rfl, .nil, List.forall_mem_nil _⟩
  | cons below rest ih =>
    obtain ⟨hbelow, hrest⟩ := List.forall_mem_cons.mp h
    rw [classesBelow, Resource.placesBelow]
    refine (hbelow.imp (fun _ h => h) fun _ h => h.append_left _).bind fun c hc => ?_
    refine ((ih hrest).imp (fun _ h => h) fun _ h => h.append_right hc.accepts).bind
      fun inner hinner => ?_
    obtain ⟨hlength, hinner⟩ := hinner
    refine .ok ⟨?_, hc.append hinner⟩
    rw [List.length_cons, List.length_cons, hlength]

/-- A resource and all below it are gone through in the order of the walk. -/
theorem classAt_outcome (happend : ∀ decorator ∈ generator.decorators, decorator.AppendsOnly)
    (resource : Resource) (above : List String) :
    Outcome (fun c => generator.Follows c.walk (resource.places above))
      (generator.RefusesFirst (resource.places above))
      (generator.classAt (".".intercalate (above ++ [resource.name])) resource) := by
  induction resource using Resource.induction_below generalizing above with
  | step resource ih =>
    have hway : above ++ [resource.name] ≠ [] :=
      List.append_ne_nil_of_right_ne_nil _ (List.cons_ne_nil _ _)
    have hbelow (below : Resource) (hmem : below ∈ resource.resources) :
        Outcome (fun c => generator.Follows c.walk (below.places (above ++ [resource.name])))
          (generator.RefusesFirst (below.places (above ++ [resource.name])))
          (generator.classAt (".".intercalate (above ++ [resource.name]) ++ "." ++ below.name)
            below) := by
      rw [← intercalate_concat hway]
      exact ih below hmem _
    rw [classAt_eq, Resource.places_eq]
    refine ((own_outcome happend _ resource).imp (fun _ h => h) fun _ h =>
      refusesFirst_cons.mpr (.inl h)).bind fun c hc => ?_
    obtain ⟨haccepts, hname, hnone⟩ := hc
    refine ((classesBelow_outcome hbelow).imp (fun _ h => h) fun _ h =>
      refusesFirst_cons.mpr (.inr ⟨haccepts, h⟩)).bind fun inner hinner => .ok ?_
    obtain ⟨hlength, hinner⟩ := hinner
    have hinside : (c.addInner inner).innerClasses = inner := by
      rw [ClassDecl.innerClasses_addInner, hnone, List.nil_append]
    rw [ClassDecl.walk_eq, hinside]
    exact {
      classes := .cons ⟨hname, hinside.symm ▸ hlength⟩ hinner.classes
      accepts := List.forall_mem_cons.mpr ⟨haccepts, hinner.accepts⟩ }

/-- So it is from the top. -/
theorem classDecl_outcome (happend : ∀ decorator ∈ generator.decorators, decorator.AppendsOnly)
    (resource : Resource) :
    Outcome (fun c => generator.Follows c.walk (resource.places []))
      (generator.RefusesFirst (resource.places [])) (generator.classDecl resource) := by
  have houtcome := classAt_outcome happend resource []
  rwa [List.nil_append, String.intercalate_singleton] at houtcome

/-- Classes that follow the walk have the names that it gives, and as many classes inside as
there are resources below. -/
theorem Follows.of_walk {above : List String}
    (h : generator.Follows classes (resource.places above)) :
    classes.map (fun d => (.ok d.name : Except GenerationError String)) =
        resource.walk.map (fun next => generator.className next.name) ∧
      classes.map (·.innerClasses.length) = resource.walk.map (·.resources.length) := by
  rw [← resource.map_snd_places above, List.map_map, List.map_map, ← List.forall₂_eq_eq_eq,
    ← List.forall₂_eq_eq_eq]
  simp only [List.forall₂_map_left_iff, List.forall₂_map_right_iff]
  exact ⟨h.classes.imp fun _ _ hboth => hboth.1.symm, h.classes.imp fun _ _ hboth => hboth.2⟩

/-- **Resource classes follow the walk**: if a resource has a class, then this and the classes
inside it, each before those inside itself, are called as the resources of the walk say, and
each of them has as many classes inside as there are resources below. It has no class exactly if
some resource of the walk is refused, for its name or because a decorator gives up, and the
error is that of the first one. -/
theorem classes_follow_walk (generator : ResourceClasses)
    (happend : ∀ decorator ∈ generator.decorators, decorator.AppendsOnly) (resource : Resource) :
    (∀ c, generator.classDecl resource = .ok c →
      c.walk.map (fun d => (.ok d.name : Except GenerationError String)) =
          resource.walk.map (fun next => generator.className next.name) ∧
        c.walk.map (·.innerClasses.length) = resource.walk.map (·.resources.length)) ∧
    (resource.places []).map (·.2) = resource.walk ∧
    ((∃ error, generator.classDecl resource = .error error) ↔
      ∃ place ∈ resource.places [], ∃ error, generator.Refuses place error) ∧
    ∀ error, generator.classDecl resource = .error error ↔
      generator.RefusesFirst (resource.places []) error := by
  have houtcome := classDecl_outcome happend resource
  generalize generator.classDecl resource = outcome at houtcome
  cases houtcome with
  | ok hfollows =>
    refine ⟨?_, resource.map_snd_places [], ⟨nofun, ?_⟩, fun error => ⟨nofun, ?_⟩⟩
    · rintro c ⟨⟩
      exact hfollows.of_walk
    · rintro ⟨place, hplace, error, hrefuses⟩
      exact absurd hrefuses (hfollows.accepts place hplace error)
    · rintro ⟨front, place, back, hplaces, -, hrefuses⟩
      have hplace : place ∈ resource.places [] :=
        hplaces ▸ List.mem_append_right _ List.mem_cons_self
      exact absurd hrefuses (hfollows.accepts place hplace error)
  | @error failed hfirst =>
    refine ⟨nofun, resource.map_snd_places [], ⟨fun _ => ?_, fun _ => ⟨failed, rfl⟩⟩,
      fun error => ⟨?_, fun hother => ?_⟩⟩
    · obtain ⟨front, place, back, hplaces, -, hrefuses⟩ := hfirst
      exact ⟨place, hplaces ▸ List.mem_append_right _ List.mem_cons_self, failed, hrefuses⟩
    · rintro ⟨⟩
      exact hfirst
    · rw [hfirst.unique hother]

end ResourceClasses

/-! ## Two resources to refuse -/

/-- Gives up on the resource at a path. -/
def ResourceDecorator.choosy (refused : String) : ResourceDecorator where
  name := "Choosy"
  decorate := fun _ place c =>
    if place.path = refused then .error ⟨"Choosy", c.name, "refused"⟩ else .ok c

theorem ResourceDecorator.choosy_appendsOnly (refused : String) :
    (choosy refused).AppendsOnly := by
  intro resource place c d h
  dsimp only [choosy] at h
  split at h
  · cases h
  · obtain rfl := Except.ok.inj h
    exact .refl c

/-- Below `blogs` stand `posts` and one whose name gives no class name; `comments` stands below
`posts`. -/
def Resource.blogs : Resource where
  name := "blogs"
  resources := [
    { name := "posts", endpoints := [{ name := "list", verb := "GET" }],
      resources := [{ name := "comments" }] },
    { name := "--" }]

/-- The walk comes to `comments` before it comes to the name, so the decorator that refuses
`comments` gives the error. It has to know the way from the top; if it knows less, it lets
`comments` pass, and the name gives the error. -/
theorem blogs_refused_first :
    (∀ refused, ∀ decorator ∈ ResourceDecorator.standard ++ [.choosy refused],
      decorator.AppendsOnly) ∧
    ResourceClasses.RefusesFirst
      ⟨"s", ResourceDecorator.standard ++ [.choosy "blogs.posts.comments"], {}⟩
      (Resource.blogs.places []) (.decoration ⟨"Choosy", "CommentsResource", "refused"⟩) ∧
    ResourceClasses.RefusesFirst
      ⟨"s", ResourceDecorator.standard ++ [.choosy "posts.comments"], {}⟩
      (Resource.blogs.places []) (.misuse (.unnamedResource "--")) := by
  have happend (refused : String) :
      ∀ decorator ∈ ResourceDecorator.standard ++ [.choosy refused], decorator.AppendsOnly :=
    List.forall_mem_append.mpr ⟨ResourceDecorator.standard_appendsOnly,
      List.forall_mem_singleton.mpr (ResourceDecorator.choosy_appendsOnly refused)⟩
  obtain ⟨-, -, -, hcomments⟩ := ResourceClasses.classes_follow_walk
    ⟨"s", ResourceDecorator.standard ++ [.choosy "blogs.posts.comments"], {}⟩
    (happend "blogs.posts.comments") Resource.blogs
  obtain ⟨-, -, -, hname⟩ := ResourceClasses.classes_follow_walk
    ⟨"s", ResourceDecorator.standard ++ [.choosy "posts.comments"], {}⟩
    (happend "posts.comments") Resource.blogs
  exact ⟨happend, (hcomments _).mp rfl, (hname _).mp rfl⟩

end ApiClasses
