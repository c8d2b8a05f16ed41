import ApiClasses.Proofs.References
import ApiClasses.Proofs.Reordering

/-!
# Decorators for top-level classes alone

A decorator that works on top-level classes only, asks for nothing and appends, may be put
anywhere between the standard decorators: what is declared inside the class stays exactly the
same (`inner_untouched`). The fields of the class itself need not, since a name that the new
decorator takes is no longer free for a property.

The reason is that what the standard decorators ask for depends on the schema, never on the
class they work on. So their requests are compared with results left out
(`Decoration.requests`): a class inside comes from requests alone.
-/

namespace ApiClasses

variable {arena : Arena} {α β γ : Type}

/-! ## What a program asks for -/

namespace Decoration

/-- The program without its result: what it asks for, and where it gives up. -/
def requests (m : Decoration arena α) : Decoration arena Unit := (fun _ => ()) <$> m

/-- If the rest asks for the same whatever it goes on with, the result on the way does not
matter. -/
theorem requests_bind {m : Decoration arena α} {next : α → Decoration arena β}
    {rest : Decoration arena Unit} (h : ∀ a, (next a).requests = rest) :
    (m >>= next).requests = m.requests >>= fun _ => rest := by
  calc (m >>= next).requests
    _ = m >>= fun a => (next a).requests := map_bind ..
    _ = m >>= fun _ => rest := bind_congr h
    _ = m.requests >>= fun _ => rest := (bind_map_left (fun _ => ()) m fun _ => rest).symm

/-- Steps that ask for the same whatever they work on do so in a row. -/
theorem requests_foldlM {f : α → γ → Decoration arena α} {steps : List γ}
    (h : ∀ step ∈ steps, ∀ a b, (f a step).requests = (f b step).requests) (a b : α) :
    (steps.foldlM f a).requests = (steps.foldlM f b).requests := by
  induction steps generalizing a b with
  | nil => rfl
  | cons step rest ih =>
    obtain ⟨hstep, hrest⟩ := List.forall_mem_cons.mp h
    rw [List.foldlM_cons, List.foldlM_cons, requests_bind fun c => ih hrest c a,
      requests_bind fun c => ih hrest c a, hstep a b]

end Decoration

/-- What a run leaves behind comes from the requests alone. -/
theorem Nesting.decorating_requests (nesting : Nesting arena) {m other : Decoration arena ClassDecl}
    (h : m.requests = other.requests) :
    (·.2) <$> nesting.decorating m = (·.2) <$> nesting.decorating other := by
  have hafter (m : Decoration arena ClassDecl) : (·.2) <$> nesting.decorating m =
      ((·.2) <$> nesting.run m.requests).mapError .decoration := by
    rw [Decoration.requests, map_eq_pure_bind (fun _ => ()) m, run_bind, decorating]
    rcases nesting.run m with error | result
    · rfl
    · rfl
  rw [hafter, hafter, h]

/-! ## Inserting -/

/-- The second list is the first one with some more entries in it, which have the property. -/
inductive Inserted {ε : Type} (P : ε → Prop) : List ε → List ε → Prop where
  /-- nothing is inserted at the end -/
  | nil : Inserted P [] []
  /-- an entry stays -/
  | keep (entry : ε) {entries longer : List ε} :
    Inserted P entries longer → Inserted P (entry :: entries) (entry :: longer)
  /-- an entry is inserted -/
  | insert {entry : ε} {entries longer : List ε} :
    P entry → Inserted P entries longer → Inserted P entries (entry :: longer)

namespace Inserted

variable {P : α → Prop} {entries longer : List α}

theorem refl (entries : List α) : Inserted P entries entries := by
  induction entries with
  | nil => exact .nil
  | cons entry rest ih => exact .keep entry ih

theorem forall_mem {Q : α → Prop} (h : Inserted P entries longer) (hP : ∀ entry, P entry → Q entry)
    (hQ : ∀ entry ∈ entries, Q entry) : ∀ entry ∈ longer, Q entry := by
  induction h with
  | nil => exact hQ
  | keep entry _ ih =>
    obtain ⟨hentry, hrest⟩ := List.forall_mem_cons.mp hQ
    exact List.forall_mem_cons.mpr ⟨hentry, ih hrest⟩
  | insert hentry _ ih => exact List.forall_mem_cons.mpr ⟨hP _ hentry, ih hQ⟩

/-- A selection that leaves out what is inserted is the same as before. -/
theorem filterMap_eq {f : α → Option β} (h : Inserted P entries longer)
    (hP : ∀ entry, P entry → f entry = none) : longer.filterMap f = entries.filterMap f := by
  induction h with
  | nil => rfl
  | keep entry _ ih => rw [List.filterMap_cons, List.filterMap_cons, ih]
  | insert hentry _ ih => rw [List.filterMap_cons_none (hP _ hentry), ih]

end Inserted

/-! ## Decorators -/

namespace Decorator

/-- A decorator that works on top-level classes alone, asks for nothing and only appends. -/
structure RootOnly (decorator : Decorator) : Prop where
  /-- it does nothing to classes inside -/
  inside : decorator.inside? = none
  /-- it asks for nothing and appends -/
  atTop : ∀ {arena : Arena} (schema : Schema arena) (c : ClassDecl),
    ∃ after, decorator.atTop schema c = .done after ∧ after.Extends c

theorem RootOnly.appendsOnly {decorator : Decorator} (h : decorator.RootOnly) :
    decorator.AppendsOnly := by
  refine ⟨fun schema c => ?_, fun decorate hdecorate => ?_⟩
  · obtain ⟨after, hdone, hextends⟩ := h.atTop schema c
    rw [hdone]
    exact hextends
  · rw [h.inside] at hdecorate
    cases hdecorate

/-- What the decorator asks for does not depend on the class it works on. -/
def Heedless (decorator : Decorator) : Prop :=
  ∀ {arena : Arena} (schema : Schema arena) (c other : ClassDecl),
    (decorator.atTop schema c).requests = (decorator.atTop schema other).requests

theorem Changes.heedless {decorator : Decorator}
    {change : {arena : Arena} → Schema arena → ClassDecl → ClassDecl}
    (h : decorator.Changes change) : decorator.Heedless := by
  intro arena schema c other
  rw [h.atTop, h.atTop]
  rfl

/-- The names of fields depend on the class, the types that are asked for do not. -/
theorem fields_heedless : fields.Heedless := by
  intro arena schema c other
  have hproperty (c : ClassDecl) (property : String × Schema arena) :
      (addProperty schema c property).requests =
        (propertyType schema property.2).requests >>= fun _ => .done () := by
    rw [addProperty]
    exact Decoration.requests_bind fun _ => rfl
  refine Decoration.requests_foldlM (fun property _ c other => ?_) c other
  rw [hproperty, hproperty]

theorem standard_heedless (settings : Settings) :
    ∀ decorator ∈ standard settings, decorator.Heedless := by
  simp only [standard, List.forall_mem_cons]
  exact ⟨doc_changes.heedless, (derives_changes _).heedless, (answerMark_changes _).heedless,
    fields_heedless, List.forall_mem_nil _⟩

variable {decorators longer : List Decorator}

theorem allAtTop_cons (decorator : Decorator) (schema : Schema arena) (c : ClassDecl) :
    allAtTop (decorator :: decorators) schema c =
      decorator.atTop schema c >>= allAtTop decorators schema :=
  List.foldlM_cons ..

/-- With root-only decorators in between, the others ask for the same as without them. -/
theorem requests_allAtTop (h : Inserted RootOnly decorators longer)
    (hheedless : ∀ decorator ∈ decorators, decorator.Heedless) (schema : Schema arena)
    (c other : ClassDecl) :
    (allAtTop longer schema c).requests = (allAtTop decorators schema other).requests := by
  induction h generalizing c other with
  | nil => rfl
  | @keep decorator entries _ _ ih =>
    obtain ⟨hfirst, hrest⟩ := List.forall_mem_cons.mp hheedless
    have hsame (a : ClassDecl) :
        (allAtTop entries schema a).requests = (allAtTop entries schema other).requests :=
      (ih hrest other a).symm.trans (ih hrest other other)
    rw [allAtTop_cons, allAtTop_cons, Decoration.requests_bind fun a => ih hrest a other,
      Decoration.requests_bind hsame, hfirst schema c other]
  | insert hroot _ ih =>
    -- the inserted one only hands on another class
    obtain ⟨after, hdone, -⟩ := hroot.atTop schema c
    rw [allAtTop_cons, hdone, Decoration.done_bind]
    exact ih hheedless after other

/-- On classes inside, root-only decorators are as good as absent. -/
theorem allInside_inserted (h : Inserted RootOnly decorators longer) (className : String)
    (schema : Schema arena) (c : ClassDecl) :
    allInside longer className schema c = allInside decorators className schema c := by
  rw [allInside, allInside, h.filterMap_eq fun _ hroot => hroot.inside]

end Decorator

/-! ## The classes inside -/

variable {decorators longer : List Decorator} {settings : Settings}

/-- The classes inside grow from what the decoration of the class leaves behind. -/
theorem Schema.inner_classTree (schema : Schema arena) (name : String) :
    ClassTree.inner <$> schema.classTree decorators settings name =
      (·.2) <$> (schema.site decorators settings name).before.decorating
        (Decorator.allAtTop decorators schema { name }) >>= (·.trees decorators) := by
  simp only [classTree, map_bind, bind_map_left, map_pure, bind_pure]
  rfl

/-- Root-only decorators leave the trees inside a class as they are. -/
theorem Arena.inner_classTree_inserted (h : Inserted Decorator.RootOnly decorators longer)
    (hheedless : ∀ decorator ∈ decorators, decorator.Heedless) (id : NodeId) :
    ClassTree.inner <$> arena.classTree longer settings id =
      ClassTree.inner <$> arena.classTree decorators settings id := by
  have htrees (nesting : Nesting arena) : nesting.trees longer = nesting.trees decorators :=
    innerTrees_congr (Decorator.allInside_inserted h) arena.size nesting
  rw [classTree, classTree]
  rcases arena.get? id with _ | schema
  · rfl
  · dsimp only
    rcases schema.className? with _ | name
    · rfl
    · dsimp only
      rw [schema.inner_classTree, schema.inner_classTree, funext htrees]
      exact congrArg (· >>= _) (Nesting.decorating_requests _
        (Decorator.requests_allAtTop h hheedless schema _ _))

/-- If decorators only append, what is declared inside a class is what has grown there. -/
theorem Arena.innerClasses_classDecl (happ : ∀ decorator ∈ decorators, decorator.AppendsOnly)
    (id : NodeId) :
    ClassDecl.innerClasses <$> arena.classDecl decorators settings id =
      List.map ClassTree.decl <$> ClassTree.inner <$> arena.classTree decorators settings id := by
  rw [classDecl]
  rcases htree : arena.classTree decorators settings id with error | tree
  · rfl
  · obtain ⟨schema, name, after, -, -, hgrown⟩ := exists_grown htree
    exact congrArg Except.ok (hgrown.innerClasses_decl (schema.site_appends happ name))

/-- What looks the same from some side succeeds together. -/
theorem exists_ok_iff_of_map_eq {ε : Type} {f : α → β} {result other : Except ε α}
    (h : f <$> result = f <$> other) : (∃ a, result = .ok a) ↔ ∃ a, other = .ok a := by
  rcases result with error | a <;> rcases other with error' | a'
  · exact ⟨nofun, nofun⟩
  · cases h
  · cases h
  · exact ⟨fun _ => ⟨a', rfl⟩, fun _ => ⟨a, rfl⟩⟩

/-- Root-only decorators between the standard ones touch nothing inside: the class is made if
and only if it is made without them, and what is declared inside it is the same, level by
level. -/
theorem inner_untouched (arena : Arena) (settings : Settings) (id : NodeId)
    {decorators : List Decorator}
    (h : Inserted Decorator.RootOnly (Decorator.standard settings) decorators) :
    ((∃ c, arena.classDecl decorators settings id = .ok c) ↔
        ∃ c, arena.classDecl (Decorator.standard settings) settings id = .ok c) ∧
      ClassDecl.innerClasses <$> arena.classDecl decorators settings id =
        ClassDecl.innerClasses <$> arena.classDecl (Decorator.standard settings) settings id := by
  have happends := Decorator.standard_appendsOnly settings
  have hinner : ClassDecl.innerClasses <$> arena.classDecl decorators settings id =
      ClassDecl.innerClasses <$> arena.classDecl (Decorator.standard settings) settings id := by
    rw [Arena.innerClasses_classDecl happends, Arena.innerClasses_classDecl
        (h.forall_mem (fun _ hroot => hroot.appendsOnly) happends),
      Arena.inner_classTree_inserted h (Decorator.standard_heedless settings)]
  exact ⟨exists_ok_iff_of_map_eq hinner, hinner⟩

/-- Adds a field `start` to top-level classes. -/
def Decorator.startMark : Decorator where
  name := "StartDecorator"
  atTop := fun _ c => .done (c.addField { name := "start", type := ⟨"bool", []⟩ })

theorem Decorator.startMark_rootOnly : startMark.RootOnly :=
  ⟨rfl, fun _ c => ⟨_, rfl, c.addField_extends _⟩⟩

/-- In front of the standard decorators, a field takes the name of a property of the ring:
the property gets another one, and the two classes inside stay. -/
theorem ring_inner_untouched :
    Inserted Decorator.RootOnly (Decorator.standard {})
        (Decorator.startMark :: Decorator.standard {}) ∧
      (∃ c, Arena.ring.classDecl (Decorator.startMark :: Decorator.standard {}) {} ⟨0⟩ = .ok c ∧
        c.fields.map (·.name) = ["start", "start_2"] ∧ c.count = 3) ∧
      ClassDecl.innerClasses <$>
          Arena.ring.classDecl (Decorator.startMark :: Decorator.standard {}) {} ⟨0⟩ =
        ClassDecl.innerClasses <$> Arena.ring.classDecl (Decorator.standard {}) {} ⟨0⟩ :=
  ⟨.insert Decorator.startMark_rootOnly (.refl _), ⟨_, rfl, by decide, by decide⟩,
    (inner_untouched Arena.ring {} ⟨0⟩
      (.insert Decorator.startMark_rootOnly (.refl _))).2⟩

end ApiClasses
