import ApiClasses.Proofs.Growth
import Mathlib.Data.List.Pairwise

/-!
# The order of the standard decorators

The standard decorators may work in any order (`classDecl_reordered`). Two decorators commute
if it makes no difference which of them goes first, whatever their requests are answered with
(`Decorator.Commute`), and lists of decorators that commute pairwise may be permuted.

Of the standard decorators, all but one ask for nothing and change one part of a class that is
not its members (`Decorator.Changes`). The one that adds fields asks, and reads the members to
find free names, but nothing else: so it commutes with the others.
-/

namespace ApiClasses

variable {arena : Arena}

/-! ## Decorators that commute -/

/-- It makes no difference which of the two decorators goes first. -/
structure Decorator.Commute (first second : Decorator) : Prop where
  /-- on top-level classes -/
  atTop : ∀ {arena : Arena} (schema : Schema arena) (c : ClassDecl),
    (first.atTop schema c >>= second.atTop schema) = second.atTop schema c >>= first.atTop schema
  /-- on the classes inside -/
  inside : ∀ one ∈ first.inside?, ∀ other ∈ second.inside?, ∀ {arena : Arena}
    (className : String) (schema : Schema arena) (c : ClassDecl),
    (one className schema c >>= other className schema) =
      other className schema c >>= one className schema

/-- Steps that commute may be taken in any order. -/
theorem Decoration.foldlM_perm {α β : Type} {f : α → β → Decoration arena α} {steps others : List β}
    (hperm : steps.Perm others)
    (hcommute : ∀ step ∈ steps, ∀ other ∈ steps, ∀ a,
      (f a step >>= (f · other)) = f a other >>= (f · step)) (a : α) :
    steps.foldlM f a = others.foldlM f a := by
  induction hperm generalizing a with
  | nil => rfl
  | cons step _ ih =>
    rw [List.foldlM_cons, List.foldlM_cons]
    refine bind_congr fun b => ih (fun one hone other hother => ?_) b
    exact hcommute one (.tail _ hone) other (.tail _ hother)
  | swap first second rest =>
    have hfirst := hcommute first (.tail _ (.head _)) second (.head _) a
    simp only [List.foldlM_cons, ← bind_assoc, hfirst]
  | trans hfirst _ ihfirst ihsecond =>
    rw [ihfirst hcommute, ihsecond]
    intro step hstep other hother
    exact hcommute step (hfirst.mem_iff.mpr hstep) other (hfirst.mem_iff.mpr hother)

namespace Decorator

theorem Commute.refl (decorator : Decorator) : decorator.Commute decorator := by
  refine ⟨fun schema c => rfl, ?_⟩
  intro one hone other hother arena className schema c
  obtain rfl := Option.mem_unique hone hother
  rfl

theorem Commute.symm {first second : Decorator} (h : first.Commute second) :
    second.Commute first :=
  ⟨fun schema c => (h.atTop schema c).symm, fun one hone other hother _ className schema c =>
    (h.inside other hother one hone className schema c).symm⟩

variable {decorators others : List Decorator}

theorem allAtTop_perm (hperm : decorators.Perm others)
    (hcommute : ∀ first ∈ decorators, ∀ second ∈ decorators, first.Commute second)
    (schema : Schema arena) (c : ClassDecl) :
    allAtTop decorators schema c = allAtTop others schema c :=
  Decoration.foldlM_perm hperm
    (fun first hfirst second hsecond => (hcommute first hfirst second hsecond).atTop schema) c

theorem allInside_perm (hperm : decorators.Perm others)
    (hcommute : ∀ first ∈ decorators, ∀ second ∈ decorators, first.Commute second)
    (className : String) (schema : Schema arena) (c : ClassDecl) :
    allInside decorators className schema c = allInside others className schema c := by
  refine Decoration.foldlM_perm (hperm.filterMap _) ?_ c
  intro one hone other hother
  obtain ⟨first, hfirst, hone⟩ := List.mem_filterMap.mp hone
  obtain ⟨second, hsecond, hother⟩ := List.mem_filterMap.mp hother
  exact (hcommute first hfirst second hsecond).inside one hone other hother className schema

end Decorator

/-- Decorators that commute may be permuted: the class and everything inside it come out the
same, and so does the error if there is one. -/
theorem Arena.classTree_perm {decorators others : List Decorator}
    (hperm : decorators.Perm others)
    (hcommute : ∀ first ∈ decorators, ∀ second ∈ decorators, first.Commute second)
    (settings : Settings) (id : NodeId) :
    arena.classTree decorators settings id = arena.classTree others settings id := by
  have hinner (nesting : Nesting arena) : nesting.trees decorators = nesting.trees others :=
    innerTrees_congr (Decorator.allInside_perm hperm hcommute) arena.size nesting
  have hschema (schema : Schema arena) (name : String) :
      schema.classTree decorators settings name = schema.classTree others settings name := by
    rw [Schema.classTree, Schema.classTree, Decorator.allAtTop_perm hperm hcommute]
    simp only [hinner]
  simp only [classTree, hschema]

/-! ## Decorators that ask for nothing -/

/-- A decorator that asks for nothing and makes this change, wherever it works. -/
structure Decorator.Changes (decorator : Decorator)
    (change : {arena : Arena} → Schema arena → ClassDecl → ClassDecl) : Prop where
  /-- on top-level classes -/
  atTop : ∀ {arena : Arena} (schema : Schema arena) (c : ClassDecl),
    decorator.atTop schema c = .done (change schema c)
  /-- on the classes inside -/
  inside : ∀ decorate ∈ decorator.inside?, ∀ {arena : Arena} (className : String)
    (schema : Schema arena) (c : ClassDecl), decorate className schema c = .done (change schema c)

/-- A change of a class that has nothing to do with its members. -/
structure ClassDecl.Aside (change : ClassDecl → ClassDecl) : Prop where
  /-- members stay as they are -/
  members : ∀ c, (change c).members = c.members
  /-- fields are added before or after the change -/
  addField : ∀ c field, change (c.addField field) = (change c).addField field

/-- A change aside does not alter which member names are free. -/
theorem ClassDecl.Aside.propertyField_eq {change : ClassDecl → ClassDecl}
    (h : ClassDecl.Aside change) (c : ClassDecl) (property : String × Schema arena)
    (type : TypeRef) : propertyField (change c) property type = propertyField c property type := by
  have hdeclares : (change c).declares = c.declares := by
    funext name
    rw [ClassDecl.declares, ClassDecl.declares, h.members]
  have hname (base : String) : freeMemberName (change c) base = freeMemberName c base := by
    rw [freeMemberName, freeMemberName, hdeclares, h.members]
  simp only [propertyField, hname]

/-- The fields are the same before or after a change aside. -/
theorem ClassDecl.Aside.addProperties_eq {change : ClassDecl → ClassDecl}
    (h : ClassDecl.Aside change) (schema : Schema arena) (c : ClassDecl) :
    addProperties schema (change c) = change <$> addProperties schema c := by
  rw [addProperties, addProperties]
  induction schema.properties generalizing c with
  | nil => rfl
  | cons property rest ih =>
    rw [List.foldlM_cons, List.foldlM_cons, addProperty, addProperty, bind_assoc, bind_assoc,
      map_bind]
    refine bind_congr fun type => ?_
    rw [pure_bind, pure_bind, h.propertyField_eq, ← h.addField]
    exact ih _

namespace Decorator

variable {first second : Decorator}
  {change change' : {arena : Arena} → Schema arena → ClassDecl → ClassDecl}

/-- Decorators commute if their changes do. -/
theorem Changes.commute (hfirst : first.Changes change) (hsecond : second.Changes change')
    (h : ∀ {arena : Arena} (schema : Schema arena) c,
      change' schema (change schema c) = change schema (change' schema c)) :
    first.Commute second := by
  refine ⟨fun schema c => ?_, fun one hone other hother _ className schema c => ?_⟩
  · rw [hfirst.atTop, hsecond.atTop, Decoration.done_bind, Decoration.done_bind, hsecond.atTop,
      hfirst.atTop, h]
  · rw [hfirst.inside one hone, hsecond.inside other hother, Decoration.done_bind,
      Decoration.done_bind, hsecond.inside other hother, hfirst.inside one hone, h]

/-- A change aside commutes with the adding of fields. -/
theorem Changes.commute_fields (hfirst : first.Changes change)
    (haside : ∀ {arena : Arena} (schema : Schema arena), ClassDecl.Aside (change schema)) :
    first.Commute fields := by
  have hswap {arena : Arena} (schema : Schema arena) (c : ClassDecl) :
      (Decoration.done (change schema c) >>= addProperties schema) =
        addProperties schema c >>= fun c => .done (change schema c) := by
    rw [Decoration.done_bind, (haside schema).addProperties_eq, map_eq_pure_bind]
    rfl
  refine ⟨fun schema c => ?_, fun one hone other hother _ className schema c => ?_⟩
  · rw [hfirst.atTop, funext (hfirst.atTop schema)]
    exact hswap schema c
  · obtain rfl := Option.some.inj hother
    rw [hfirst.inside one hone, funext (hfirst.inside one hone className schema)]
    exact hswap schema c

/-! ## The standard decorators -/

/-- A decorator that makes a change everywhere. -/
theorem everywhere_changes {name : String}
    {decorate : {arena : Arena} → Schema arena → ClassDecl → Decoration arena ClassDecl}
    (h : ∀ {arena : Arena} (schema : Schema arena) c, decorate schema c = .done (change schema c)) :
    (everywhere name decorate).Changes change := by
  refine ⟨fun schema c => h schema c, ?_⟩
  rintro _ ⟨⟩ arena className schema c
  exact h schema c

theorem doc_changes : doc.Changes fun schema c =>
    { c with doc := (schema.description.map trim).or c.doc } := by
  refine everywhere_changes fun schema c => ?_
  obtain ⟨name, doc, visibility, attributes, traits, members⟩ := c
  rcases schema.description with _ | description
  · rfl
  · rfl

theorem derives_changes (traits : List String) : (derives traits).Changes fun _ c =>
    { c with attributes := c.attributes ++
        if traits.isEmpty then [] else ["derive(" ++ ", ".intercalate traits ++ ")"] } := by
  refine everywhere_changes fun schema c => ?_
  obtain ⟨name, doc, visibility, attributes, traits, members⟩ := c
  split
  · rw [List.append_nil]
    rfl
  · rfl

theorem answerMark_changes (traitName : String) : (answerMark traitName).Changes fun _ c =>
    { c with traits := c.traits ++
        if c.traits.contains ⟨traitName, []⟩ then [] else [⟨traitName, []⟩] } := by
  refine ⟨fun schema c => ?_, fun {decorate} hnone => ?_⟩
  · obtain ⟨name, doc, visibility, attributes, traits, members⟩ := c
    dsimp only [answerMark]
    split
    · rw [List.append_nil]
      rfl
    · rfl
  · cases hnone

/-- Any two of the standard decorators commute. -/
theorem standard_commute (settings : Settings) :
    ∀ first ∈ standard settings, ∀ second ∈ standard settings, first.Commute second := by
  have hdoc := doc_changes
  have hderives := derives_changes settings.derives
  have hmark := answerMark_changes answerTrait
  have hpairs : (standard settings).Pairwise Commute := by
    simp only [standard, List.pairwise_cons, List.forall_mem_cons, List.not_mem_nil,
      false_implies, implies_true, and_true, List.Pairwise.nil]
    refine ⟨⟨hdoc.commute hderives fun _ _ => rfl, hdoc.commute hmark fun _ _ => rfl,
      hdoc.commute_fields fun _ => ⟨fun _ => rfl, fun _ _ => rfl⟩⟩,
      ⟨hderives.commute hmark fun _ _ => rfl,
        hderives.commute_fields fun _ => ⟨fun _ => rfl, fun _ _ => rfl⟩⟩,
      hmark.commute_fields fun _ => ⟨fun _ => rfl, fun _ _ => rfl⟩⟩
  have : Std.Symm Commute := ⟨fun _ _ => Commute.symm⟩
  intro first hfirst second hsecond
  exact hpairs.forall_of_forall (fun decorator _ => .refl decorator) hfirst hsecond

end Decorator

/-- The standard decorators may work in any order. The class of a schema comes out the same,
with everything inside it, or fails for the same reason. -/
theorem classDecl_reordered (arena : Arena) (settings : Settings) (id : NodeId)
    {decorators : List Decorator} (h : decorators.Perm (Decorator.standard settings)) :
    arena.classDecl decorators settings id =
      arena.classDecl (Decorator.standard settings) settings id := by
  rw [Arena.classDecl, Arena.classDecl,
    ← Arena.classTree_perm h.symm (Decorator.standard_commute settings)]

/-- Backwards, the standard decorators make the same class of the ring. -/
theorem ring_backwards :
    (Decorator.standard {}).reverse.Perm (Decorator.standard {}) ∧
      (∃ c, Arena.ring.classDecl (Decorator.standard {}).reverse {} ⟨0⟩ = .ok c) ∧
      Arena.ring.classDecl (Decorator.standard {}).reverse {} ⟨0⟩ =
        Arena.ring.classDecl (Decorator.standard {}) {} ⟨0⟩ :=
  ⟨List.reverse_perm _, ⟨_, rfl⟩,
    classDecl_reordered Arena.ring {} ⟨0⟩ (List.reverse_perm _)⟩

end ApiClasses
