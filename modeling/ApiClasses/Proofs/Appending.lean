import ApiClasses.ClassTree
import ApiClasses.Decoration.Standard

/-!
# Decorators that only append

Most decorators leave a class as they found it and put something after it:
fields, attributes, traits. Such a decorator can neither rename the class nor
declare classes inside it, whatever its requests are answered with. The standard
decorators are of this kind (`Decorator.standard_appendsOnly`).
-/

namespace ApiClasses

variable {arena : Arena} {α β : Type}

/-! ## All results of a decoration -/

/-- Whatever the requests are answered with, the result has the property. -/
def Decoration.Always (P : α → Prop) : Decoration arena α → Prop
  | done result => P result
  | fail _ => True
  | request _ next => ∀ type, (next type).Always P
  | requestStranger _ next => ∀ type, (next type).Always P

namespace Decoration

theorem always_bind {P : α → Prop} {Q : β → Prop} {m : Decoration arena α}
    {f : α → Decoration arena β} (hm : m.Always P) (hf : ∀ a, P a → (f a).Always Q) :
    (m >>= f).Always Q := by
  induction m with
  | done result => exact hf result hm
  | fail error => trivial
  | request schema next ih => exact fun type => ih type (hm type)
  | requestStranger id next ih => exact fun type => ih type (hm type)

/-- Nothing is promised of the results on the way. -/
theorem always_true (m : Decoration arena α) : m.Always fun _ => True := by
  induction m with
  | done result => trivial
  | fail error => trivial
  | request schema next ih => exact ih
  | requestStranger id next ih => exact ih

theorem Always.imp {P Q : α → Prop} {m : Decoration arena α} (hm : m.Always P)
    (h : ∀ a, P a → Q a) : m.Always Q :=
  bind_done m ▸ always_bind hm h

end Decoration

/-- What a run ends with is one of the results. -/
theorem Nesting.run_always {P : α → Prop} {nesting after : Nesting arena}
    {m : Decoration arena α} {a : α} (hm : m.Always P) (h : nesting.run m = .ok (a, after)) :
    P a := by
  induction m generalizing nesting with
  | done result =>
    obtain ⟨rfl, -⟩ := Prod.mk.inj (Except.ok.inj h)
    exact hm
  | fail error => cases h
  | request schema next ih => exact ih _ (hm _) h
  | requestStranger id next ih => exact ih _ (hm _) h

/-! ## Appending -/

/-- `after` is `before` with fields, attributes and traits appended; its doc comment
may be another one. -/
structure ClassDecl.Extends (after before : ClassDecl) : Prop where
  /-- the name stays -/
  name : after.name = before.name
  /-- the same may see it -/
  visibility : after.visibility = before.visibility
  /-- attributes are appended -/
  attributes : before.attributes <+: after.attributes
  /-- traits are appended -/
  traits : before.traits <+: after.traits
  /-- of the members, only fields are appended -/
  members : ∃ fields : List ClassField, after.members = before.members ++ fields.map .field

namespace ClassDecl

theorem Extends.refl (c : ClassDecl) : c.Extends c :=
  ⟨rfl, rfl, List.prefix_rfl, List.prefix_rfl, [], (List.append_nil _).symm⟩

theorem Extends.trans {first second third : ClassDecl} (h₁ : third.Extends second)
    (h₂ : second.Extends first) : third.Extends first := by
  refine ⟨h₁.name.trans h₂.name, h₁.visibility.trans h₂.visibility,
    h₂.attributes.trans h₁.attributes, h₂.traits.trans h₁.traits, ?_⟩
  obtain ⟨fields₁, hfields₁⟩ := h₁.members
  obtain ⟨fields₂, hfields₂⟩ := h₂.members
  refine ⟨fields₂ ++ fields₁, ?_⟩
  rw [hfields₁, hfields₂, List.map_append, List.append_assoc]

/-- No class is declared inside that was not before… -/
theorem Extends.innerClasses_eq {after before : ClassDecl} (h : after.Extends before) :
    after.innerClasses = before.innerClasses := by
  obtain ⟨fields, hfields⟩ := h.members
  simp [innerClasses, hfields, List.filterMap_map, Function.comp_def, Member.inner?]

/-- …and there is no new method. -/
theorem Extends.methods_eq {after before : ClassDecl} (h : after.Extends before) :
    after.methods = before.methods := by
  obtain ⟨fields, hfields⟩ := h.members
  simp [methods, hfields, List.filterMap_map, Function.comp_def, Member.method?]

theorem addField_extends (c : ClassDecl) (field : ClassField) : (c.addField field).Extends c :=
  ⟨rfl, rfl, List.prefix_rfl, List.prefix_rfl, [field], rfl⟩

theorem addAttribute_extends (c : ClassDecl) (text : String) :
    (c.addAttribute text).Extends c :=
  ⟨rfl, rfl, List.prefix_append .., List.prefix_rfl, [], (List.append_nil _).symm⟩

theorem addTrait_extends (c : ClassDecl) (type : TypeRef) : (c.addTrait type).Extends c :=
  ⟨rfl, rfl, List.prefix_rfl, List.prefix_append .., [], (List.append_nil _).symm⟩

end ClassDecl

/-- A decorator that only appends, on classes of every level. -/
structure Decorator.AppendsOnly (decorator : Decorator) : Prop where
  /-- on top-level classes -/
  atTop : ∀ {arena : Arena} (schema : Schema arena) (c : ClassDecl),
    (decorator.atTop schema c).Always (·.Extends c)
  /-- on the classes inside -/
  inside : ∀ decorate ∈ decorator.inside?, ∀ {arena : Arena} (className : String)
    (schema : Schema arena) (c : ClassDecl), (decorate className schema c).Always (·.Extends c)

/-- Steps in a row append if each of them does. -/
theorem Decoration.foldlM_extends {f : ClassDecl → β → Decoration arena ClassDecl}
    {steps : List β} (hf : ∀ step ∈ steps, ∀ c, (f c step).Always (·.Extends c))
    (c : ClassDecl) : (steps.foldlM f c).Always (·.Extends c) := by
  induction steps generalizing c with
  | nil => exact .refl c
  | cons step rest ih =>
    obtain ⟨hstep, hrest⟩ := List.forall_mem_cons.mp hf
    refine always_bind (hstep c) fun middle hmiddle => ?_
    exact (ih hrest middle).imp fun _ hlast => hlast.trans hmiddle

namespace Decorator

variable {decorators : List Decorator}

theorem allAtTop_extends (h : ∀ decorator ∈ decorators, decorator.AppendsOnly)
    (schema : Schema arena) (c : ClassDecl) :
    (allAtTop decorators schema c).Always (·.Extends c) :=
  Decoration.foldlM_extends (fun decorator hmem => (h decorator hmem).atTop schema) c

theorem allInside_extends (h : ∀ decorator ∈ decorators, decorator.AppendsOnly)
    (className : String) (schema : Schema arena) (c : ClassDecl) :
    (allInside decorators className schema c).Always (·.Extends c) := by
  refine Decoration.foldlM_extends (fun decorate hmem => ?_) c
  obtain ⟨decorator, hdecorator, hinside⟩ := List.mem_filterMap.mp hmem
  exact (h decorator hdecorator).inside decorate hinside className schema

/-- A decorator that does the same everywhere appends if it does so anywhere. -/
theorem everywhere_appendsOnly {name : String}
    {decorate : {arena : Arena} → Schema arena → ClassDecl → Decoration arena ClassDecl}
    (h : ∀ {arena : Arena} (schema : Schema arena) c, (decorate schema c).Always (·.Extends c)) :
    (everywhere name decorate).AppendsOnly := by
  refine ⟨fun schema c => h schema c, ?_⟩
  rintro _ ⟨⟩ arena className schema c
  exact h schema c

/-! ## The standard decorators -/

theorem doc_appendsOnly : doc.AppendsOnly := by
  refine everywhere_appendsOnly fun schema c => ?_
  rcases schema.description with _ | description
  · exact .refl c
  · exact ⟨rfl, rfl, List.prefix_rfl, List.prefix_rfl, [], (List.append_nil _).symm⟩

theorem derives_appendsOnly (traits : List String) : (derives traits).AppendsOnly := by
  refine everywhere_appendsOnly fun schema c => ?_
  by_cases h : traits.isEmpty
  · rw [if_pos h]
    exact .refl c
  · rw [if_neg h]
    exact c.addAttribute_extends _

theorem answerMark_appendsOnly (traitName : String) : (answerMark traitName).AppendsOnly := by
  refine ⟨fun schema c => ?_, fun {decorate} hnone => ?_⟩
  · dsimp only [answerMark]
    by_cases h : c.traits.contains ⟨traitName, []⟩
    · rw [if_pos h]
      exact .refl c
    · rw [if_neg h]
      exact c.addTrait_extends _
  · -- classes inside never get the mark
    cases hnone

theorem fields_appendsOnly : fields.AppendsOnly := by
  refine everywhere_appendsOnly fun schema c => ?_
  refine Decoration.foldlM_extends (fun property _ c => ?_) c
  -- whatever type the property gets, one field is added
  exact Decoration.always_bind (Decoration.always_true _) fun type _ => c.addField_extends _

/-- Every standard decorator only appends. -/
theorem standard_appendsOnly (settings : Settings) :
    ∀ decorator ∈ standard settings, decorator.AppendsOnly := by
  simp only [standard, List.forall_mem_cons]
  exact ⟨doc_appendsOnly, derives_appendsOnly _, answerMark_appendsOnly _, fields_appendsOnly,
    nofun⟩

end Decorator

end ApiClasses
