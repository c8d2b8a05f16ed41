import ApiClasses.Generation
import ApiClasses.Proofs.Checks
import ApiClasses.Proofs.FieldTypes

/-!
# Descriptions in classes

Descriptions become doc comments and nothing else. No step of a generation looks at a
description, or at a comment that is there already, to decide anything. So if all descriptions
are left out, each step goes the same way: the arena looks the same, decorators ask for the same
schemas, nestings answer with the same names, and the classes are the same but for their doc
comments (`Arena.classDecl_undescribed`).

Documents that differ in descriptions alone become one document then. Hence they fail with the
same error, or give classes that differ in doc comments alone (`standardClasses_alike`).
-/

namespace ApiClasses

variable {arena : Arena} {α β γ δ : Type}

/-! ## Without descriptions -/

/-- The node without its description. -/
def Node.undescribed (node : Node) : Node := { node with description := none }

/-- The arena without descriptions. -/
def Arena.undescribed (arena : Arena) : Arena := ⟨arena.nodes.map Node.undescribed⟩

/-- The document without the descriptions of its schemas. -/
def Document.undescribed (doc : Document) : Document :=
  { doc with arena := doc.arena.undescribed }

@[simp] theorem Arena.size_undescribed (arena : Arena) : arena.undescribed.size = arena.size := by
  simp [undescribed, size]

namespace Schema

/-- The same schema in the arena without descriptions. -/
def undescribed (schema : Schema arena) : Schema arena.undescribed :=
  ⟨schema.id, arena.size_undescribed.symm ▸ schema.inside⟩

end Schema

theorem Arena.get?_undescribed (arena : Arena) (id : NodeId) :
    arena.undescribed.get? id = (arena.get? id).map Schema.undescribed := by
  by_cases hin : id.index < arena.size
  · have hin' : id.index < arena.undescribed.size := by rwa [size_undescribed]
    rw [get?, get?, dif_pos hin, dif_pos hin']
    rfl
  · have hout : ¬ id.index < arena.undescribed.size := by rwa [size_undescribed]
    rw [get?, get?, dif_neg hin, dif_neg hout]
    rfl

namespace Schema

variable (schema property owner : Schema arena)

@[simp] theorem id_undescribed : schema.undescribed.id = schema.id := rfl

@[simp] theorem node_undescribed : schema.undescribed.node = schema.node.undescribed :=
  Array.getElem_map ..

@[simp] theorem shape_undescribed : schema.undescribed.shape = schema.shape := by
  rw [shape, node_undescribed]
  rfl

@[simp] theorem description_undescribed : schema.undescribed.description = none := by
  rw [description, node_undescribed]
  rfl

@[simp] theorem className?_undescribed : schema.undescribed.className? = schema.className? := by
  rw [className?, name, node_undescribed]
  rfl

@[simp] theorem isObject_undescribed : schema.undescribed.isObject = schema.isObject := by
  rw [isObject, shape_undescribed]
  rfl

/-- The children are the same schemas. -/
@[simp] theorem properties_undescribed :
    schema.undescribed.properties = schema.properties.map fun p => (p.1, p.2.undescribed) := by
  rw [properties, properties, shape_undescribed, List.map_filterMap]
  refine List.filterMap_congr fun p _ => ?_
  rw [Arena.get?_undescribed]
  cases arena.get? p.schema <;> rfl

@[simp] theorem items_undescribed :
    schema.undescribed.items = schema.items.map undescribed := by
  rw [items, items, shape_undescribed]
  cases schema.shape.items with
  | none => rfl
  | some id => exact arena.get?_undescribed id

@[simp] theorem additional_undescribed :
    schema.undescribed.additional = schema.additional.map undescribed := by
  rw [additional, additional, shape_undescribed]
  cases schema.shape.additional with
  | none => rfl
  | some id => exact arena.get?_undescribed id

/-! ### Chains -/

@[simp] theorem isByValue_undescribed : schema.undescribed.isByValue = schema.isByValue := by
  rw [isByValue, isByValue, shape_undescribed, className?_undescribed]

@[simp] theorem byValueProperties_undescribed :
    schema.undescribed.byValueProperties = schema.byValueProperties.map undescribed := by
  rw [byValueProperties, byValueProperties, properties_undescribed, List.map_map, List.filter_map,
    List.filter_map, List.map_map]
  simp [Function.comp_def]

theorem search_undescribed (goal : NodeId) (steps : Nat) (opened : List NodeId)
    (stack : List (Schema arena)) :
    search goal steps opened (stack.map undescribed) = search goal steps opened stack := by
  induction steps generalizing opened stack with
  | zero => rfl
  | succ steps ih =>
    cases stack with
    | nil => rfl
    | cons schema rest =>
      rw [List.map_cons, search, search, ih, byValueProperties_undescribed, ← List.map_append, ih]
      rfl

@[simp] theorem propertyCount_undescribed :
    arena.undescribed.propertyCount = arena.propertyCount := by
  rw [Arena.propertyCount, Arena.propertyCount, Arena.undescribed, Array.toList_map,
    List.foldr_map]
  rfl

@[simp] theorem leadsTo_undescribed (goal : NodeId) :
    schema.undescribed.leadsTo goal = schema.leadsTo goal := by
  rw [leadsTo, leadsTo, propertyCount_undescribed]
  exact search_undescribed goal _ [] [schema]

end Schema

/-! ## Programs -/

/-- The program that asks for the same schemas in the arena without descriptions, and ends in
what `view` shows of the result. -/
def Decoration.undescribed (view : α → β) : Decoration arena α → Decoration arena.undescribed β
  | .done result => .done (view result)
  | .fail error => .fail error
  | .request schema next => .request schema.undescribed fun type => (next type).undescribed view
  | .requestStranger id next => .requestStranger id fun type => (next type).undescribed view

namespace Decoration

variable {view : α → β} {view' : γ → δ}

theorem undescribed_bind {m : Decoration arena α} {next : α → Decoration arena γ}
    (next' : β → Decoration arena.undescribed δ)
    (h : ∀ a, next' (view a) = (next a).undescribed view') :
    (m >>= next).undescribed view' = m.undescribed view >>= next' := by
  induction m with
  | done result => exact (h result).symm
  | fail error => rfl
  | request schema further ih => exact congrArg (request schema.undescribed) (funext ih)
  | requestStranger id further ih => exact congrArg (requestStranger id) (funext ih)

/-- Steps in a row. -/
theorem undescribed_foldlM (view' : γ → δ) {f : α → γ → Decoration arena α}
    {f' : β → δ → Decoration arena.undescribed β} {steps : List γ}
    (h : ∀ step ∈ steps, ∀ a, f' (view a) (view' step) = (f a step).undescribed view) (a : α) :
    (steps.foldlM f a).undescribed view = (steps.map view').foldlM f' (view a) := by
  induction steps generalizing a with
  | nil => rfl
  | cons step rest ih =>
    obtain ⟨hstep, hrest⟩ := List.forall_mem_cons.mp h
    rw [List.foldlM_cons, List.map_cons, List.foldlM_cons, hstep]
    apply undescribed_bind
    intro a
    exact (ih hrest a).symm

/-- The same steps on both sides. -/
theorem undescribed_foldlM_same {f : α → γ → Decoration arena α}
    {f' : β → γ → Decoration arena.undescribed β} {steps : List γ}
    (h : ∀ step ∈ steps, ∀ a, f' (view a) step = (f a step).undescribed view) (a : α) :
    (steps.foldlM f a).undescribed view = steps.foldlM f' (view a) := by
  rw [undescribed_foldlM id h, List.map_id]

theorem undescribed_map (m : Decoration arena α) (f : α → α) :
    (f <$> m).undescribed id = f <$> m.undescribed id := by
  rw [map_eq_pure_bind, map_eq_pure_bind]
  exact undescribed_bind (fun a => .done (f a)) fun a => rfl

end Decoration

/-- The type of a schema is asked for in the same way. -/
theorem fieldType_undescribed (layers : Nat) (opened : List NodeId) (schema : Schema arena) :
    fieldType layers opened schema.undescribed =
      (fieldType layers opened schema).undescribed id := by
  induction layers using Nat.strongRecOn generalizing opened schema with
  | ind layers ih =>
    have hcontent (content : Schema arena) :
        contentType layers opened schema.undescribed content.undescribed =
          (contentType layers opened schema content).undescribed id := by
      cases layers with
      | zero => rfl
      | succ layers =>
        rw [contentType, contentType, Schema.id_undescribed]
        split
        · rfl
        · exact ih layers (Nat.lt_succ_self layers) _ content
    rw [fieldType_eq, fieldType_eq, Schema.shape_undescribed, Schema.items_undescribed,
      Schema.additional_undescribed, Schema.className?_undescribed]
    cases schema.shape with
    | any | boolean | integer | number | string => rfl
    | array _ =>
      cases schema.items with
      | none => rfl
      | some item =>
        rw [Decoration.undescribed_map, ← hcontent]
        rfl
    | object properties _ =>
      cases schema.className? with
      | some name => rfl
      | none =>
        cases schema.additional with
        | none => rfl
        | some value =>
          dsimp only [Option.map_some]
          split
          · rw [Decoration.undescribed_map, ← hcontent]
          · rfl

theorem type_undescribed (schema : Schema arena) :
    schema.undescribed.type = schema.type.undescribed id := by
  rw [Schema.type, Schema.typeInside, Arena.size_undescribed]
  exact fieldType_undescribed arena.size [] schema

theorem propertyType_undescribed (owner property : Schema arena) :
    propertyType owner.undescribed property.undescribed =
      (propertyType owner property).undescribed id := by
  rw [propertyType, propertyType, Schema.isByValue_undescribed, Schema.leadsTo_undescribed,
    Schema.id_undescribed, type_undescribed]
  symm
  apply Decoration.undescribed_bind
  intro type
  rfl

/-! ## Classes without doc comments -/

/-- The field without its doc comment. -/
def ClassField.undocumented (field : ClassField) : ClassField := { field with doc := none }

/-- The method without its doc comment. -/
def ClassMethod.undocumented (method : ClassMethod) : ClassMethod := { method with doc := none }

namespace ClassDecl

mutual

/-- The class without doc comments, at any depth. -/
def undocumented : ClassDecl → ClassDecl
  | ⟨name, _, visibility, attributes, traits, members⟩ =>
    ⟨name, none, visibility, attributes, traits, undocumentedMembers members⟩

/-- The members without doc comments. -/
def undocumentedMembers : List (Member ClassDecl) → List (Member ClassDecl)
  | [] => []
  | .field field :: rest => .field field.undocumented :: undocumentedMembers rest
  | .method method :: rest => .method method.undocumented :: undocumentedMembers rest
  | .inner c :: rest => .inner c.undocumented :: undocumentedMembers rest

end

end ClassDecl

/-- The member without doc comments. -/
def Member.undocumented : Member ClassDecl → Member ClassDecl
  | .field f => .field f.undocumented
  | .method m => .method m.undocumented
  | .inner c => .inner c.undocumented

namespace Member

variable (member : Member ClassDecl)

@[simp] theorem name_undocumented : member.undocumented.name = member.name := by
  cases member with
  | field | method => rfl
  | inner c =>
    obtain ⟨name, doc, visibility, attributes, traits, members⟩ := c
    rw [undocumented, ClassDecl.undocumented]
    rfl

@[simp] theorem field?_undocumented :
    member.undocumented.field? = member.field?.map ClassField.undocumented := by
  cases member <;> rfl

@[simp] theorem method?_undocumented :
    member.undocumented.method? = member.method?.map ClassMethod.undocumented := by
  cases member <;> rfl

@[simp] theorem inner?_undocumented :
    member.undocumented.inner? = member.inner?.map ClassDecl.undocumented := by
  cases member <;> rfl

end Member

namespace ClassDecl

variable (c : ClassDecl)

theorem undocumentedMembers_eq_map (members : List (Member ClassDecl)) :
    undocumentedMembers members = members.map Member.undocumented := by
  induction members with
  | nil => rfl
  | cons member rest ih =>
    rw [List.map_cons, ← ih]
    cases member <;> rfl

theorem undocumented_eq :
    c.undocumented =
      { c with doc := none, members := c.members.map Member.undocumented } := by
  obtain ⟨name, doc, visibility, attributes, traits, members⟩ := c
  rw [undocumented, undocumentedMembers_eq_map]

@[simp] theorem name_undocumented : c.undocumented.name = c.name := by
  rw [undocumented_eq]

@[simp] theorem members_undocumented :
    c.undocumented.members = c.members.map Member.undocumented := by
  rw [undocumented_eq]

@[simp] theorem visibility_undocumented : c.undocumented.visibility = c.visibility := by
  rw [undocumented_eq]

@[simp] theorem attributes_undocumented : c.undocumented.attributes = c.attributes := by
  rw [undocumented_eq]

@[simp] theorem traits_undocumented : c.undocumented.traits = c.traits := by
  rw [undocumented_eq]

/-! ### Adding without comments -/

theorem undocumented_addField (field : ClassField) :
    (c.addField field).undocumented = c.undocumented.addField field.undocumented := by
  rw [undocumented_eq, undocumented_eq, addField, List.map_append]
  rfl

theorem undocumented_addAttribute (text : String) :
    (c.addAttribute text).undocumented = c.undocumented.addAttribute text := by
  rw [undocumented_eq, undocumented_eq]
  rfl

theorem undocumented_addTrait (type : TypeRef) :
    (c.addTrait type).undocumented = c.undocumented.addTrait type := by
  rw [undocumented_eq, undocumented_eq]
  rfl

theorem undocumented_addInner (inner : List ClassDecl) :
    (c.addInner inner).undocumented = c.undocumented.addInner (inner.map undocumented) := by
  rw [undocumented_eq, undocumented_eq, addInner, addInner, List.map_append, List.map_map,
    List.map_map]
  rfl

/-! ### Looking -/

theorem fields_undocumented : c.undocumented.fields = c.fields.map ClassField.undocumented := by
  rw [fields, fields, members_undocumented, List.filterMap_map, List.map_filterMap]
  refine List.filterMap_congr fun member _ => ?_
  exact member.field?_undocumented

theorem methods_undocumented :
    c.undocumented.methods = c.methods.map ClassMethod.undocumented := by
  rw [methods, methods, members_undocumented, List.filterMap_map, List.map_filterMap]
  refine List.filterMap_congr fun member _ => ?_
  exact member.method?_undocumented

theorem innerClasses_undocumented :
    c.undocumented.innerClasses = c.innerClasses.map undocumented := by
  rw [innerClasses, innerClasses, members_undocumented, List.filterMap_map, List.map_filterMap]
  refine List.filterMap_congr fun member _ => ?_
  exact member.inner?_undocumented

@[simp] theorem declares_undocumented (name : String) :
    c.undocumented.declares name = c.declares name := by
  simp [declares, List.any_map, Function.comp_def]

/-- Comments take no names. -/
@[simp] theorem freeMemberName_undocumented (base : String) :
    freeMemberName c.undocumented base = freeMemberName c base := by
  simp [freeMemberName]

end ClassDecl

/-! ## Decorators -/

theorem propertyField_undescribed (c : ClassDecl) (property : String × Schema arena)
    (type : TypeRef) :
    propertyField c.undocumented (property.1, property.2.undescribed) type =
      (propertyField c property type).undocumented := by
  simp [propertyField, ClassField.undocumented]

/-- A field is added in the same way. -/
theorem addProperty_undescribed (owner : Schema arena) (c : ClassDecl)
    (property : String × Schema arena) :
    addProperty owner.undescribed c.undocumented (property.1, property.2.undescribed) =
      (addProperty owner c property).undescribed ClassDecl.undocumented := by
  rw [addProperty, addProperty, propertyType_undescribed]
  symm
  apply Decoration.undescribed_bind
  intro type
  rw [propertyField_undescribed, ← ClassDecl.undocumented_addField]
  rfl

theorem addProperties_undescribed (schema : Schema arena) (c : ClassDecl) :
    addProperties schema.undescribed c.undocumented =
      (addProperties schema c).undescribed ClassDecl.undocumented := by
  rw [addProperties, addProperties, Schema.properties_undescribed]
  symm
  apply Decoration.undescribed_foldlM
  intro property _ c
  exact addProperty_undescribed schema c property

/-- A decorator that takes nothing from descriptions but doc comments. -/
structure Decorator.Overlooks (decorator : Decorator) : Prop where
  /-- on top-level classes -/
  atTop : ∀ {arena : Arena} (schema : Schema arena) (c : ClassDecl),
    decorator.atTop schema.undescribed c.undocumented =
      (decorator.atTop schema c).undescribed ClassDecl.undocumented
  /-- on the classes inside -/
  inside : ∀ decorate ∈ decorator.inside?, ∀ {arena : Arena} (className : String)
    (schema : Schema arena) (c : ClassDecl),
    decorate className schema.undescribed c.undocumented =
      (decorate className schema c).undescribed ClassDecl.undocumented

namespace Decorator

/-- A decorator that does the same everywhere overlooks descriptions if it does so anywhere. -/
theorem everywhere_overlooks {name : String}
    {decorate : {arena : Arena} → Schema arena → ClassDecl → Decoration arena ClassDecl}
    (h : ∀ {arena : Arena} (schema : Schema arena) (c : ClassDecl),
      decorate schema.undescribed c.undocumented =
        (decorate schema c).undescribed ClassDecl.undocumented) :
    (everywhere name decorate).Overlooks := by
  refine ⟨h, ?_⟩
  rintro _ ⟨⟩ arena className schema c
  exact h schema c

/-- All that the description of a schema becomes is a doc comment. -/
theorem doc_overlooks : doc.Overlooks := by
  apply everywhere_overlooks
  intro arena schema c
  rw [Schema.description_undescribed]
  cases schema.description with
  | none => rfl
  | some description =>
    refine congrArg Decoration.done ?_
    rw [ClassDecl.undocumented_eq, ClassDecl.undocumented_eq]

theorem derives_overlooks (traits : List String) : (derives traits).Overlooks := by
  apply everywhere_overlooks
  intro arena schema c
  split
  · rfl
  · exact congrArg Decoration.done (c.undocumented_addAttribute _).symm

theorem answerMark_overlooks (traitName : String) : (answerMark traitName).Overlooks := by
  constructor
  · intro arena schema c
    dsimp only [answerMark]
    rw [ClassDecl.traits_undocumented]
    split
    · rfl
    · exact congrArg Decoration.done (c.undocumented_addTrait _).symm
  · rintro _ ⟨⟩

theorem fields_overlooks : fields.Overlooks :=
  everywhere_overlooks addProperties_undescribed

/-- The standard decorators overlook descriptions. -/
theorem standard_overlooks (settings : Settings) :
    ∀ decorator ∈ standard settings, decorator.Overlooks := by
  simp only [standard, List.forall_mem_cons]
  exact ⟨doc_overlooks, derives_overlooks _, answerMark_overlooks _, fields_overlooks,
    List.forall_mem_nil _⟩

variable {decorators : List Decorator} (h : ∀ decorator ∈ decorators, decorator.Overlooks)

include h

theorem allAtTop_undescribed (schema : Schema arena) (c : ClassDecl) :
    allAtTop decorators schema.undescribed c.undocumented =
      (allAtTop decorators schema c).undescribed ClassDecl.undocumented := by
  symm
  apply Decoration.undescribed_foldlM_same
  intro decorator hmem c
  exact (h decorator hmem).atTop schema c

theorem allInside_undescribed (className : String) (schema : Schema arena) (c : ClassDecl) :
    allInside decorators className schema.undescribed c.undocumented =
      (allInside decorators className schema c).undescribed ClassDecl.undocumented := by
  symm
  apply Decoration.undescribed_foldlM_same
  intro decorate hmem c
  obtain ⟨decorator, hdecorator, hinside⟩ := List.mem_filterMap.mp hmem
  exact (h decorator hdecorator).inside decorate hinside className schema c

end Decorator

/-! ## Nestings -/

/-- The nesting that has come to the same in the arena without descriptions. -/
def Nesting.undescribed (nesting : Nesting arena) : Nesting arena.undescribed where
  settings := nesting.settings
  trail := nesting.trail
  outer := nesting.outer
  numbers := nesting.numbers
  named := nesting.named.map Schema.undescribed
  strangers := nesting.strangers
  answers := nesting.answers

namespace Nesting

variable (nesting : Nesting arena)

theorem name?_undescribed (schema : Schema arena) :
    nesting.undescribed.name? schema.undescribed.id = nesting.name? schema.id := rfl

/-- A request is answered with the same name and leaves the same behind. -/
theorem request_undescribed (schema : Schema arena) :
    nesting.undescribed.request schema.undescribed =
      ((nesting.request schema).1, (nesting.request schema).2.undescribed) := by
  have hsame := nesting.name?_undescribed schema
  rcases hname : nesting.name? schema.id with _ | name
  · rw [hname] at hsame
    rw [request_of_new hname, request_of_new hsame]
    simp [handOut, register, undescribed, nestedName]
  · rw [hname] at hsame
    rw [request_of_name? hname, request_of_name? hsame]
    rfl

/-- The same program is run in the same way. -/
theorem run_undescribed (view : α → β) (m : Decoration arena α) :
    nesting.undescribed.run (m.undescribed view) =
      (fun ended => (view ended.1, ended.2.undescribed)) <$> nesting.run m := by
  induction m generalizing nesting with
  | done result => rfl
  | fail error => rfl
  | request schema next ih =>
    rw [Decoration.undescribed, run, run, request_undescribed]
    exact ih _ (nesting.request schema).2
  | requestStranger id next ih => exact ih _ (nesting.requestStranger id).2

theorem decorating_undescribed (m : Decoration arena ClassDecl) :
    nesting.undescribed.decorating (m.undescribed ClassDecl.undocumented) =
      (fun ended => (ended.1.undocumented, ended.2.undescribed)) <$> nesting.decorating m := by
  rw [decorating, decorating, run_undescribed]
  cases nesting.run m <;> rfl

theorem numbered_undescribed :
    nesting.undescribed.numbered = nesting.numbered.map fun entry =>
      (entry.1.undescribed, entry.2) := by
  rw [numbered, numbered, undescribed, List.zipIdx_map]
  rfl

theorem inside_undescribed (number : Nat) :
    nesting.undescribed.inside number = (nesting.inside number).undescribed := by
  have houter : nesting.undescribed.outerInside = nesting.outerInside := by
    rw [outerInside, outerInside, numbered_undescribed, List.map_map]
    rfl
  rw [inside, inside, houter]
  rfl

end Nesting

/-! ## Ends -/

/-- Both end in the same error, or both in results that are related. -/
inductive SameEnd {ε : Type} (R : α → β → Prop) : Except ε α → Except ε β → Prop where
  /-- in an error -/
  | error (error : ε) : SameEnd R (.error error) (.error error)
  /-- in results -/
  | ok {a b} : R a b → SameEnd R (.ok a) (.ok b)

namespace SameEnd

variable {ε : Type} {R : α → β → Prop} {S : γ → δ → Prop}

/-- What is done next ends in the same way if it does so on related results. -/
theorem bind {m : Except ε α} {m' : Except ε β} {f : α → Except ε γ} {f' : β → Except ε δ}
    (h : SameEnd R m m') (hnext : ∀ a b, R a b → SameEnd S (f a) (f' b)) :
    SameEnd S (m >>= f) (m' >>= f') := by
  cases h with
  | error error => exact .error error
  | ok hrel => exact hnext _ _ hrel

theorem mono {m : Except ε α} {m' : Except ε β} {T : α → β → Prop} (h : SameEnd R m m')
    (hmono : ∀ a b, R a b → T a b) : SameEnd T m m' := by
  cases h with
  | error error => exact .error error
  | ok hrel => exact .ok (hmono _ _ hrel)

/-- What ends like a third one ends alike. -/
theorem meet {m : Except ε α} {m' : Except ε β} {m'' : Except ε γ} {T : α → γ → Prop}
    (h : SameEnd R m m') (h' : SameEnd T m m'') :
    SameEnd (fun b c => ∃ a, R a b ∧ T a c) m' m'' := by
  cases h with
  | error error =>
    cases h'
    exact .error error
  | ok hrel =>
    cases h' with
    | ok hrel' => exact .ok ⟨_, hrel, hrel'⟩

/-- Steps that end in the same way one by one do so one after the other. -/
theorem mapM {f : α → Except ε γ} {f' : β → Except ε δ} {steps : List α} {steps' : List β}
    (h : List.Forall₂ (fun a b => SameEnd S (f a) (f' b)) steps steps') :
    SameEnd (List.Forall₂ S) (steps.mapM f) (steps'.mapM f') := by
  induction h with
  | nil => exact .ok .nil
  | cons hfirst _ ih =>
    rw [List.mapM_cons, List.mapM_cons]
    refine hfirst.bind fun c d hrel => ih.bind fun cs ds hrest => ?_
    exact .ok (.cons hrel hrest)

/-- Steps that take related states to related states do so one after the other. -/
theorem foldlM {f : α → γ → Except ε α} {f' : β → γ → Except ε β} {steps : List γ}
    (h : ∀ step ∈ steps, ∀ a b, R a b → SameEnd R (f a step) (f' b step)) {a : α} {b : β}
    (hrel : R a b) : SameEnd R (steps.foldlM f a) (steps.foldlM f' b) := by
  induction steps generalizing a b with
  | nil => exact .ok hrel
  | cons step rest ih =>
    obtain ⟨hstep, hrest⟩ := List.forall_mem_cons.mp h
    rw [List.foldlM_cons, List.foldlM_cons]
    refine (hstep a b hrel).bind fun c d hnext => ?_
    exact ih hrest hnext

end SameEnd

/-! ## Classes inside -/

/-- The tree has the declaration of the other one, but for the doc comments. -/
def ClassTree.Bare (bare tree : ClassTree) : Prop := bare.decl = tree.decl.undocumented

/-- The site in the arena without descriptions. -/
def Site.undescribed (site : Site arena) : Site arena.undescribed where
  schema := site.schema.undescribed
  before := site.before.undescribed
  decoration := site.decoration.undescribed ClassDecl.undocumented

/-- What grows at it is the same without comments, if that is so of what grows inside. -/
theorem Site.grow_undescribed (site : Site arena)
    {inside : Nesting arena → Except GenerationError (List ClassTree)}
    {inside' : Nesting arena.undescribed → Except GenerationError (List ClassTree)}
    (h : ∀ after, SameEnd (List.Forall₂ ClassTree.Bare) (inside' after.undescribed)
      (inside after)) :
    SameEnd ClassTree.Bare (site.undescribed.grow inside') (site.grow inside) := by
  rw [grow, grow, undescribed, Nesting.decorating_undescribed]
  rcases site.before.decorating site.decoration with error | ⟨decorated, after⟩
  · exact .error error
  · refine (h after).bind fun bare inner hinner => .ok ?_
    have hdecls : bare.map ClassTree.decl = inner.map fun tree => tree.decl.undocumented :=
      map_eq_map_of_forall₂ hinner id
    rw [ClassTree.Bare, ClassTree.decl_eq, ClassTree.decl_eq, ClassDecl.undocumented_addInner,
      List.map_map]
    exact congrArg _ hdecls

/-- A class that has nothing but its name has no comments. -/
theorem ClassDecl.undocumented_new (name : String) :
    ({ name } : ClassDecl).undocumented = { name } := by
  rw [undocumented_eq]
  rfl

/-- Strangers are reported on both sides. -/
theorem Nesting.sameEnd_of_stranger (nesting : Nesting arena) {id : NodeId} {ids : List NodeId}
    (hs : nesting.strangers = id :: ids) (decorators : List Decorator) (levels : Nat) :
    SameEnd (List.Forall₂ ClassTree.Bare) (innerTrees decorators levels nesting.undescribed)
      (innerTrees decorators levels nesting) := by
  have hs' : nesting.undescribed.strangers = id :: ids := hs
  rw [innerTrees_of_stranger decorators levels hs, innerTrees_of_stranger decorators levels hs']
  exact .error _

section Overlooks

variable {decorators : List Decorator} (h : ∀ decorator ∈ decorators, decorator.Overlooks)

include h

theorem Nesting.sites_undescribed (nesting : Nesting arena) :
    nesting.undescribed.sites decorators = (nesting.sites decorators).map Site.undescribed := by
  rw [sites, sites, numbered_undescribed, List.map_map, List.map_map]
  refine List.map_congr_left fun entry _ => ?_
  have hdecoration := Decorator.allInside_undescribed h (nesting.nestedName entry.2) entry.1
    { name := nesting.nestedName entry.2 }
  rw [ClassDecl.undocumented_new] at hdecoration
  dsimp only [Function.comp_apply]
  rw [site, site, Site.undescribed, inside_undescribed, ← hdecoration]
  rfl

/-- The trees inside are the same without comments. -/
theorem innerTrees_undescribed (levels : Nat) (nesting : Nesting arena) :
    SameEnd (List.Forall₂ ClassTree.Bare) (innerTrees decorators levels nesting.undescribed)
      (innerTrees decorators levels nesting) := by
  induction levels generalizing nesting with
  | zero =>
    rcases hs : nesting.strangers with _ | ⟨id, ids⟩
    · have hs' : nesting.undescribed.strangers = [] := hs
      rw [innerTrees_zero decorators hs, innerTrees_zero decorators hs']
      exact .ok .nil
    · exact nesting.sameEnd_of_stranger hs decorators 0
  | succ levels ih =>
    rcases hs : nesting.strangers with _ | ⟨id, ids⟩
    · have hs' : nesting.undescribed.strangers = [] := hs
      rw [innerTrees_succ decorators levels hs, innerTrees_succ decorators levels hs',
        nesting.sites_undescribed h]
      apply SameEnd.mapM
      rw [List.forall₂_map_left_iff, List.forall₂_same]
      intro site _
      exact site.grow_undescribed ih
    · exact nesting.sameEnd_of_stranger hs decorators (levels + 1)

theorem Schema.classTree_undescribed (schema : Schema arena) (settings : Settings)
    (name : String) :
    SameEnd ClassTree.Bare (schema.undescribed.classTree decorators settings name)
      (schema.classTree decorators settings name) := by
  have hdecoration := Decorator.allAtTop_undescribed h schema { name }
  rw [ClassDecl.undocumented_new] at hdecoration
  have hsite : schema.undescribed.site decorators settings name =
      (schema.site decorators settings name).undescribed := by
    rw [site, site, Site.undescribed, hdecoration]
    rfl
  have hgrow : SameEnd ClassTree.Bare
      ((schema.site decorators settings name).undescribed.grow
        (Nesting.trees decorators))
      ((schema.site decorators settings name).grow (Nesting.trees decorators)) := by
    apply Site.grow_undescribed
    intro after
    rw [Nesting.trees, Arena.size_undescribed]
    exact innerTrees_undescribed h arena.size after
  rw [← hsite] at hgrow
  exact hgrow

/-- The class of a schema is the same without comments. -/
theorem Arena.classDecl_undescribed (arena : Arena) (settings : Settings) (id : NodeId) :
    SameEnd (fun bare c => bare = c.undocumented)
      (arena.undescribed.classDecl decorators settings id)
      (arena.classDecl decorators settings id) := by
  have htree : SameEnd ClassTree.Bare (arena.undescribed.classTree decorators settings id)
      (arena.classTree decorators settings id) := by
    rw [classTree, classTree, get?_undescribed]
    cases arena.get? id with
    | none => exact .error _
    | some schema =>
      dsimp only [Option.map_some]
      rw [Schema.className?_undescribed]
      cases schema.className? with
      | none => exact .error _
      | some name => exact schema.classTree_undescribed h settings name
  rw [classDecl, classDecl, map_eq_pure_bind, map_eq_pure_bind]
  exact htree.bind fun bare tree hbare => .ok hbare

end Overlooks

/-! ## Documents -/

namespace Document

variable (doc : Document)

theorem check_undescribed : doc.undescribed.check = doc.check := by
  have hcontains (id : NodeId) : doc.undescribed.arena.contains id = doc.arena.contains id := by
    simp [undescribed, Arena.contains]
  exact check_eq_of_same rfl rfl rfl hcontains

theorem objectSchemas_undescribed : doc.undescribed.objectSchemas = doc.objectSchemas := by
  refine List.filter_congr fun entry _ => ?_
  dsimp only [undescribed]
  rw [Arena.get?_undescribed]
  cases doc.arena.get? entry.2 with
  | none => rfl
  | some schema => exact schema.isObject_undescribed

end Document

/-- The classes are the same, but for the doc comments. -/
def AlikeUncommented (classes others : List ClassDecl) : Prop :=
  classes.map ClassDecl.undocumented = others.map ClassDecl.undocumented

/-- A class is added in the same way, whatever the comments are. -/
theorem addDistinct_alike {classes others : List ClassDecl} {c other : ClassDecl}
    (h : AlikeUncommented classes others) (hc : c.undocumented = other.undocumented) :
    SameEnd AlikeUncommented (addDistinct classes c) (addDistinct others other) := by
  have hname : c.name = other.name := by
    rw [← c.name_undocumented, hc, other.name_undocumented]
  have hnames : classes.map (·.name) = others.map (·.name) := by
    have hshown := congrArg (List.map (·.name)) h
    rw [List.map_map, List.map_map] at hshown
    simpa [Function.comp_def] using hshown
  have htaken : classes.any (·.name == c.name) = others.any (·.name == other.name) := by
    have hany := congrArg (List.any · (· == c.name)) hnames
    rw [List.any_map, List.any_map] at hany
    exact hname ▸ hany
  rw [addDistinct, addDistinct, htaken]
  split
  · rw [hname]
    exact .error _
  · refine .ok ?_
    rw [AlikeUncommented, List.map_append, List.map_append, h]
    exact congrArg (_ ++ [·]) hc

/-- **Documents that differ in descriptions alone** fail with the same error, or give classes
that differ in doc comments alone. -/
theorem standardClasses_alike {one other : Document}
    (h : one.undescribed = other.undescribed) (settings : Settings) :
    SameEnd AlikeUncommented (one.standardClasses settings) (other.standardClasses settings) := by
  have hschemas : one.objectSchemas = other.objectSchemas := by
    rw [← one.objectSchemas_undescribed, h, other.objectSchemas_undescribed]
  have hcheck : one.check = other.check := by
    rw [← one.check_undescribed, h, other.check_undescribed]
  have hname : one.name = other.name := by
    have hsame := congrArg Document.name h
    exact hsame
  have hresources : one.resources = other.resources := by
    have hsame := congrArg Document.resources h
    exact hsame
  have hclass (id : NodeId) : SameEnd (fun c d => c.undocumented = d.undocumented)
      (one.arena.classDecl (Decorator.standard settings) settings id)
      (other.arena.classDecl (Decorator.standard settings) settings id) := by
    have harena : one.arena.undescribed = other.arena.undescribed := congrArg Document.arena h
    have hone := one.arena.classDecl_undescribed (Decorator.standard_overlooks settings) settings id
    have hother :=
      other.arena.classDecl_undescribed (Decorator.standard_overlooks settings) settings id
    rw [harena] at hone
    exact (hone.meet hother).mono fun c d ⟨bare, hbare, hbare'⟩ => hbare ▸ hbare'
  rw [Document.standardClasses, Document.standardClasses, Document.classes, Document.classes,
    hcheck]
  cases other.check with
  | error error => exact .error _
  | ok =>
    rw [Document.classesOfChecked, Document.classesOfChecked, hschemas]
    refine SameEnd.bind (R := AlikeUncommented) ?_ fun classes others hbefore => ?_
    · refine SameEnd.foldlM ?_ rfl
      intro entry _ classes others hbefore
      exact (hclass entry.2).bind fun c d hsame => addDistinct_alike hbefore hsame
    · rw [hname, hresources]
      refine SameEnd.foldlM ?_ hbefore
      intro resource _ classes others hbefore
      -- the classes of resources have nothing to do with schemas
      rcases ResourceClasses.classDecl ⟨other.name, ResourceDecorator.standard, settings⟩
        resource with error | c
      · exact .error error
      · exact addDistinct_alike hbefore rfl

end ApiClasses
