import ApiClasses.Class.TypeRef

/-!
# Classes

What is generated: a tree of classes with their members in order. The tree says
nothing about concrete text.
-/

namespace ApiClasses

/-! ## Members -/

/-- Who may see a class. -/
inductive Visibility where
  /-- everyone -/
  | shown
  /-- the declaring scope alone -/
  | hidden
  deriving DecidableEq, Repr

/-- A field. -/
structure ClassField where
  /-- the member name -/
  name : String
  /-- the type -/
  type : TypeRef
  /-- the name on the wire, where the member name does not tell it -/
  wireName : Option String := none
  /-- the doc comment -/
  doc : Option String := none
  deriving DecidableEq, Repr

/-- A parameter of a method. -/
structure Parameter where
  /-- the parameter name -/
  name : String
  /-- the type -/
  type : TypeRef
  deriving DecidableEq, Repr

/-- A method. -/
structure ClassMethod where
  /-- the member name -/
  name : String
  /-- the parameters after the receiver -/
  parameters : List Parameter := []
  /-- the type of the result, if there is one -/
  result : Option TypeRef := none
  /-- the lines of the body -/
  body : List String := []
  /-- the doc comment -/
  doc : Option String := none
  deriving DecidableEq, Repr

/-- A member of a class, with `γ` for the classes declared inside it. -/
inductive Member (γ : Type) where
  /-- a field -/
  | field (field : ClassField)
  /-- a method -/
  | method (method : ClassMethod)
  /-- a class declared inside -/
  | inner (decl : γ)
  deriving Repr

namespace Member

variable {γ : Type}

/-- The field, if the member is one. -/
def field? : Member γ → Option ClassField
  | field f => some f
  | _ => none

/-- The method, if the member is one. -/
def method? : Member γ → Option ClassMethod
  | method m => some m
  | _ => none

/-- The class, if the member is one. -/
def inner? : Member γ → Option γ
  | inner c => some c
  | _ => none

end Member

/-! ## Classes -/

/-- A class with its members in the order they were added. -/
structure ClassDecl where
  /-- the class name -/
  name : String
  /-- the doc comment -/
  doc : Option String := none
  /-- who may see it -/
  visibility : Visibility := .shown
  /-- attributes, without the marks around them -/
  attributes : List String := []
  /-- the traits it implements -/
  traits : List TypeRef := []
  /-- the members -/
  members : List (Member ClassDecl) := []
  deriving Repr

/-- The name of a member. -/
def Member.name : Member ClassDecl → String
  | field f => f.name
  | method m => m.name
  | inner c => c.name

namespace ClassDecl

/-! ### Adding -/

/-- Adds a field at the end. -/
def addField (c : ClassDecl) (field : ClassField) : ClassDecl :=
  { c with members := c.members ++ [.field field] }

/-- Adds a method at the end. -/
def addMethod (c : ClassDecl) (method : ClassMethod) : ClassDecl :=
  { c with members := c.members ++ [.method method] }

/-- Adds classes declared inside, at the end. -/
def addInner (c : ClassDecl) (inner : List ClassDecl) : ClassDecl :=
  { c with members := c.members ++ inner.map .inner }

/-- Adds an attribute at the end. -/
def addAttribute (c : ClassDecl) (text : String) : ClassDecl :=
  { c with attributes := c.attributes ++ [text] }

/-- Adds a trait at the end. -/
def addTrait (c : ClassDecl) (type : TypeRef) : ClassDecl :=
  { c with traits := c.traits ++ [type] }

/-! ### Looking -/

/-- The fields in order. -/
def fields (c : ClassDecl) : List ClassField := c.members.filterMap Member.field?

/-- The methods in order. -/
def methods (c : ClassDecl) : List ClassMethod := c.members.filterMap Member.method?

/-- The classes declared directly inside, in order. -/
def innerClasses (c : ClassDecl) : List ClassDecl := c.members.filterMap Member.inner?

/-- The first field with a name. -/
def field? (c : ClassDecl) (name : String) : Option ClassField :=
  c.fields.find? (·.name == name)

/-- The first class with a name declared directly inside. -/
def inner? (c : ClassDecl) (name : String) : Option ClassDecl :=
  c.innerClasses.find? (·.name == name)

/-- Is there a member with this name? -/
def declares (c : ClassDecl) (name : String) : Bool :=
  c.members.any (·.name == name)

mutual

/-- The number of classes in the tree. -/
def count : ClassDecl → Nat
  | ⟨_, _, _, _, _, members⟩ => 1 + countInside members

/-- The number of classes in the trees among some members. -/
def countInside : List (Member ClassDecl) → Nat
  | [] => 0
  | .inner c :: rest => c.count + countInside rest
  | .field _ :: rest => countInside rest
  | .method _ :: rest => countInside rest

end

/-! ### What adding shows -/

@[simp] theorem fields_addField (c : ClassDecl) (field : ClassField) :
    (c.addField field).fields = c.fields ++ [field] := by
  simp [addField, fields, Member.field?]

@[simp] theorem methods_addField (c : ClassDecl) (field : ClassField) :
    (c.addField field).methods = c.methods := by
  simp [addField, methods, Member.method?]

@[simp] theorem innerClasses_addField (c : ClassDecl) (field : ClassField) :
    (c.addField field).innerClasses = c.innerClasses := by
  simp [addField, innerClasses, Member.inner?]

@[simp] theorem declares_addField (c : ClassDecl) (field : ClassField) (name : String) :
    (c.addField field).declares name = (c.declares name || field.name == name) := by
  simp [addField, declares, Member.name]

@[simp] theorem methods_addMethod (c : ClassDecl) (method : ClassMethod) :
    (c.addMethod method).methods = c.methods ++ [method] := by
  simp [addMethod, methods, Member.method?]

@[simp] theorem innerClasses_addMethod (c : ClassDecl) (method : ClassMethod) :
    (c.addMethod method).innerClasses = c.innerClasses := by
  simp [addMethod, innerClasses, Member.inner?]

@[simp] theorem declares_addMethod (c : ClassDecl) (method : ClassMethod) (name : String) :
    (c.addMethod method).declares name = (c.declares name || method.name == name) := by
  simp [addMethod, declares, Member.name]

@[simp] theorem fields_addInner (c : ClassDecl) (inner : List ClassDecl) :
    (c.addInner inner).fields = c.fields := by
  simp [addInner, fields, List.filterMap_map, Function.comp_def, Member.field?]

@[simp] theorem methods_addInner (c : ClassDecl) (inner : List ClassDecl) :
    (c.addInner inner).methods = c.methods := by
  simp [addInner, methods, List.filterMap_map, Function.comp_def, Member.method?]

@[simp] theorem innerClasses_addInner (c : ClassDecl) (inner : List ClassDecl) :
    (c.addInner inner).innerClasses = c.innerClasses ++ inner := by
  simp [addInner, innerClasses, List.filterMap_map, Function.comp_def, Member.inner?]

end ClassDecl

end ApiClasses
