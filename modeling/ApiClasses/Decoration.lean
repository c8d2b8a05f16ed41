import ApiClasses.Class.Decl
import ApiClasses.Failure
import ApiClasses.Document.Resource
import ApiClasses.Schema.Arena

/-!
# Decorating classes

Generators decide which classes there are and what they are called; decorators
decide what goes into them. While it works on a class, a decorator may ask for
the class of another schema, and the answer is only a name: the class itself is
generated later, when all decorators of the current class are done.

A decoration is therefore a program over exactly two requests, one for a schema
of the same arena and one for any other schema, that ends in a result or in an
error. Nothing else is in its reach: it cannot look at the names given out so
far or at classes other than its own, so a decorator behaves the same wherever
the generator calls it.
-/

namespace ApiClasses

/-! ## Decorations -/

/-- A program that may ask for class names. -/
inductive Decoration (arena : Arena) (α : Type) where
  /-- the result -/
  | done (result : α)
  /-- gives up -/
  | fail (error : DecorationError)
  /-- asks for the class of a schema of the arena -/
  | request (schema : Schema arena) (next : TypeRef → Decoration arena α)
  /-- asks for the class of a schema of another arena -/
  | requestStranger (id : NodeId) (next : TypeRef → Decoration arena α)

namespace Decoration

variable {arena : Arena} {α β γ : Type}

/-- Goes on with the result, wherever the program ends in one. -/
protected def bind : Decoration arena α → (α → Decoration arena β) → Decoration arena β
  | done result, f => f result
  | fail error, _ => fail error
  | request schema next, f => request schema fun type => (next type).bind f
  | requestStranger id next, f => requestStranger id fun type => (next type).bind f

instance : Monad (Decoration arena) where
  pure := done
  bind := Decoration.bind

@[simp] theorem pure_eq (a : α) : (pure a : Decoration arena α) = done a := rfl

@[simp] theorem done_bind (a : α) (f : α → Decoration arena β) : (done a >>= f) = f a := rfl

@[simp] theorem fail_bind (error : DecorationError) (f : α → Decoration arena β) :
    (fail error >>= f) = fail error := rfl

@[simp] theorem request_bind (schema : Schema arena) (next : TypeRef → Decoration arena α)
    (f : α → Decoration arena β) :
    (request schema next >>= f) = request schema fun type => next type >>= f := rfl

@[simp] theorem requestStranger_bind (id : NodeId) (next : TypeRef → Decoration arena α)
    (f : α → Decoration arena β) :
    (requestStranger id next >>= f) = requestStranger id fun type => next type >>= f := rfl

/-- Going on with the result as it is changes nothing. -/
theorem bind_done (m : Decoration arena α) : m >>= done = m := by
  induction m with
  | done result => rfl
  | fail error => rfl
  | request schema next ih => exact congrArg (request schema) (funext ih)
  | requestStranger id next ih => exact congrArg (requestStranger id) (funext ih)

/-- Three programs in a row may be grouped either way. -/
theorem bind_assoc (m : Decoration arena α) (f : α → Decoration arena β)
    (g : β → Decoration arena γ) : m >>= f >>= g = m >>= fun a => f a >>= g := by
  induction m with
  | done result => rfl
  | fail error => rfl
  | request schema next ih => exact congrArg (request schema) (funext ih)
  | requestStranger id next ih => exact congrArg (requestStranger id) (funext ih)

instance : LawfulMonad (Decoration arena) :=
  LawfulMonad.mk' (Decoration arena) bind_done (fun _ _ => rfl) bind_assoc

/-- Asks for the class of a schema and ends with the answer. -/
def classOf (schema : Schema arena) : Decoration arena TypeRef := request schema done

/-- Asks for the class of a schema of another arena and ends with the answer. -/
def classOfStranger (id : NodeId) : Decoration arena TypeRef := requestStranger id done

end Decoration

/-! ## Decorators -/

/-- A decorator of schema classes. It works on every top-level class; on the
classes inside them it works only if it says how. -/
structure Decorator where
  /-- the name in error reports -/
  name : String
  /-- decorates the top-level class of a schema -/
  atTop : {arena : Arena} → Schema arena → ClassDecl → Decoration arena ClassDecl
  /-- decorates the class, of the given name, of a schema inside another class -/
  inside? : Option ({arena : Arena} → (className : String) → Schema arena → ClassDecl →
    Decoration arena ClassDecl) := none

/-- A decorator that does the same to classes of every level. -/
def Decorator.everywhere (name : String)
    (decorate : {arena : Arena} → Schema arena → ClassDecl → Decoration arena ClassDecl) :
    Decorator where
  name := name
  atTop := decorate
  inside? := some fun _ => decorate

/-- Where a resource class stands. -/
structure ResourcePlace where
  /-- the name of the service -/
  service : String
  /-- the names of the resources from the top down, with dots between them -/
  path : String
  deriving DecidableEq, Repr

/-- A decorator of resource classes. Those have nothing to ask for. -/
structure ResourceDecorator where
  /-- the name in error reports -/
  name : String
  /-- decorates the class of a resource -/
  decorate : Resource → ResourcePlace → ClassDecl → Except DecorationError ClassDecl

end ApiClasses
