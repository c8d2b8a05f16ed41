import ApiClasses.Settings
import ApiClasses.Decoration

/-!
# Naming the classes inside a class

One nesting serves one class. It answers the requests of the class's decorators
with names and remembers which schemas it named: each of those becomes a class
inside the current one. A schema that an outer class already stands for is
answered with that class's name and never becomes a class again, which is what
makes cycles end.

A name is the common stem, a *trail* that tells where in the tree the current
class is, and a number. A class inside passes its own number on in its trail, so
the numbers from the root down can be read off a name.
-/

namespace ApiClasses

/-- What the requests of one class have come to. -/
structure Nesting (arena : Arena) where
  /-- what names are put together from -/
  settings : Settings
  /-- the numbers from the root down to the current class, each with a mark -/
  trail : String
  /-- the names of outer classes by schema, newest first -/
  outer : List (NodeId × String) := []
  /-- the numbers of the classes inside by schema, newest first -/
  numbers : List (NodeId × Nat) := []
  /-- the schemas that become classes inside, in the order of their first request -/
  named : List (Schema arena) := []
  /-- the schemas of other arenas that were asked for, in order -/
  strangers : List NodeId := []
  /-- every request for a schema of the arena with its answer, in order -/
  answers : List (NodeId × String) := []

namespace Nesting

variable {arena : Arena} {α β : Type}

/-! ## Names -/

/-- The name of the class inside with a number. -/
def nestedName (nesting : Nesting arena) (number : Nat) : String :=
  nesting.settings.nestedName nesting.trail number

/-- The name an outer class has for a schema. -/
def outerName? (nesting : Nesting arena) (id : NodeId) : Option String :=
  (nesting.outer.find? (·.1 == id)).map (·.2)

/-- The number of a schema that becomes a class inside. -/
def number? (nesting : Nesting arena) (id : NodeId) : Option Nat :=
  (nesting.numbers.find? (·.1 == id)).map (·.2)

/-! ## Requests -/

/-- Binds a schema to a name from outside; it is answered with that name from now
on. -/
def enclose (nesting : Nesting arena) (id : NodeId) (name : String) : Nesting arena :=
  { nesting with outer := (id, name) :: nesting.outer }

/-- Makes a schema a class inside, under the next number. -/
def register (nesting : Nesting arena) (schema : Schema arena) : Nesting arena :=
  { nesting with
    numbers := (schema.id, nesting.named.length + 1) :: nesting.numbers
    named := nesting.named ++ [schema] }

/-- Hands out a name for a schema and puts it on record. -/
def handOut (nesting : Nesting arena) (id : NodeId) (name : String) : TypeRef × Nesting arena :=
  (⟨name, []⟩, { nesting with answers := nesting.answers ++ [(id, name)] })

/-- Answers a request for a schema of the arena: with the name from outside, or
else with the name of its number, and the next number is its own if it has none. -/
def request (nesting : Nesting arena) (schema : Schema arena) : TypeRef × Nesting arena :=
  match nesting.outerName? schema.id with
  | some name => nesting.handOut schema.id name
  | none =>
    match nesting.number? schema.id with
    | some number => nesting.handOut schema.id (nesting.nestedName number)
    | none =>
      let number := nesting.named.length + 1
      (nesting.register schema).handOut schema.id (nesting.nestedName number)

/-- What is put on record is what is handed out. -/
theorem answers_request (nesting : Nesting arena) (schema : Schema arena) :
    ∃ name, (nesting.request schema).1 = ⟨name, []⟩ ∧
      (nesting.request schema).2.answers = nesting.answers ++ [(schema.id, name)] := by
  rw [request]
  split
  · exact ⟨_, rfl, rfl⟩
  · split <;> exact ⟨_, rfl, rfl⟩

/-- Answers a request for a schema of another arena. The name stands for nothing:
such a request makes the run fail later on. -/
def requestStranger (nesting : Nesting arena) (id : NodeId) : TypeRef × Nesting arena :=
  (⟨nesting.nestedName 0, []⟩, { nesting with strangers := nesting.strangers ++ [id] })

/-- Runs a decoration, answering its requests. -/
def run : Nesting arena → Decoration arena α → Except DecorationError (α × Nesting arena)
  | nesting, .done result => .ok (result, nesting)
  | _, .fail error => .error error
  | nesting, .request schema next =>
    (nesting.request schema).2.run (next (nesting.request schema).1)
  | nesting, .requestStranger id next =>
    (nesting.requestStranger id).2.run (next (nesting.requestStranger id).1)

@[simp] theorem run_done (nesting : Nesting arena) (a : α) :
    nesting.run (.done a) = .ok (a, nesting) := rfl

@[simp] theorem run_fail (nesting : Nesting arena) (error : DecorationError) :
    nesting.run (.fail error : Decoration arena α) = .error error := rfl

/-- Two programs in a row run one after the other. -/
theorem run_bind (nesting : Nesting arena) (m : Decoration arena α)
    (f : α → Decoration arena β) :
    nesting.run (m >>= f) =
      match nesting.run m with
      | .ok (a, after) => after.run (f a)
      | .error error => .error error := by
  induction m generalizing nesting with
  | done result => rfl
  | fail error => rfl
  | request schema next ih => exact ih _ _
  | requestStranger id next ih => exact ih _ _

/-! ## One level further in -/

/-- The schemas that become classes inside, with their numbers. -/
def numbered (nesting : Nesting arena) : List (Schema arena × Nat) :=
  nesting.named.zipIdx 1

/-- The names that the classes inside see from outside: everything named here
and everything seen here. -/
def outerInside (nesting : Nesting arena) : List (NodeId × String) :=
  nesting.numbered.map (fun (schema, number) => (schema.id, nesting.nestedName number)) ++
    nesting.outer

/-- The nesting of the class inside with a number, before its decoration. -/
def inside (nesting : Nesting arena) (number : Nat) : Nesting arena where
  settings := nesting.settings
  trail := nesting.trail ++ toString number ++ "_"
  outer := nesting.outerInside

end Nesting

end ApiClasses
