import ApiClasses.Nesting
import ApiClasses.Schema.Classes

/-!
# Schema classes

The class of a schema and of everything inside it, as a tree. First all
decorators work on a class; then every schema they asked for, and that no outer
class stands for, becomes a class inside it in the same way.

The tree remembers which schema each class stands for and what its decorators
asked for; the declaration is what remains when that is forgotten.
-/

namespace ApiClasses

/-! ## Trees -/

/-- A generated class with the classes inside it. -/
structure ClassTree where
  /-- the schema the class stands for -/
  schema : NodeId
  /-- the class as its decorators left it -/
  decorated : ClassDecl
  /-- the names its decorators were given, by schema, in order -/
  answers : List (NodeId × String)
  /-- the schemas of other arenas its decorators asked for, in order -/
  strangers : List NodeId
  /-- the classes inside, in the order of their numbers -/
  inner : List ClassTree

namespace ClassTree

mutual

/-- The declaration of the class: the classes inside are its last members. -/
def decl : ClassTree → ClassDecl
  | ⟨_, decorated, _, _, inner⟩ => decorated.addInner (decls inner)

/-- The declarations of several classes. -/
def decls : List ClassTree → List ClassDecl
  | [] => []
  | tree :: rest => tree.decl :: decls rest

end

theorem decls_eq_map (trees : List ClassTree) : decls trees = trees.map decl := by
  induction trees with
  | nil => rfl
  | cons tree rest ih => rw [decls, ih, List.map_cons]

theorem decl_eq (tree : ClassTree) :
    tree.decl = tree.decorated.addInner (tree.inner.map decl) := by
  obtain ⟨schema, decorated, answers, strangers, inner⟩ := tree
  rw [decl, decls_eq_map]

end ClassTree

/-! ## One class -/

variable {arena : Arena}

namespace Decorator

/-- All decorators, one after the other, on the top-level class of a schema. -/
def allAtTop (decorators : List Decorator) (schema : Schema arena) (c : ClassDecl) :
    Decoration arena ClassDecl :=
  decorators.foldlM (fun c decorator => decorator.atTop schema c) c

/-- Those decorators that know how, one after the other, on a class inside another
one. -/
def allInside (decorators : List Decorator) (className : String) (schema : Schema arena)
    (c : ClassDecl) : Decoration arena ClassDecl :=
  (decorators.filterMap (·.inside?)).foldlM (fun c decorate => decorate className schema c) c

end Decorator

/-- Runs a decoration as a step of a generation. -/
def Nesting.decorating (nesting : Nesting arena) (decoration : Decoration arena ClassDecl) :
    Except GenerationError (ClassDecl × Nesting arena) :=
  match nesting.run decoration with
  | .ok result => .ok result
  | .error error => .error (.decoration error)

/-! ## The classes inside -/

/-- The trees of the classes inside a class, once its decoration has left the
nesting as it is. Each level stands for schemas that no level above stands for,
so there are at most as many levels as schemas, and below the last one nothing
is left to name. -/
def innerTrees (decorators : List Decorator) :
    (levels : Nat) → Nesting arena → Except GenerationError (List ClassTree)
  | levels, nesting =>
    match nesting.strangers with
    | id :: _ => .error (.misuse (.foreignSchema id))
    | [] =>
      match levels with
      | 0 => .ok []
      | levels + 1 =>
        nesting.numbered.mapM fun (schema, number) => do
          let name := nesting.nestedName number
          let (decorated, after) ←
            (nesting.inside number).decorating
              (Decorator.allInside decorators name schema { name })
          let inner ← innerTrees decorators levels after
          return ⟨schema.id, decorated, after.answers, after.strangers, inner⟩

namespace Nesting

/-- The trees of all classes inside. -/
def trees (decorators : List Decorator) (nesting : Nesting arena) :
    Except GenerationError (List ClassTree) :=
  innerTrees decorators arena.size nesting

/-- The declarations of all classes inside. -/
def decls (decorators : List Decorator) (nesting : Nesting arena) :
    Except GenerationError (List ClassDecl) :=
  ClassTree.decls <$> nesting.trees decorators

end Nesting

/-! ## Top-level classes -/

/-- The tree of the class that a schema has under a name. -/
def Schema.classTree (schema : Schema arena) (decorators : List Decorator) (settings : Settings)
    (name : String) : Except GenerationError ClassTree := do
  let nesting : Nesting arena := { settings, trail := "" }
  let (decorated, after) ←
    (nesting.enclose schema.id name).decorating (Decorator.allAtTop decorators schema { name })
  return ⟨schema.id, decorated, after.answers, after.strangers, ← after.trees decorators⟩

namespace Arena

/-- The tree of the class of a schema, which has to be in the arena and to have a
usable name. -/
def classTree (arena : Arena) (decorators : List Decorator) (settings : Settings) (id : NodeId) :
    Except GenerationError ClassTree :=
  match arena.get? id with
  | none => .error (.misuse (.outsideArena id))
  | some schema =>
    match schema.className? with
    | none => .error (.misuse (.unnamedSchema id))
    | some name => schema.classTree decorators settings name

/-- The class of a schema with everything inside it. -/
def classDecl (arena : Arena) (decorators : List Decorator) (settings : Settings) (id : NodeId) :
    Except GenerationError ClassDecl :=
  ClassTree.decl <$> arena.classTree decorators settings id

end Arena

end ApiClasses
