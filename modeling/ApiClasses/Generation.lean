import ApiClasses.Class.Source
import ApiClasses.ClassTree
import ApiClasses.Decoration.Requests
import ApiClasses.Decoration.Standard
import ApiClasses.Document.Loading
import ApiClasses.Document.Validity
import ApiClasses.ResourceClass

/-!
# Generating the classes of a document

A checked document gives one class for every top-level object schema, in order,
and then one for every top-level resource. No two of them may share a name.
-/

namespace ApiClasses

/-! ## Classes -/

/-- Adds a class after others, unless one of them has its name. -/
def addDistinct (classes : List ClassDecl) (c : ClassDecl) :
    Except GenerationError (List ClassDecl) :=
  if classes.any (·.name == c.name) then .error (.conflict (.classNameTwice c.name))
  else .ok (classes ++ [c])

namespace Document

/-- The top-level schemas that are objects, in order. -/
def objectSchemas (document : Document) : List (String × NodeId) :=
  document.schemas.filter fun (_, id) => (document.arena.get? id).any (·.isObject)

/-- The classes of a checked document, by the given decorators. -/
def classesOfChecked (document : Document) (settings : Settings) (decorators : List Decorator)
    (resourceDecorators : List ResourceDecorator) :
    Except GenerationError (List ClassDecl) := do
  let schemaClasses ← document.objectSchemas.foldlM
    (fun classes (_, id) => do
      addDistinct classes (← document.arena.classDecl decorators settings id)) []
  let generator : ResourceClasses := ⟨document.name, resourceDecorators, settings⟩
  document.resources.foldlM
    (fun classes resource => do addDistinct classes (← generator.classDecl resource))
    schemaClasses

/-- The classes of a document, by the given decorators. -/
def classes (document : Document) (settings : Settings) (decorators : List Decorator)
    (resourceDecorators : List ResourceDecorator) : Except GenerationError (List ClassDecl) :=
  match document.check with
  | .error error => .error (.document error)
  | .ok () => document.classesOfChecked settings decorators resourceDecorators

/-- The classes of a document, by the standard decorators. -/
def standardClasses (document : Document) (settings : Settings) :
    Except GenerationError (List ClassDecl) :=
  document.classes settings (Decorator.standard settings) ResourceDecorator.standard

end Document

/-! ## Code -/

/-- What every generated file starts with. -/
def header : String :=
  "// Generated by apigen. Do not edit.\n\n#![allow(dead_code)]\n\n" ++
    "use serde::\x7bDeserialize, Serialize\x7d;\nuse std::collections::HashMap;\n\n"

/-- The classes for a document given as text, with the standard settings. -/
def generateClasses (text : String) : Except GenerationError (List ClassDecl) :=
  match Document.load text with
  | .error error => .error (.load error)
  | .ok document => document.standardClasses {}

/-- The code for a document given as text, with the standard settings. -/
def generate (text : String) : Except GenerationError String :=
  (fun classes => header ++ sourceOfAll classes) <$> generateClasses text

/-- The code for a document in a file with the given contents. -/
def generateFile (contents : Option ByteArray) : Except GenerationError String :=
  match Document.textOf contents with
  | .error failure => .error (.unreadable failure)
  | .ok text => generate text

end ApiClasses
