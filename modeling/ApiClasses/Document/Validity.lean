import ApiClasses.Document
import ApiClasses.Failure
import ApiClasses.Identifier

/-!
# Checking a document

What the generators rely on: names that do not clash, schemas that are there,
and names that give class names. Schemas are checked first, then resources, then
the name of the service; the first fault met is the one reported.
-/

namespace ApiClasses.Document

/-! ## Schemas -/

/-- Checks the top-level schemas one by one, against the names and class names
of those before. -/
def checkSchemas (arena : Arena) (names classNames : List String) :
    List (String × NodeId) → Except DocumentError Unit
  | [] => .ok ()
  | (name, id) :: rest =>
    if names.contains name then .error (.duplicate "schema" name)
    else if !arena.contains id then .error (.violation (.outsideArena name))
    else
      match Identifier.forClass? name with
      | none => .error (.violation (.noClassName name))
      | some className =>
        if classNames.contains className then
          .error (.violation (.classNameTaken name className))
        else checkSchemas arena (name :: names) (className :: classNames) rest

/-! ## Resources -/

/-- Checks the endpoints of a resource one by one. -/
def checkEndpoints (document : Document) (resource : String) :
    List Endpoint → Except DocumentError Unit
  | [] => .ok ()
  | endpoint :: rest =>
    match endpoint.response with
    | none => checkEndpoints document resource rest
    | some response =>
      if document.hasSchema response then checkEndpoints document resource rest
      else .error (.unknownSchema response (resource ++ "." ++ endpoint.name))

mutual

/-- Checks a resource and all below it. -/
def checkResource (document : Document) : Resource → Except DocumentError Unit
  | ⟨name, endpoints, below⟩ => do
    checkEndpoints document name endpoints
    checkResources document [] below

/-- Checks sibling resources, against the names of those before. -/
def checkResources (document : Document) (names : List String) :
    List Resource → Except DocumentError Unit
  | [] => .ok ()
  | resource :: rest => do
    if names.contains resource.name then throw (.duplicate "resource" resource.name)
    checkResource document resource
    checkResources document (resource.name :: names) rest

end

/-! ## The whole document -/

/-- A document with resources needs a service name. -/
def checkServiceName (document : Document) : Except DocumentError Unit :=
  if !document.resources.isEmpty && (Identifier.forClass? document.name).isNone then
    .error (.violation (.serviceName document.name))
  else .ok ()

/-- Checks a document. -/
def check (document : Document) : Except DocumentError Unit := do
  checkSchemas document.arena [] [] document.schemas
  checkResources document [] document.resources
  checkServiceName document

end ApiClasses.Document
