import ApiClasses.Decoration
import ApiClasses.Identifier
import ApiClasses.Text.Quoted

/-!
# Requests of resource classes

A resource class holds a handle of the service and has one method for every
endpoint of the resource, which hands verb and path on to the handle.
-/

namespace ApiClasses

/-! ## The handle -/

/-- The field that holds the service. -/
def handleField (serviceClass path : String) : ClassField where
  name := "service"
  type := ⟨"std::sync::Arc", [⟨serviceClass ++ "Service", []⟩]⟩
  doc := some ("Service handle for `" ++ path ++ "`.")

/-- Adds the handle. -/
def ResourceDecorator.handle : ResourceDecorator where
  name := "ServiceFieldDecorator"
  decorate := fun _ place c =>
    match Identifier.forClass? place.service with
    | some serviceClass => .ok (c.addField (handleField serviceClass place.path))
    | none =>
      .error ⟨"ServiceFieldDecorator", c.name,
        "service '" ++ place.service ++ "' has no usable type name"⟩

/-! ## The methods -/

/-- The method for an endpoint; `answer` is the class of the answer. -/
def requestMethod (path : String) (endpoint : Endpoint) (answer : String) : ClassMethod where
  name := Identifier.forMember endpoint.name
  result := some ⟨"Request", [⟨answer, []⟩]⟩
  body :=
    ["self.service.request(" ++ quote endpoint.verb ++ ", " ++ quote endpoint.path ++ ")"]
  doc := some
    ("`" ++ endpoint.verb ++ " " ++ endpoint.path ++ "` (" ++ path ++ "." ++ endpoint.name ++ ").")

/-- The class of an endpoint's answer; nothing is answered by default. -/
def answerClass (className : String) (endpoint : Endpoint) : Except DecorationError String :=
  match endpoint.response with
  | none => .ok "()"
  | some response =>
    match Identifier.forClass? response with
    | some answer => .ok answer
    | none =>
      .error ⟨"MethodDecorator", className,
        "response '" ++ response ++ "' has no usable class name"⟩

/-- Adds the method for an endpoint. -/
def addRequest (path : String) (c : ClassDecl) (endpoint : Endpoint) :
    Except DecorationError ClassDecl :=
  if c.declares (Identifier.forMember endpoint.name) then
    .error ⟨"MethodDecorator", c.name,
      "method '" ++ endpoint.name ++ "' clashes with an existing member"⟩
  else
    match answerClass c.name endpoint with
    | .ok answer => .ok (c.addMethod (requestMethod path endpoint answer))
    | .error error => .error error

/-- Adds the methods. -/
def ResourceDecorator.requests : ResourceDecorator where
  name := "MethodDecorator"
  decorate := fun resource place c => resource.endpoints.foldlM (addRequest place.path) c

/-- What every resource class gets, in this order. -/
def ResourceDecorator.standard : List ResourceDecorator :=
  [handle, requests]

end ApiClasses
