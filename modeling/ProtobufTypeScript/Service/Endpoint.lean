import ProtobufTypeScript.Field.Classification
import ProtobufTypeScript.Service.Naming
import ProtobufTypeScript.Target.Declaration

/-!
The methods of a service with the types they work on, found with the registry of all types. Methods
that stream are refused. With a context, a batch method gets a companion for a single key, unless
the service has a method of that name itself.
-/

namespace ProtobufTypeScript.Service

open Schema Target

/-- The method for a single key that goes with a batch method. -/
structure Companion where
  name : String
  /-- The property of the request that lists the keys. -/
  keys : String
  /-- The property of the response that holds the results. -/
  results : String
  keyType : TypeExpr
  valueType : TypeExpr
  /-- Whether results are found by key, and not in the order of the keys. -/
  byKey : Bool

/-- A method with the types it works on. -/
structure Endpoint where
  method : Method
  request : Symbol
  response : Symbol
  companion : Option Companion

/-- The type of one result, and whether results are found by key. -/
def resultType (options : Options) : Field.Kind → TypeExpr × Bool
  | .map _ _ value => (value.elementType options, true)
  | kind => (kind.elementType options, false)

/-- The companion of a batch method. -/
def companionOf (registry : Registry) (options : Options) (input output : Message) (batch : Batch)
    : Except GenerationError Companion := do
  let keys ← Field.shapeOf registry options input batch.keys
  let results ← Field.shapeOf registry options output batch.results
  return {
    name := batch.companion
    keys := keys.name
    results := results.name
    keyType := keys.kind.elementType options
    valueType := (resultType options results.kind).1
    byKey := (resultType options results.kind).2
  }

/-- Whether a service has a method of a given name. -/
def hasMethod (service : Schema.Service) (name : String) : Bool :=
  service.methods.any (fun method => method.name == name)

/-- The companion of a method, if it gets one. -/
def companion? (registry : Registry) (options : Options) (service : Schema.Service)
    (method : Method)
    : Except GenerationError (Option Companion) :=
  if options.context then do
    let input ← registry.message method.input
    let output ← registry.message method.output
    match Batch.ofMethod? method input output with
    | none => return none
    | some batch =>
        if hasMethod service batch.companion then return none
        else return some (← companionOf registry options input output batch)
  else return none

/-- A method with the types it works on, which the interface looks for first, and its
companion.
-/
def endpoint (registry : Registry) (options : Options) (service : Schema.Service) (method : Method)
    : Except GenerationError Endpoint := do
  return {
    method
    request := ← registry.symbol method.input
    response := ← registry.symbol method.output
    companion := ← companion? registry options service method
  }

/-- A method with its companion, which the client looks for first, and the types it works
on.
-/
def clientEndpoint (registry : Registry) (options : Options) (service : Schema.Service)
    (method : Method)
    : Except GenerationError Endpoint := do
  let companion ← companion? registry options service method
  let request ← registry.symbol method.input
  let response ← registry.symbol method.output
  return { method, request, response, companion }

/-- Refuses a method that streams. -/
def checkUnary (service : Schema.Service) (method : Method) : Except GenerationError PUnit :=
  if method.clientStreaming || method.serverStreaming then
    .error (.unsupportedMethod service.name method.name .streaming)
  else .ok ⟨⟩

end ProtobufTypeScript.Service
