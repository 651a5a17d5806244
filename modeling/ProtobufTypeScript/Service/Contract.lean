import ProtobufTypeScript.Service.Endpoint

/-!
The interface of a service: a signature for each method and for each companion, which answer with
promises. With a context, every signature takes it first.
-/

namespace ProtobufTypeScript.Service

open Schema Target

/-- The type of contexts. -/
def contextType : TypeExpr := .simple "Context"

/-- The declaration of the type variable for contexts. -/
def contextParam : String := "Context extends DataLoaders"

/-- The parameter for the context, if there is one. -/
def contextParams (options : Options) : List Param :=
  if options.context then [{ name := "ctx", type := contextType }] else []

/-- The type parameters of a declaration that may use the context. -/
def contextTypeParams (options : Options) (param : String) : List String :=
  if options.context then [param] else []

/-- The signature of a method. -/
def methodSignature (options : Options) (endpoint : Endpoint) : Function :=
  {
    name := endpoint.method.name
    params :=
      contextParams options ++ [{ name := "request", type := .symbol endpoint.request }]
    returns := TypeExpr.promise (.symbol endpoint.response)
  }

/-- The signature of a companion. -/
def companionSignature (options : Options) (companion : Companion) : Function :=
  {
    name := companion.name
    params :=
      contextParams options ++ [{ name := singular companion.keys, type := companion.keyType }]
    returns := TypeExpr.promise companion.valueType
  }

/-- The signatures for the method at a position. -/
def signatures (options : Options) (cursor : Cursor) (endpoint : Endpoint) (position : Nat)
    : List Function :=
  {
    methodSignature options endpoint with
    doc := (cursor.lookup Child.methodOfService position).text
  }
    :: (endpoint.companion.map (companionSignature options)).toList

/-- The interface of a service. -/
def contract (options : Options) (service : Schema.Service) (endpoints : List Endpoint)
    (cursor : Cursor)
    : Interface :=
  {
    name := service.name
    doc := cursor.description.text
    exported := true
    typeParams := contextTypeParams options contextParam
    methods :=
      endpoints.zipIdx.flatMap
        (fun (endpoint, position) => signatures options cursor endpoint position)
  }

end ProtobufTypeScript.Service
