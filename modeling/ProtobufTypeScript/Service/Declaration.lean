import ProtobufTypeScript.Service.Client

/-!
All that a unit declares for its services: an interface and perhaps a client for each, and once the
interfaces of the transport and of the context.
-/

namespace ProtobufTypeScript.Service

open Schema Target

/-- Whether clients are generated; they need the binary methods of messages. -/
def hasClients (options : Options) : Bool :=
  options.clients && options.binaryMethods

/-- The declarations for a service whose methods do not stream. The interface and the
client each find the types of the methods for themselves.
-/
def declarations (registry : Registry) (options : Options) (package : String)
    (service : Schema.Service) (cursor : Cursor)
    : Except GenerationError (List Item) := do
  service.methods.forM (checkUnary service)
  let offered ← service.methods.mapM (endpoint registry options service)
  let interface : Item := .interface (contract options service offered cursor)
  if hasClients options then
    let served ← service.methods.mapM (clientEndpoint registry options service)
    return [interface, .classType (client options package service served)]
  else return [interface]

/-- The transport that clients send their requests with. -/
def transport (options : Options) : Interface :=
  {
    name := "Rpc"
    typeParams := contextTypeParams options "Context"
    methods :=
      [
        {
          name := "request"
          params :=
            contextParams options
              ++ [
                { name := "service", type := .string },
                { name := "method", type := .string },
                { name := "data", type := .bytes }
              ]
          returns := TypeExpr.promise .bytes
        }
      ]
  }

/-- How loads are remembered. -/
def loaderOptions : Interface :=
  {
    name := "DataLoaderOptions"
    exported := true
    properties := [{ name := "cache", type := .boolean, optional := true }]
  }

/-- What a context has to offer. -/
def loaders : Interface :=
  {
    name := "DataLoaders"
    exported := true
    properties :=
      [
        {
          name := "rpcDataLoaderOptions"
          type := .simple "DataLoaderOptions"
          optional := true
        }
      ]
    methods :=
      [
        {
          name := "getDataLoader"
          typeParams := ["T"]
          params :=
            [
              { name := "identifier", type := .string },
              { name := "constructorFn", type := .simple "() => T" }
            ]
          returns := TypeExpr.simple "T"
        }
      ]
  }

/-- The interfaces that all services of a unit share. -/
def shared (options : Options) : List Item :=
  (if hasClients options then [.interface (transport options)] else [])
    ++ if options.context then [.interface loaderOptions, .interface loaders] else []

end ProtobufTypeScript.Service
