import ProtobufTypeScript.Service.Contract

/-!
The client of a service: a class that writes requests, hands them to a transport and reads the
responses. With a context, calls of cacheable methods are remembered for it, and companions gather
single keys into one call of their batch method.
-/

namespace ProtobufTypeScript.Service

open Schema Target

/-- Names joined by dots, without the empty ones. -/
def dotted (names : List String) : String :=
  ".".intercalate (names.filter (fun name => !name.isEmpty))

/-- The name of a service within all packages. -/
def servicePath (package : String) (service : Schema.Service) : String :=
  dotted [package, service.name]

/-- The name under which the loads of a method are remembered. -/
def cacheName (package : String) (service : Schema.Service) (method : Method) : String :=
  dotted [package, service.name, method.name]

/-- Whether a method is answered from the cache of its context. -/
def isCached (options : Options) (method : Method) : Bool :=
  options.context && isCacheable method.name

/-- The statement that writes the request. -/
def writeRequest (endpoint : Endpoint) : Stmt :=
  .const "data" none
    (.method (.method (.symbol endpoint.request) "encode" [.name "request"]) "finish" [])

/-- The call of the transport, with what it is given before the names of the service and
the method.
-/
def callTransport (leading : List Expr) (package : String) (service : Schema.Service)
    (method : Method)
    : Expr :=
  .method (.field "this" "rpc") "request"
    (leading ++ [.quoted (servicePath package service), .quoted method.name, .name "data"])

/-- The expression that reads a response from its bytes. -/
def readResponse (endpoint : Endpoint) (bytes : String) : Expr :=
  .method (.symbol endpoint.response) "decode"
    [.construct (.symbol Library.reader) [.name bytes]]

/-- Writes, sends, and reads; the context is handed on if there is one. -/
def regularBody (options : Options) (package : String) (service : Schema.Service)
    (endpoint : Endpoint)
    : List Stmt :=
  [
    writeRequest endpoint,
    .const "promise" none
      (callTransport (if options.context then [.name "ctx"] else []) package service
        endpoint.method),
    .result
      (.method (.name "promise") "then" [.arrow ["data"] (readResponse endpoint "data")])
  ]

/-- Loads a value by key through the loader of a given name, which loads many keys at
once.
-/
def loadBody (cacheName : String) (keyType valueType : TypeExpr) (keys : String)
    (loadAll : List Stmt) (key : String)
    : List Stmt :=
  [
    .callback (some "dl") (.field "ctx" "getDataLoader") [.quoted cacheName] false []
      [
        .build (.generic (.symbol Library.dataLoader) [keyType, valueType]) [.single keys] loadAll
          (.object
            [
              .keyed "cacheKeyFn" (.symbol Library.hash),
              .spread (.field "ctx" "rpcDataLoaderOptions")
            ])
      ],
    .result (.method (.name "dl") "load" [.name key])
  ]

/-- Sends each of many requests with the context, which is there. -/
def sendEach (package : String) (service : Schema.Service) (endpoint : Endpoint) : List Stmt :=
  [
    .callback (some "responses") (.field "requests" "map") [] true [.single "request"]
      [
        writeRequest endpoint,
        .const "response" none
          (.await (callTransport [.name "ctx"] package service endpoint.method)),
        .result (readResponse endpoint "response")
      ],
    .result (.method (.name "Promise") "all" [.name "responses"])
  ]

/-- Answers equal requests once for each context. -/
def cachingBody (package : String) (service : Schema.Service) (endpoint : Endpoint) : List Stmt :=
  loadBody (cacheName package service endpoint.method) (.symbol endpoint.request)
    (.symbol endpoint.response) "requests" (sendEach package service endpoint) "request"

/-- The results for the keys, taken from a response. -/
def resultsOf (companion : Companion) : Expr :=
  let results : Expr := .field "res" companion.results
  if companion.byKey then
    .method (.name companion.keys) "map" [.arrow ["key"] (.element results (.name "key"))]
  else results

/-- Calls the batch method with many keys. -/
def callBatch (method : Method) (companion : Companion) : List Stmt :=
  [
    .const "request" none
      (.object [.keyed companion.keys (.list [.spread (.name companion.keys)])]),
    .result
      (.method (.method (.name "this") method.name [.name "ctx", .name "request"]) "then"
        [.arrow ["res"] (resultsOf companion)])
  ]

/-- Gathers single keys into one call of the batch method. -/
def batchingBody (package : String) (service : Schema.Service) (method : Method)
    (companion : Companion)
    : List Stmt :=
  loadBody (cacheName package service method) companion.keyType companion.valueType companion.keys
    (callBatch method companion) (singular companion.keys)

namespace Recorded

/-- What is recorded for writing a request and reading the response. -/
def exchange (endpoint : Endpoint) : List Symbol :=
  [endpoint.request, endpoint.response, Library.reader]

/-- What is recorded for loading by key, with what was recorded for the function that
loads many keys at once.
-/
def load (keyType valueType : TypeExpr) (loadAll : List Symbol) : List Symbol :=
  [Library.dataLoader, Library.hash] ++ keyType.recorded ++ valueType.recorded ++ loadAll

end Recorded

/-- A method that sends its request. -/
def regularMethod (options : Options) (package : String) (service : Schema.Service)
    (endpoint : Endpoint)
    : Function :=
  {
    name := endpoint.method.name
    params := contextParams options ++ [{ name := "request", type := .symbol endpoint.request }]
    returns := TypeExpr.promise (.symbol endpoint.response)
    body :=
      {
        lines := Stmt.codeAll (regularBody options package service endpoint)
        recorded := Recorded.exchange endpoint
      }
  }

/-- A method that remembers its answers for a context, which it always takes. -/
def cachingMethod (package : String) (service : Schema.Service) (endpoint : Endpoint)
    : Function :=
  {
    name := endpoint.method.name
    params :=
      [
        { name := "ctx", type := .simple "Context" },
        { name := "request", type := .symbol endpoint.request }
      ]
    returns := TypeExpr.promise (.symbol endpoint.response)
    body :=
      {
        lines := Stmt.codeAll (cachingBody package service endpoint)
        recorded :=
          Recorded.load (.symbol endpoint.request) (.symbol endpoint.response)
            (Recorded.exchange endpoint)
      }
  }

/-- A method that hands its key to the batch method together with other keys asked for in
the same context, which it always takes.
-/
def batchingMethod (package : String) (service : Schema.Service) (method : Method)
    (companion : Companion)
    : Function :=
  {
    name := companion.name
    params :=
      [
        { name := "ctx", type := .simple "Context" },
        { name := singular companion.keys, type := companion.keyType }
      ]
    returns := TypeExpr.promise companion.valueType
    body :=
      {
        lines := Stmt.codeAll (batchingBody package service method companion)
        recorded := Recorded.load companion.keyType companion.valueType []
      }
  }

/-- The methods of the client for an endpoint: the companion first, if there is one. -/
def clientMethods (options : Options) (package : String) (service : Schema.Service)
    (endpoint : Endpoint)
    : List Function :=
  (endpoint.companion.map (batchingMethod package service endpoint.method)).toList
    ++ [
      if isCached options endpoint.method then cachingMethod package service endpoint
      else regularMethod options package service endpoint
    ]

/-- A type that depends on the context, if there is one. -/
def withContext (options : Options) (name : String) : TypeExpr :=
  if options.context then .generic (.simple name) [contextType] else .simple name

/-- The client of a service. -/
def client (options : Options) (package : String) (service : Schema.Service)
    (endpoints : List Endpoint)
    : ClassType :=
  let transport := withContext options "Rpc"
  {
    name := service.name ++ "ClientImpl"
    exported := true
    typeParams := contextTypeParams options contextParam
    implements := [withContext options service.name]
    properties :=
      [{ name := "rpc", type := transport, modifiers := ["private", "readonly"] }]
    constructor :=
      some
        {
          name := "constructor"
          params := [{ name := "rpc", type := transport }]
          body := { lines := (Stmt.assign (.field "this" "rpc") (.name "rpc")).code }
        }
    methods := endpoints.flatMap (clientMethods options package service)
  }

end ProtobufTypeScript.Service
