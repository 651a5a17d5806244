import ProtobufTypeScript.Target.Stmt

/-!
Declarations: functions in their four places, interfaces, classes, constant objects and enums, and
the top-level items of a unit made of them. Writing a declaration records the symbols of its types
and takes over what was recorded for the code that it is made with: default values, bodies, values.
-/

namespace ProtobufTypeScript.Target

/-- A parameter of a declared function. -/
structure Param where
  name : String
  type : TypeExpr
  /-- The code of its default value. -/
  default : Option Code := none

/-- A function, method or constructor. -/
structure Function where
  name : String
  doc : Option String := none
  typeParams : List String := []
  params : List Param := []
  returns : Option TypeExpr := none
  body : Code := {}

/-- Where a function is declared. -/
inductive Placement where
  /-- At the top level of a unit. -/
  | topLevel (exported : Bool)
  /-- In the body of a class. -/
  | method
  /-- As an entry of an object. -/
  | entry
  /-- In an interface, without a body. -/
  | signature
deriving DecidableEq, Repr

/-- A property of an interface or a class. -/
structure Property where
  name : String
  type : TypeExpr
  doc : Option String := none
  optional : Bool := false
  /-- Words before the name, such as `private` and `readonly`. -/
  modifiers : List String := []

structure Interface where
  name : String
  doc : Option String := none
  exported : Bool := false
  typeParams : List String := []
  properties : List Property := []
  methods : List Function := []

structure ClassType where
  name : String
  doc : Option String := none
  exported : Bool := false
  typeParams : List String := []
  implements : List TypeExpr := []
  properties : List Property := []
  constructor : Option Function := none
  methods : List Function := []

/-- A constant that holds an object of plain values and is not exported. -/
structure ValueObject where
  name : String
  type : TypeExpr
  values : List (String × Expr)
  /-- What was recorded for the values. -/
  recorded : List Symbol := []

/-- An entry of an exported object. -/
inductive Entry where
  | value (doc : Option String) (name : String) (content : Expr)
  | method (declared : Function)
  /-- An empty line. -/
  | gap

/-- An exported constant that holds an object. -/
structure ObjectConst where
  name : String
  doc : Option String := none
  entries : List Entry

/-- An exported object of numbered members and the type of their numbers, of one name. -/
structure NumberedEnum where
  object : ObjectConst
  numbers : List Int32

/-- A top-level declaration of a unit. -/
inductive Item where
  | interface (declared : Interface)
  | classType (declared : ClassType)
  | function (declared : Function) (exported : Bool)
  | values (declared : ValueObject)
  | object (declared : ObjectConst)
  | enumeration (declared : NumberedEnum)
  | code (written : Code)

/-- How type parameters are written; nothing if there are none. -/
def typeParamsText (typeParams : List String) : String :=
  if typeParams.isEmpty then "" else "<" ++ ", ".intercalate typeParams ++ ">"

/-- The word before an exported declaration. -/
def exportText (exported : Bool) : String :=
  if exported then "export " else ""

/-- How a parameter is written. -/
def Param.snippet (param : Param) : Snippet :=
  [.plain (param.name ++ ": ")] ++ param.type.snippet
    ++ (match param.default with
        | some default => [.plain " = "] ++ default.lines.inlined
        | none => [])

/-- What writing a parameter records: its type, and what was recorded for its default
value.
-/
def Param.recorded (param : Param) : List Symbol :=
  param.type.recorded
    ++ match param.default with
      | some default => default.recorded
      | none => []

namespace Function

/-- The name, parameters and result type of a function as they are written. -/
def header (function : Function) : Snippet :=
  [.plain (function.name ++ typeParamsText function.typeParams ++ "(")]
    ++ [Piece.plain ", "].intercalate (function.params.map Param.snippet)
    ++ [.plain ")"]
    ++ (match function.returns with
        | some type => [.plain ": "] ++ type.snippet
        | none => [])

/-- The code of a function at its place. -/
def code (placement : Placement) (function : Function) : Block :=
  Block.doc function.doc
    ++ match placement with
      | .signature => Block.statement function.header
      | .topLevel exported =>
          Block.opening ([.plain (exportText exported ++ "function ")] ++ function.header)
            ++ function.body.lines ++ Block.closing
      | .method => Block.opening function.header ++ function.body.lines ++ Block.closing
      | .entry =>
          Block.opening function.header ++ function.body.lines ++ Block.closingWith [.plain ","]

/-- What writing a function at its place records; a signature leaves its body out. -/
def recorded (placement : Placement) (function : Function) : List Symbol :=
  function.params.flatMap Param.recorded
    ++ (match function.returns with
        | some type => type.recorded
        | none => [])
    ++ match placement with
      | .signature => []
      | .topLevel _ => function.body.recorded
      | .method => function.body.recorded
      | .entry => function.body.recorded

end Function

/-- The code of a property. -/
def Property.code (property : Property) : Block :=
  let words := String.join (property.modifiers.map (fun word => word ++ " "))
  let mark := if property.optional then "?" else ""
  Block.doc property.doc
    ++ Block.statement ([.plain (words ++ property.name ++ mark ++ ": ")] ++ property.type.snippet)

/-- What writing a property records. -/
def Property.recorded (property : Property) : List Symbol :=
  property.type.recorded

/-- The code of an interface. -/
def Interface.code (interface : Interface) : Block :=
  Block.doc interface.doc
    ++ Block.opening
        [
          .plain
            (exportText interface.exported ++ "interface " ++ interface.name
              ++ typeParamsText interface.typeParams)
        ]
    ++ interface.properties.flatMap Property.code
    ++ interface.methods.flatMap (Function.code .signature)
    ++ Block.closing

/-- What writing an interface records. -/
def Interface.recorded (interface : Interface) : List Symbol :=
  interface.properties.flatMap Property.recorded
    ++ interface.methods.flatMap (Function.recorded .signature)

namespace ClassType

/-- The line that opens a class. -/
def header (declared : ClassType) : Snippet :=
  [
    .plain
      (exportText declared.exported ++ "class " ++ declared.name
        ++ typeParamsText declared.typeParams)
  ]
    ++ (if declared.implements.isEmpty then []
        else [.plain " implements "] ++ TypeExpr.joined ", " declared.implements)

/-- The constructor, if any, and the methods. -/
def functions (declared : ClassType) : List Function :=
  declared.constructor.toList ++ declared.methods

/-- The code of a class: an empty line stands before each function but a first member. -/
def code (declared : ClassType) : Block :=
  let functions := declared.functions.map (Function.code .method)
  let separated :=
    if declared.properties.isEmpty then [Line.blank].intercalate functions
    else functions.flatMap ([Line.blank] ++ ·)
  Block.doc declared.doc ++ Block.opening declared.header
    ++ declared.properties.flatMap Property.code ++ separated ++ Block.closing

/-- What writing a class records. -/
def recorded (declared : ClassType) : List Symbol :=
  declared.implements.flatMap TypeExpr.recorded
    ++ declared.properties.flatMap Property.recorded
    ++ declared.functions.flatMap (Function.recorded .method)

end ClassType

/-- The code of an object of values; without any it takes one line. -/
def ValueObject.code (object : ValueObject) : Block :=
  let header : Snippet := [.plain ("const " ++ object.name ++ ": ")] ++ object.type.snippet
  if object.values.isEmpty then Block.statement (header ++ [.plain " = \x7b\x7d"])
  else
    Block.opening (header ++ [.plain " ="])
      ++ object.values.map
          (fun (name, value) =>
            .text ([.plain (name ++ ": ")] ++ value.snippet ++ [.plain ","]))
      ++ Block.closingWith [.plain ";"]

/-- The code of an entry. -/
def Entry.code : Entry → Block
  | .value doc name content =>
      Block.doc doc
        ++ Block.line ([.plain (name ++ ": ")] ++ content.snippet ++ [.plain ","])
  | .method declared => declared.code .entry
  | .gap => [.blank]

/-- What writing an entry records; its plain values are written without recording
anything.
-/
def Entry.recorded : Entry → List Symbol
  | .value _ _ _ => []
  | .method declared => declared.recorded .entry
  | .gap => []

/-- The code of an exported object. -/
def ObjectConst.code (object : ObjectConst) : Block :=
  Block.doc object.doc ++ Block.opening [.plain ("export const " ++ object.name ++ " =")]
    ++ object.entries.flatMap Entry.code ++ Block.closingWith [.plain ";"]

/-- What writing an exported object records. -/
def ObjectConst.recorded (object : ObjectConst) : List Symbol :=
  object.entries.flatMap Entry.recorded

/-- The code of an enum: its object, then its type. -/
def NumberedEnum.code (declared : NumberedEnum) : Block :=
  let numbers := " | ".intercalate (declared.numbers.map (fun number => toString number.toInt))
  declared.object.code ++ [.blank]
    ++ Block.statement [.plain ("export type " ++ declared.object.name ++ " = " ++ numbers)]

namespace Item

/-- The code of an item. -/
def block : Item → Block
  | .interface declared => declared.code
  | .classType declared => declared.code
  | .function declared exported => declared.code (.topLevel exported)
  | .values declared => declared.code
  | .object declared => declared.code
  | .enumeration declared => declared.code
  | .code written => written.lines

/-- What is recorded for an item. -/
def recorded : Item → List Symbol
  | .interface declared => declared.recorded
  | .classType declared => declared.recorded
  | .function declared exported => declared.recorded (.topLevel exported)
  | .values declared => declared.recorded
  | .object declared => declared.recorded
  | .enumeration declared => declared.object.recorded
  | .code written => written.recorded

/-- The name an item keeps imports from taking: that of an interface, a class or a
function.
-/
def reservedName : Item → Option String
  | .interface declared => some declared.name
  | .classType declared => some declared.name
  | .function declared _ => some declared.name
  | .values _ => none
  | .object _ => none
  | .enumeration _ => none
  | .code _ => none

end Item

end ProtobufTypeScript.Target
