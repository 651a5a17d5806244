import ProtobufTypeScript.Text.Blank
import ProtobufTypeScript.Text.Casing
import ProtobufTypeScript.Text.Lines

/-!
What a user may choose about the generated code, and the two ways of saying it: a comma-separated
parameter, in which whatever is not recognised is passed over, and a record of named settings, in
which a setting of the wrong kind is refused.
-/

namespace ProtobufTypeScript

/-- How a 64-bit integer is represented in the generated code. -/
inductive LongForm where
  | number
  | long
  | string
deriving DecidableEq, Repr

/-- The choices of one run. -/
structure Options where
  /-- A context argument is passed through services and clients. -/
  context : Bool := false
  /-- Names are written in camel case. -/
  camelCase : Bool := true
  longForm : LongForm := .number
  /-- Messages get `encode` and `decode`. -/
  binaryMethods : Bool := true
  /-- Messages get `fromJSON`, `fromPartial` and `toJSON`, and enums the first and the
  last.
  -/
  jsonMethods : Bool := true
  /-- Services get a client class. -/
  clients : Bool := true
deriving DecidableEq, Repr

namespace Options

/-- Whether messages get a codec object at all. -/
def hasCodecs (options : Options) : Bool :=
  options.binaryMethods || options.jsonMethods

/-- The identifier for a schema name. -/
def identifier (options : Options) (name : String) : String :=
  if options.camelCase then Text.camelCase name else name

/-- The value of a switch, if it is one. -/
def switch? : String → Option Bool
  | "true" => some true
  | "false" => some false
  | _ => none

/-- The long form that a parameter value names, if any. -/
def longForm? : String → Option LongForm
  | "true" => some .long
  | "long" => some .long
  | "string" => some .string
  | "false" => some .number
  | "number" => some .number
  | _ => none

/-- Applies one key and value; an unknown key or value changes nothing. -/
def set (options : Options) (key value : String) : Options :=
  match key with
  | "context" => { options with context := (switch? value).getD options.context }
  | "snakeToCamel" => { options with camelCase := (switch? value).getD options.camelCase }
  | "forceLong" => { options with longForm := (longForm? value).getD options.longForm }
  | "outputEncodeMethods" =>
      { options with binaryMethods := (switch? value).getD options.binaryMethods }
  | "outputJsonMethods" => { options with jsonMethods := (switch? value).getD options.jsonMethods }
  | "outputClientImpl" => { options with clients := (switch? value).getD options.clients }
  | _ => options

/-- The trimmed key and value of one part of a parameter; without an equals sign the value
is empty.
-/
def assignment (part : String) : String × String :=
  match Text.cutAt '=' (Text.trimChars part.toList) with
  | some (key, value) =>
      (String.ofList (Text.trimChars key), String.ofList (Text.trimChars value))
  | none => (Text.trim part, "")

/-- The options that a parameter asks for, its parts applied from left to right. -/
def ofParameter (parameter : String) : Options :=
  ((Text.partsAt ',' parameter).map assignment).foldl
    (fun options entry => options.set entry.1 entry.2) {}

/-- A value in a record of settings. -/
inductive Setting where
  | flag (value : Bool)
  | word (value : String)
  | other

/-- The switch a setting holds. -/
def Setting.flag? : Setting → Option Bool
  | .flag value => some value
  | _ => none

/-- The long form a setting holds. -/
def Setting.longForm? : Setting → Option LongForm
  | .word "number" => some .number
  | .word "long" => some .long
  | .word "string" => some .string
  | _ => none

/-- Applies one named setting; an unknown name changes nothing, a wrong kind of value is
refused.
-/
def load? (options : Options) (name : String) (setting : Setting) : Option Options :=
  match name with
  | "useContext" => setting.flag?.map (fun value => { options with context := value })
  | "snakeToCamel" => setting.flag?.map (fun value => { options with camelCase := value })
  | "forceLong" => setting.longForm?.map (fun value => { options with longForm := value })
  | "outputEncodeMethods" =>
      setting.flag?.map (fun value => { options with binaryMethods := value })
  | "outputJsonMethods" => setting.flag?.map (fun value => { options with jsonMethods := value })
  | "outputClientImpl" => setting.flag?.map (fun value => { options with clients := value })
  | _ => some options

/-- The options of a record of settings, the defaults standing for what it leaves out. -/
def ofSettings? (settings : List (String × Setting)) : Option Options :=
  settings.foldlM (fun options entry => options.load? entry.1 entry.2) {}

/-- The word for a long form. -/
def longWord : LongForm → String
  | .number => "number"
  | .long => "long"
  | .string => "string"

/-- All choices as a record of settings. -/
def toSettings (options : Options) : List (String × Setting) :=
  [
    ("useContext", .flag options.context),
    ("snakeToCamel", .flag options.camelCase),
    ("forceLong", .word (longWord options.longForm)),
    ("outputEncodeMethods", .flag options.binaryMethods),
    ("outputJsonMethods", .flag options.jsonMethods),
    ("outputClientImpl", .flag options.clients)
  ]

end Options

end ProtobufTypeScript
