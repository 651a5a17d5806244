import ProtobufTypeScript.Enumeration
import ProtobufTypeScript.Helper.Declaration
import ProtobufTypeScript.Message.Codec
import ProtobufTypeScript.Message.Interface
import ProtobufTypeScript.Service.Declaration
import ProtobufTypeScript.Target.SourceUnit

/-!
Generation: a unit of code for each selected file of a request. A unit holds the types of its file
in the order of the walk, then its services, then what these share, and last the helpers that all
of this mentions.
-/

namespace ProtobufTypeScript

open Schema Target

/-- What is to be generated. -/
structure Request where
  /-- The names of the files to generate code for; all files if there is none. -/
  selected : List String := []
  parameter : String := ""
  files : List File := []

/-- A file that was generated. -/
structure Output where
  name : String
  content : String
deriving DecidableEq, Repr

namespace Generation

/-- The declarations for a message. -/
def messageItems (registry : Registry) (options : Options) (node : Node) (message : Message)
    : Except GenerationError (List Item) := do
  let shapes ← Field.shapesOf registry options message
  return .interface (Message.interface options node.identifier shapes node.cursor)
    :: if options.hasCodecs then
        [
          .values (Message.baseInstance options node.identifier shapes),
          .object (Message.codec options node.identifier shapes)
        ]
      else []

/-- The declarations for a type. -/
def nodeItems (registry : Registry) (options : Options) (node : Node)
    : Except GenerationError (List Item) :=
  match node.definition with
  | .message message => messageItems registry options node message
  | .enumeration enumeration =>
      .ok [.enumeration (Enumeration.declaration options node.identifier enumeration node.cursor)]

/-- The declarations for the types of a file. -/
def typeItems (registry : Registry) (options : Options) (file : File)
    : Except GenerationError (List Item) := do
  let nodes ← file.nodes (.root file) options
  return (← nodes.mapM (nodeItems registry options)).flatten

/-- The declarations for the services of a file. -/
def serviceItems (registry : Registry) (options : Options) (file : File)
    : Except GenerationError (List Item) := do
  let declared ← (file.servicesAt (.root file)).mapM fun (service, cursor) =>
    Service.declarations registry options file.package service cursor
  return declared.flatten

/-- The unit for a file before helpers are added. -/
def bareUnit (registry : Registry) (options : Options) (file : File)
    : Except GenerationError SourceUnit := do
  let types ← typeItems registry options file
  let services ← serviceItems registry options file
  return {
    module := unitPath file.name
    header := ((Cursor.root file).lookupSingle Child.syntaxOfFile).text
    items :=
      types ++ services ++ if file.services.isEmpty then [] else Service.shared options
    declared := registry.identifiersIn (unitPath file.name)
  }

/-- The unit for a file. -/
def unit (registry : Registry) (options : Options) (file : File)
    : Except GenerationError SourceUnit := do
  let bare ← bareUnit registry options file
  let helpers ← Helper.declarations registry options bare.references.helpers
  return { bare with items := bare.items ++ helpers }

/-- Whether a request selects a file. -/
def selects (request : Request) (file : File) : Bool :=
  request.selected.isEmpty || request.selected.contains file.name

/-- Refuses a name that no file has. -/
def checkSelected (files : List File) (name : String) : Except GenerationError PUnit :=
  if files.any (fun file => file.name == name) then .ok ⟨⟩ else .error (.unknownFile name)

/-- The output for a file. -/
def output (registry : Registry) (options : Options) (file : File)
    : Except GenerationError Output := do
  return { name := outputName file.name, content := (← unit registry options file).render }

/-- The outputs for the selected files of a request, in the order of its files. -/
def outputs (request : Request) : Except GenerationError (List Output) := do
  let options := Options.ofParameter request.parameter
  let registry ← Registry.ofFiles options request.files
  request.selected.forM (checkSelected request.files)
  (request.files.filter (selects request)).mapM (output registry options)

end Generation

end ProtobufTypeScript
