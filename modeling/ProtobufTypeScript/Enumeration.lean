import ProtobufTypeScript.Options
import ProtobufTypeScript.Schema.Comment
import ProtobufTypeScript.Target.Declaration

/-!
Enums in generated code: an object of numbered members with conversions from and to JSON, and the
type of the numbers. A member `UNRECOGNIZED` with the number -1 is always added, for values that
no declared member has. Where members share a number, the first of them is its name.
-/

namespace ProtobufTypeScript.Enumeration

open Schema Target

/-- The name of the added member. -/
def unrecognizedName : String := "UNRECOGNIZED"

/-- The number of the added member. -/
def unrecognizedNumber : Int32 := -1

/-- Each member with whether it is the first one of its number, besides those seen before.
-/
def markFirst : List Int32 → List Member → List (Member × Bool)
  | _, [] => []
  | seen, member :: rest =>
      (member, !seen.contains member.number) :: markFirst (member.number :: seen) rest

/-- The members that are the first ones of their numbers. -/
def firstMembers (members : List Member) : List Member :=
  ((markFirst [] members).filter Prod.snd).map Prod.fst

/-- The numbers an enum may hold, each once. -/
def numbers (members : List Member) : List Int32 :=
  (members.map Member.number ++ [unrecognizedNumber]).eraseDups

/-- The entry of a member, documented under its name. -/
def memberEntry (typeName : String) (doc : Option String) (name : String) (number : Int32)
    : Entry :=
  .value (doc.map (fun text => name ++ " - " ++ text)) name
    (.cast (.number number.toInt) (.simple typeName))

/-- The entries of the declared members and of the added one. -/
def memberEntries (typeName : String) (members : List Member) (cursor : Cursor) : List Entry :=
  members.zipIdx.map
      (fun (member, position) =>
        memberEntry typeName (cursor.lookup Child.memberOfEnum position).text member.name
          member.number)
    ++ [memberEntry typeName none unrecognizedName unrecognizedNumber]

/-- A member of the generated object. -/
def memberOf (typeName name : String) : Expr :=
  .field typeName name

/-- The label for a number. -/
def numberLabel (number : Int32) : CaseLabel :=
  .case (.number number.toInt)

/-- The section that finds a member by its name, or by its number if it is the first one
of it.
-/
def parseSection (typeName : String) (entry : Member × Bool) : Section :=
  .mk
    ((if entry.2 then [numberLabel entry.1.number] else []) ++ [.case (.quoted entry.1.name)])
    [.result (memberOf typeName entry.1.name)]

/-- The section that finds the added member, by its number only if no declared member has
it.
-/
def unrecognizedSection (typeName : String) (members : List Member) : Section :=
  let isTaken := members.any (fun member => member.number == unrecognizedNumber)
  .mk
    ((if isTaken then [] else [numberLabel unrecognizedNumber])
      ++ [.case (.quoted unrecognizedName), .default])
    [.result (memberOf typeName unrecognizedName)]

/-- The switch of `fromJSON`, which accepts numbers and names. -/
def parseSwitch (typeName : String) (members : List Member) : Stmt :=
  .choose (.name "object")
    ((markFirst [] members).map (parseSection typeName) ++ [unrecognizedSection typeName members])

/-- The section that names a member. -/
def nameSection (typeName : String) (member : Member) : Section :=
  .mk [.case (memberOf typeName member.name)] [.result (.quoted member.name)]

/-- The switch of `toJSON`, which gives each number its first name. -/
def nameSwitch (typeName : String) (members : List Member) : Stmt :=
  .choose (.name "object")
    ((firstMembers members).map (nameSection typeName)
      ++ [.mk [.default] [.result (.quoted "UNKNOWN")]])

/-- The function that makes a member from a JSON value. -/
def fromJson (typeName : String) (members : List Member) : Function :=
  {
    name := "fromJSON"
    params := [{ name := "object", type := .any }]
    returns := TypeExpr.simple typeName
    body := { lines := (parseSwitch typeName members).code }
  }

/-- The function that makes a JSON value from a member. -/
def toJson (typeName : String) (members : List Member) : Function :=
  {
    name := "toJSON"
    params := [{ name := "object", type := .simple typeName }]
    returns := TypeExpr.string
    body := { lines := (nameSwitch typeName members).code }
  }

/-- The conversions that an enum gets. -/
def conversions (options : Options) (typeName : String) (members : List Member) : List Entry :=
  if options.jsonMethods then
    [.method (fromJson typeName members), .method (toJson typeName members)]
  else []

/-- The declaration of an enum. -/
def declaration (options : Options) (typeName : String) (enumeration : Schema.Enumeration)
    (cursor : Cursor)
    : NumberedEnum :=
  {
    object :=
      {
        name := typeName
        doc := cursor.description.text
        entries :=
          memberEntries typeName enumeration.members cursor
            ++ conversions options typeName enumeration.members
      }
    numbers := numbers enumeration.members
  }

end ProtobufTypeScript.Enumeration
