import ProtobufTypeScript.Proofs.Target.SyntaxBrackets
import ProtobufTypeScript.Target.Declaration

/-!
Brackets in declarations: functions, interfaces, classes, objects and enums are written with
balanced brackets if their names, comments, types and bodies are balanced.
-/

namespace ProtobufTypeScript.Target

open Text (IsBalanced owedAfter)

-- The brackets of literals are computed.
attribute [local simp] Text.brackets_cons Text.isBracket Text.closingOf? Text.isClosing
  Text.readBracket Text.closeWith IsBalanced

/-- Whether what a parameter consists of is balanced. -/
structure Param.Balances (param : Param) : Prop where
  name : Text.Balances param.name
  type : param.type.Balances
  default : ∀ code ∈ param.default, ∀ text, .text text ∈ code.lines → text.Balances

/-- A parameter is balanced exactly if its parts are. -/
theorem Param.balances_iff {param : Param}
    : param.Balances
      ↔ Text.Balances param.name ∧ param.type.Balances
        ∧ ∀ code ∈ param.default, ∀ text, .text text ∈ code.lines → text.Balances :=
  ⟨fun has => ⟨has.name, has.type, has.default⟩, fun ⟨name, type, code⟩ => ⟨name, type, code⟩⟩

/-- Whether what a function consists of is balanced. -/
structure Function.Balances (function : Function) : Prop where
  name : Text.Balances function.name
  doc : ∀ text ∈ function.doc, Text.Balances text
  typeParams : ∀ param ∈ function.typeParams, Text.Balances param
  params : ∀ param ∈ function.params, param.Balances
  returns : ∀ type ∈ function.returns, type.Balances
  body : function.body.lines.Balances

/-- Whether what a property consists of is balanced. -/
structure Property.Balances (property : Property) : Prop where
  name : Text.Balances property.name
  type : property.type.Balances
  doc : ∀ text ∈ property.doc, Text.Balances text
  modifiers : ∀ word ∈ property.modifiers, Text.Balances word

/-- Whether what an interface consists of is balanced. -/
structure Interface.Balances (interface : Interface) : Prop where
  name : Text.Balances interface.name
  doc : ∀ text ∈ interface.doc, Text.Balances text
  typeParams : ∀ param ∈ interface.typeParams, Text.Balances param
  properties : ∀ property ∈ interface.properties, property.Balances
  methods : ∀ method ∈ interface.methods, method.Balances

/-- Whether what a class consists of is balanced. -/
structure ClassType.Balances (declared : ClassType) : Prop where
  name : Text.Balances declared.name
  doc : ∀ text ∈ declared.doc, Text.Balances text
  typeParams : ∀ param ∈ declared.typeParams, Text.Balances param
  implements : ∀ type ∈ declared.implements, type.Balances
  properties : ∀ property ∈ declared.properties, property.Balances
  functions : ∀ function ∈ declared.functions, function.Balances

/-- Whether what an object of values consists of is balanced. -/
structure ValueObject.Balances (object : ValueObject) : Prop where
  name : Text.Balances object.name
  type : object.type.Balances
  values : ∀ entry ∈ object.values, Text.Balances entry.1 ∧ entry.2.Balances

/-- Whether what an entry of an object consists of is balanced. -/
def Entry.Balances : Entry → Prop
  | .value doc name content =>
      (∀ text ∈ doc, Text.Balances text) ∧ Text.Balances name ∧ content.Balances
  | .method declared => declared.Balances
  | .gap => True

/-- Whether what an exported object consists of is balanced. -/
structure ObjectConst.Balances (object : ObjectConst) : Prop where
  name : Text.Balances object.name
  doc : ∀ text ∈ object.doc, Text.Balances text
  entries : ∀ entry ∈ object.entries, entry.Balances

-----------------------------------------------------------------------------------------
-- Functions
-----------------------------------------------------------------------------------------

/-- The angles around type parameters are no brackets, so that only the parameters count.
-/
theorem balances_typeParamsText {typeParams : List String}
    (balanced : ∀ param ∈ typeParams, Text.Balances param)
    : Text.Balances (typeParamsText typeParams) := by
  unfold typeParamsText
  split
  · exact Text.isBalanced_nil
  · refine Text.balances_append (Text.balances_append (by decide) ?_) (by decide)
    exact Text.balances_intercalate (by decide) balanced

theorem brackets_exportText (exported : Bool)
    : Text.brackets (exportText exported).toList = [] := by
  cases exported <;> rfl

/-- A parameter is written as its name, its type and its default value, each of which is
balanced.
-/
theorem Param.Balances.snippet {param : Param} (balanced : param.Balances)
    : param.snippet.Balances := by
  obtain ⟨inName, inType, inDefault⟩ := balanced
  rw [Param.snippet]
  cases found : param.default with
  | none => simp [Snippet.Balances, inName.owedAfter_eq, inType.snippet.owedAfter_eq]
  | some code =>
      have written : code.lines.inlined.Balances := Block.balances_inlined (inDefault code found)
      simp [Snippet.Balances, inName.owedAfter_eq, inType.snippet.owedAfter_eq,
        written.owedAfter_eq]

/-- The header of a function is balanced: the brackets around the parameters belong
together.
-/
theorem Function.Balances.header {function : Function} (balanced : function.Balances)
    : function.header.Balances := by
  have inTypeParams := balances_typeParamsText balanced.typeParams
  have inParams
      : Snippet.Balances ([Piece.plain ", "].intercalate (function.params.map Param.snippet)) :=
    Snippet.balances_intercalate (by decide)
      (List.forall_mem_map.mpr (fun param member => (balanced.params param member).snippet))
  rw [Function.header]
  cases found : function.returns with
  | none =>
      simp [Snippet.Balances, balanced.name.owedAfter_eq, inTypeParams.owedAfter_eq,
        inParams.owedAfter_eq]
  | some type =>
      have written := (balanced.returns type found).snippet
      simp [Snippet.Balances, balanced.name.owedAfter_eq, inTypeParams.owedAfter_eq,
        inParams.owedAfter_eq, written.owedAfter_eq]

/-- A function is written with balanced brackets, wherever it is declared. -/
theorem Function.Balances.code {function : Function} (placement : Placement)
    (balanced : function.Balances)
    : (function.code placement).Balances := by
  have header := balanced.header
  refine Block.balances_append (Block.balances_doc balanced.doc) ?_
  cases placement with
  | signature => simp [Block.Balances, header.owedAfter_eq]
  | topLevel exported =>
      simp [Block.Balances, brackets_exportText, header.owedAfter_eq, balanced.body.owedAfter_eq]
  | method => simp [Block.Balances, header.owedAfter_eq, balanced.body.owedAfter_eq]
  | entry => simp [Block.Balances, header.owedAfter_eq, balanced.body.owedAfter_eq]

-----------------------------------------------------------------------------------------
-- Interfaces and classes
-----------------------------------------------------------------------------------------

/-- The line of a property is balanced, and so is the comment on it. The words in front of
its name are gone through one by one.
-/
theorem Property.Balances.code {property : Property} (balanced : property.Balances)
    : property.code.Balances := by
  have words
      : Text.Balances (String.join (property.modifiers.map (fun word => word ++ " "))) := by
    rw [Text.Balances, String.toList_join]
    refine Text.isBalanced_flatMap (List.forall_mem_map.mpr (fun word member => ?_))
    exact Text.balances_append (balanced.modifiers word member) (by decide)
  have mark : Text.brackets (if property.optional then "?" else "").toList = [] := by
    split <;> rfl
  refine Block.balances_append (Block.balances_doc balanced.doc) ?_
  simp [Block.Balances, -String.toList_join, words.owedAfter_eq, balanced.name.owedAfter_eq, mark,
    balanced.type.snippet.owedAfter_eq]

/-- An interface is balanced: the braces around its balanced members belong together. -/
theorem Interface.Balances.code {interface : Interface} (balanced : interface.Balances)
    : interface.code.Balances := by
  have inTypeParams := balances_typeParamsText balanced.typeParams
  have properties : Block.Balances (interface.properties.flatMap Property.code) :=
    Block.balances_flatMap (fun property member => (balanced.properties property member).code)
  have methods : Block.Balances (interface.methods.flatMap (Function.code .signature)) :=
    Block.balances_flatMap (fun method member => (balanced.methods method member).code .signature)
  simp [Interface.code, Block.Balances, (Block.balances_doc balanced.doc).owedAfter_eq,
    brackets_exportText, balanced.name.owedAfter_eq, inTypeParams.owedAfter_eq,
    properties.owedAfter_eq, methods.owedAfter_eq]

/-- The line that opens a class is balanced up to its brace. -/
theorem ClassType.Balances.header {declared : ClassType} (balanced : declared.Balances)
    : declared.header.Balances := by
  have inTypeParams := balances_typeParamsText balanced.typeParams
  have inTypes : (TypeExpr.joined ", " declared.implements).Balances :=
    TypeExpr.balances_joined (by decide)
      (fun type member => (balanced.implements type member).snippet)
  rw [ClassType.header]
  split <;>
    simp [Snippet.Balances, brackets_exportText, balanced.name.owedAfter_eq,
      inTypeParams.owedAfter_eq, inTypes.owedAfter_eq]

/-- A class is balanced: the braces around its balanced members belong together. -/
theorem ClassType.Balances.code {declared : ClassType} (balanced : declared.Balances)
    : declared.code.Balances := by
  have properties : Block.Balances (declared.properties.flatMap Property.code) :=
    Block.balances_flatMap (fun property member => (balanced.properties property member).code)
  have functions
      : ∀ code ∈ declared.functions.map (Function.code .method), code.Balances :=
    List.forall_mem_map.mpr
      (fun function member => (balanced.functions function member).code .method)
  have separated
      : Block.Balances
          (if declared.properties.isEmpty then
            [Line.blank].intercalate (declared.functions.map (Function.code .method))
          else (declared.functions.map (Function.code .method)).flatMap ([Line.blank] ++ ·)) := by
    split
    · exact Block.balances_intercalate functions
    · exact Block.balances_flatMap functions
  simp only [ClassType.code, Block.Balances, IsBalanced, Block.brackets_append,
    Block.brackets_opening, Text.owedAfter_append, (Block.balances_doc balanced.doc).owedAfter_eq,
    balanced.header.owedAfter_eq, properties.owedAfter_eq, separated.owedAfter_eq]
  simp

-----------------------------------------------------------------------------------------
-- Objects and enums
-----------------------------------------------------------------------------------------

/-- An object of values is balanced, whether it takes one line or more: without values its
braces stand on one line.
-/
theorem ValueObject.Balances.code {object : ValueObject} (balanced : object.Balances)
    : object.code.Balances := by
  have entries
      : Block.Balances
          (object.values.map
            (fun entry =>
              Line.text (.plain (entry.1 ++ ": ") :: (entry.2.snippet ++ [.plain ","])))) := by
    rw [Block.Balances, Block.brackets, List.flatMap_map]
    refine Text.isBalanced_flatMap (fun entry member => ?_)
    obtain ⟨inName, inValue⟩ := balanced.values entry member
    simp [Line.brackets, inName.owedAfter_eq, inValue.snippet.owedAfter_eq]
  rw [ValueObject.code]
  split <;>
    simp [Block.Balances, balanced.name.owedAfter_eq, balanced.type.snippet.owedAfter_eq,
      entries.owedAfter_eq]

/-- An entry of an object is balanced if what it is made with is. -/
theorem Entry.Balances.code {entry : Entry} (balanced : entry.Balances)
    : entry.code.Balances := by
  cases entry with
  | value doc name content =>
      obtain ⟨inDoc, inName, inContent⟩ := balanced
      simp [Entry.code, Block.Balances, (Block.balances_doc inDoc).owedAfter_eq,
        inName.owedAfter_eq, inContent.snippet.owedAfter_eq]
  | method declared => exact Function.Balances.code .entry balanced
  | gap => exact Text.isBalanced_nil

/-- An exported object is balanced: the braces around its balanced entries belong
together.
-/
theorem ObjectConst.Balances.code {object : ObjectConst} (balanced : object.Balances)
    : object.code.Balances := by
  have entries : Block.Balances (object.entries.flatMap Entry.code) :=
    Block.balances_flatMap (fun entry member => (balanced.entries entry member).code)
  simp [ObjectConst.code, Block.Balances, (Block.balances_doc balanced.doc).owedAfter_eq,
    balanced.name.owedAfter_eq, entries.owedAfter_eq]

/-- An enum is balanced if its object is, since the type of its numbers has no brackets.
-/
theorem NumberedEnum.balances_code {declared : NumberedEnum} (balanced : declared.object.Balances)
    : declared.code.Balances := by
  have numbers
      : Text.Balances
          (" | ".intercalate (declared.numbers.map (fun number => number.toInt.repr))) :=
    Text.balances_intercalate (by decide)
      (List.forall_mem_map.mpr (fun number _ => Expr.balances_number number.toInt))
  simp only [NumberedEnum.code]
  simp [Block.Balances, balanced.code.owedAfter_eq, balanced.name.owedAfter_eq,
    -String.toList_intercalate, numbers.owedAfter_eq]

end ProtobufTypeScript.Target
