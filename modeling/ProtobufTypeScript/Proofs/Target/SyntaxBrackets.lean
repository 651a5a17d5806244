import ProtobufTypeScript.Proofs.Target.Alphabet

/-!
Brackets in written syntax. All brackets around the parts of a type, an expression or a statement
are written in pairs, so that its code is balanced if the texts in it are.
-/

namespace ProtobufTypeScript.Target

open Text (IsBalanced owedAfter)

-- The brackets of literals are computed.
attribute [local simp] Text.brackets_cons Text.isBracket Text.closingOf? Text.isClosing
  Text.readBracket Text.closeWith IsBalanced

/-- Plain texts are balanced. -/
theorem balances_of_isPlain {text : String} (plain : Alphabet.isPlain text = true)
    : Text.Balances text :=
  Text.balances_of_plain (Alphabet.unbracketed.spells_of_isPlain plain)

-----------------------------------------------------------------------------------------
-- Code in a line
-----------------------------------------------------------------------------------------

/-- The brackets in the text of a piece; those of a symbol do not count. -/
def Piece.brackets : Piece → List Char
  | .plain text => Text.brackets text.toList
  | .symbol _ => []

namespace Snippet

/-- The brackets in code text. -/
def brackets (snippet : Snippet) : List Char :=
  snippet.flatMap Piece.brackets

/-- Whether code text is balanced. -/
def Balances (snippet : Snippet) : Prop :=
  IsBalanced snippet.brackets

@[simp] theorem brackets_nil
    : brackets [] = [] :=
  rfl

@[simp] theorem brackets_plain {text : String} {rest : Snippet}
    : brackets (.plain text :: rest) = Text.brackets text.toList ++ brackets rest :=
  rfl

@[simp] theorem brackets_symbol {symbol : Symbol} {rest : Snippet}
    : brackets (.symbol symbol :: rest) = brackets rest :=
  rfl

@[simp] theorem brackets_append {before after : Snippet}
    : brackets (before ++ after) = before.brackets ++ after.brackets :=
  List.flatMap_append

variable {snippet : Snippet}

theorem Balances.owedAfter_eq (balanced : snippet.Balances) (owed : List Char)
    : owedAfter owed snippet.brackets = some owed :=
  IsBalanced.owedAfter_eq balanced owed

theorem balances_plain {text : String} (balanced : Text.Balances text)
    : Balances [.plain text] := by
  simp [Balances, balanced.owedAfter_eq]

theorem balances_intercalate {separator : String} (between : Text.Balances separator)
    {snippets : List Snippet} (each : ∀ snippet ∈ snippets, snippet.Balances)
    : Balances ([Piece.plain separator].intercalate snippets) :=
  Text.isBalanced_intercalate (balances_plain between) each

end Snippet

-----------------------------------------------------------------------------------------
-- Types
-----------------------------------------------------------------------------------------

namespace TypeExpr

mutual
/-- Whether the texts in a type are balanced. -/
def Balances : TypeExpr → Prop
  | .simple name => Text.Balances name
  | .symbol _ => True
  | .union members => BalancesAll members
  | .array element => Balances element
  | .index key value => Balances key ∧ Balances value
  | .generic base arguments => Balances base ∧ BalancesAll arguments

/-- Whether the texts in all types of a list are balanced. -/
def BalancesAll : List TypeExpr → Prop
  | [] => True
  | type :: rest => Balances type ∧ BalancesAll rest
end

theorem balances_joined {separator : String} (between : Text.Balances separator)
    {types : List TypeExpr} (each : ∀ type ∈ types, type.snippet.Balances)
    : (joined separator types).Balances := by
  rw [joined_eq_intercalate]
  exact Snippet.balances_intercalate between (List.forall_mem_map.mpr each)

mutual
/-- A type is written with balanced brackets if its texts are balanced. -/
theorem Balances.snippet
    : ∀ {type : TypeExpr}, type.Balances → type.snippet.Balances
  | .simple _, inName => Snippet.balances_plain inName
  | .symbol _, _ => Text.isBalanced_nil
  | .union _, inMembers => balances_joined (by decide) (BalancesAll.snippets inMembers)
  | .array element, inElement => by
      have written : element.snippet.Balances := Balances.snippet inElement
      rw [TypeExpr.snippet]
      split <;> simp [Snippet.Balances, written.owedAfter_eq]
  | .index key value, ⟨inKey, inValue⟩ => by
      simp [TypeExpr.snippet, Snippet.Balances, inKey.snippet.owedAfter_eq,
        inValue.snippet.owedAfter_eq]
  | .generic base arguments, ⟨inBase, inArguments⟩ => by
      have written : (joined ", " arguments).Balances :=
        balances_joined (by decide) (BalancesAll.snippets inArguments)
      simp [TypeExpr.snippet, Snippet.Balances, inBase.snippet.owedAfter_eq,
        written.owedAfter_eq]

theorem BalancesAll.snippets
    : ∀ {types : List TypeExpr}, BalancesAll types → ∀ type ∈ types, type.snippet.Balances
  | [], _ => fun _ member => absurd member List.not_mem_nil
  | _ :: _, ⟨first, others⟩ =>
      List.forall_mem_cons.mpr ⟨first.snippet, BalancesAll.snippets others⟩
end

@[simp] theorem balances_languageTypes
    : number.Balances ∧ string.Balances ∧ boolean.Balances ∧ undefined.Balances ∧ any.Balances
      ∧ bytes.Balances ∧ date.Balances := by
  refine ⟨?_, ?_, ?_, ?_, ?_, ?_, ?_⟩ <;> exact balances_of_isPlain (by decide)

@[simp] theorem balances_optional {type : TypeExpr}
    : type.optional.Balances ↔ type.Balances := by
  simp [optional, Balances, BalancesAll, -balances_languageTypes, balances_languageTypes.2.2.2.1]

@[simp] theorem balances_promise {type : TypeExpr}
    : type.promise.Balances ↔ type.Balances := by
  simp (disch := decide) [promise, Balances, BalancesAll, balances_of_isPlain]

end TypeExpr

-----------------------------------------------------------------------------------------
-- Expressions
-----------------------------------------------------------------------------------------

namespace Expr

mutual
/-- Whether the texts in an expression are balanced. -/
def Balances : Expr → Prop
  | .name text => Text.Balances text
  | .symbol _ => True
  | .number _ => True
  | .grouped value => Text.Balances (groupedText value)
  | .quoted text => Text.Balances text
  | .member place property => Balances place ∧ Text.Balances property
  | .element place key => Balances place ∧ Balances key
  | .call callee arguments => Balances callee ∧ BalancesAll arguments
  | .construct callee arguments => Balances callee ∧ BalancesAll arguments
  | .present value => Balances value
  | .not value => Balances value
  | .typeOf value => Balances value
  | .await value => Balances value
  | .binary _ left right => Balances left ∧ Balances right
  | .conditional condition yes no => Balances condition ∧ Balances yes ∧ Balances no
  | .cast value type => Balances value ∧ type.Balances
  | .bracketed value => Balances value
  | .spread value => Balances value
  | .keyed key value => Text.Balances key ∧ Balances value
  | .object entries => BalancesAll entries
  | .list elements => BalancesAll elements
  | .arrow parameters body => (∀ name ∈ parameters, Text.Balances name) ∧ Balances body

/-- Whether the texts in all expressions of a list are balanced. -/
def BalancesAll : List Expr → Prop
  | [] => True
  | value :: rest => Balances value ∧ BalancesAll rest
end

theorem balancesAll_append {first second : List Expr}
    : BalancesAll (first ++ second) ↔ BalancesAll first ∧ BalancesAll second := by
  induction first with
  | nil => simp [BalancesAll]
  | cons value rest ih => simp [BalancesAll, ih, and_assoc]

theorem balances_joined {values : List Expr} (each : ∀ value ∈ values, value.snippet.Balances)
    : (joined values).Balances := by
  rw [joined_eq_intercalate]
  exact Snippet.balances_intercalate (by decide) (List.forall_mem_map.mpr each)

theorem brackets_token (operator : BinaryOp)
    : Text.brackets operator.token.toList = [] := by
  cases operator <;> decide

theorem balances_number (value : Int)
    : Text.Balances value.repr :=
  Text.balances_of_plain (Alphabet.unbracketed.spells_int_repr value)

mutual
/-- An expression is written with balanced brackets if its texts are balanced. -/
theorem Balances.snippet
    : ∀ {value : Expr}, value.Balances → value.snippet.Balances
  | .name _, inName => Snippet.balances_plain inName
  | .symbol _, _ => Text.isBalanced_nil
  | .number value, _ => Snippet.balances_plain (balances_number value)
  | .grouped _, inDigits => Snippet.balances_plain inDigits
  | .quoted _, inText => by simp [Expr.snippet, Snippet.Balances, inText.owedAfter_eq]
  | .member _ _, ⟨inObject, inProperty⟩ => by
      simp [Expr.snippet, Snippet.Balances, inObject.snippet.owedAfter_eq, inProperty.owedAfter_eq]
  | .element _ _, ⟨inObject, inKey⟩ => by
      simp [Expr.snippet, Snippet.Balances, inObject.snippet.owedAfter_eq,
        inKey.snippet.owedAfter_eq]
  | .call callee arguments, ⟨inCallee, inArguments⟩ => by
      have written := balances_joined (BalancesAll.snippets inArguments)
      simp [Expr.snippet, Snippet.Balances, inCallee.snippet.owedAfter_eq, written.owedAfter_eq]
  | .construct callee arguments, ⟨inCallee, inArguments⟩ => by
      have written := balances_joined (BalancesAll.snippets inArguments)
      simp [Expr.snippet, Snippet.Balances, inCallee.snippet.owedAfter_eq, written.owedAfter_eq]
  | .present value, inValue => by
      have written : value.snippet.Balances := Balances.snippet inValue
      simp [Expr.snippet, Snippet.Balances, written.owedAfter_eq]
  | .not value, inValue => by
      have written : value.snippet.Balances := Balances.snippet inValue
      simp [Expr.snippet, Snippet.Balances, written.owedAfter_eq]
  | .typeOf value, inValue => by
      have written : value.snippet.Balances := Balances.snippet inValue
      simp [Expr.snippet, Snippet.Balances, written.owedAfter_eq]
  | .await value, inValue => by
      have written : value.snippet.Balances := Balances.snippet inValue
      simp [Expr.snippet, Snippet.Balances, written.owedAfter_eq]
  | .binary operator left right, ⟨inLeft, inRight⟩ => by
      simp [Expr.snippet, Snippet.Balances, inLeft.snippet.owedAfter_eq,
        inRight.snippet.owedAfter_eq, brackets_token]
  | .conditional condition yes no, ⟨inCondition, inYes, inNo⟩ => by
      simp [Expr.snippet, Snippet.Balances, inCondition.snippet.owedAfter_eq,
        inYes.snippet.owedAfter_eq, inNo.snippet.owedAfter_eq]
  | .cast value type, ⟨inValue, inType⟩ => by
      simp [Expr.snippet, Snippet.Balances, inValue.snippet.owedAfter_eq,
        inType.snippet.owedAfter_eq]
  | .bracketed value, inValue => by
      have written : value.snippet.Balances := Balances.snippet inValue
      simp [Expr.snippet, Snippet.Balances, written.owedAfter_eq]
  | .spread value, inValue => by
      have written : value.snippet.Balances := Balances.snippet inValue
      simp [Expr.snippet, Snippet.Balances, written.owedAfter_eq]
  | .keyed key value, ⟨inKey, inValue⟩ => by
      simp [Expr.snippet, Snippet.Balances, inKey.owedAfter_eq, inValue.snippet.owedAfter_eq]
  | .object entries, inEntries => by
      have written : (joined entries).Balances :=
        balances_joined (BalancesAll.snippets inEntries)
      rw [Expr.snippet]
      split <;> simp [Snippet.Balances, written.owedAfter_eq]
  | .list elements, inElements => by
      have written : (joined elements).Balances :=
        balances_joined (BalancesAll.snippets inElements)
      simp [Expr.snippet, Snippet.Balances, written.owedAfter_eq]
  | .arrow parameters body, ⟨inParameters, inBody⟩ => by
      have names := Text.balances_intercalate (by decide : Text.Balances ", ") inParameters
      simp [Expr.snippet, Snippet.Balances, -String.toList_intercalate, names.owedAfter_eq,
        inBody.snippet.owedAfter_eq]

theorem BalancesAll.snippets
    : ∀ {values : List Expr}, BalancesAll values → ∀ value ∈ values, value.snippet.Balances
  | [], _ => fun _ member => absurd member List.not_mem_nil
  | _ :: _, ⟨first, others⟩ =>
      List.forall_mem_cons.mpr ⟨first.snippet, BalancesAll.snippets others⟩
end

end Expr

-----------------------------------------------------------------------------------------
-- Lines
-----------------------------------------------------------------------------------------

/-- The brackets in a step of the layout: those in its text or in its comment. -/
def Line.brackets {α : Type} (within : α → List Char) : Line α → List Char
  | .text content => within content
  | .doc comment => Text.brackets comment.toList
  | .remark comment => Text.brackets comment.toList
  | .blank => []
  | .indent => []
  | .dedent => []

namespace Block

/-- The brackets in the lines of a block and in its comments. -/
def brackets (block : Block) : List Char :=
  block.flatMap (Line.brackets Snippet.brackets)

/-- Whether the lines of a block are balanced, all taken together. -/
def Balances (block : Block) : Prop :=
  IsBalanced block.brackets

@[simp] theorem brackets_nil
    : brackets [] = [] :=
  rfl

@[simp] theorem brackets_append {before after : Block}
    : brackets (before ++ after) = before.brackets ++ after.brackets :=
  List.flatMap_append

@[simp] theorem brackets_layout {rest : Block}
    : brackets (.indent :: rest) = rest.brackets ∧ brackets (.dedent :: rest) = rest.brackets
      ∧ brackets (.blank :: rest) = rest.brackets :=
  ⟨rfl, rfl, rfl⟩

@[simp] theorem brackets_line {text : Snippet}
    : (line text).brackets = text.brackets := by
  simp [line, brackets, Line.brackets]

@[simp] theorem brackets_statement {text : Snippet}
    : (statement text).brackets = text.brackets := by
  simp [statement, brackets, Line.brackets]

@[simp] theorem brackets_opening {header : Snippet}
    : (opening header).brackets = header.brackets ++ ['\x7b'] := by
  simp [opening, brackets, Line.brackets]

@[simp] theorem brackets_between {header : Snippet}
    : (between header).brackets = '\x7d' :: header.brackets ++ ['\x7b'] := by
  simp [between, brackets, Line.brackets]

@[simp] theorem brackets_closingWith {tail : Snippet}
    : (closingWith tail).brackets = '\x7d' :: tail.brackets := by
  simp [closingWith, brackets, Line.brackets]

@[simp] theorem brackets_closing
    : closing.brackets = ['\x7d'] := by
  simp [closing]

variable {block : Block}

theorem Balances.owedAfter_eq (balanced : block.Balances) (owed : List Char)
    : owedAfter owed block.brackets = some owed :=
  IsBalanced.owedAfter_eq balanced owed

theorem balances_doc {comment : Option String}
    (balanced : ∀ text ∈ comment, Text.Balances text)
    : (doc comment).Balances := by
  cases comment with
  | none => exact Text.isBalanced_nil
  | some text =>
      have known := balanced text rfl
      simp [doc, Balances, brackets, Line.brackets, known.owedAfter_eq]

theorem balances_append {before after : Block} (first : before.Balances)
    (second : after.Balances)
    : (before ++ after).Balances := by
  rw [Balances, brackets_append]
  exact IsBalanced.append first second

theorem balances_flatMap {α : Type} {values : List α} {code : α → Block}
    (each : ∀ value ∈ values, (code value).Balances)
    : Balances (values.flatMap code) := by
  rw [Balances, brackets, List.flatMap_assoc]
  exact Text.isBalanced_flatMap each

theorem balances_intercalate {blocks : List Block} (each : ∀ block ∈ blocks, block.Balances)
    : Balances ([Line.blank].intercalate blocks) :=
  Text.isBalanced_intercalate Text.isBalanced_nil each

/-- Lines that are balanced may be written in one. -/
theorem balances_inlined (each : ∀ text, .text text ∈ block → text.Balances)
    : block.inlined.Balances := by
  refine Snippet.balances_intercalate (by decide) (fun snippet member => ?_)
  obtain ⟨line, inBlock, found⟩ := List.mem_filterMap.mp member
  split at found
  · cases found
    exact each _ inBlock
  · cases found

end Block

-----------------------------------------------------------------------------------------
-- Statements
-----------------------------------------------------------------------------------------

/-- Whether the names of a parameter are balanced. -/
def Binding.Balances : Binding → Prop
  | .single name => Text.Balances name
  | .pair first second => Text.Balances first ∧ Text.Balances second

theorem Binding.balances_text {parameter : Binding} (balanced : parameter.Balances)
    : Text.Balances parameter.text := by
  cases parameter with
  | single name => exact balanced
  | pair first second =>
      rw [Text.Balances, ← Text.isBalanced_brackets]
      simp [Binding.text, balanced.1.owedAfter_eq, balanced.2.owedAfter_eq]

theorem Binding.balances_header {parameters : List Binding}
    (balanced : ∀ parameter ∈ parameters, parameter.Balances)
    : (Binding.header parameters).Balances := by
  have names
      : Text.Balances (", ".intercalate (parameters.map Binding.text)) :=
    Text.balances_intercalate (by decide)
      (List.forall_mem_map.mpr (fun parameter member => balances_text (balanced parameter member)))
  simp [Binding.header, Snippet.Balances, -String.toList_intercalate, names.owedAfter_eq]

/-- Whether the texts in a label are balanced. -/
def CaseLabel.Balances : CaseLabel → Prop
  | .case value => value.Balances
  | .default => True

mutual
/-- Whether the texts in a statement are balanced. -/
def Stmt.Balances : Stmt → Prop
  | .expression value => value.Balances
  | .const name type value =>
      Text.Balances name ∧ (∀ declared ∈ type, declared.Balances) ∧ value.Balances
  | .mutable name value => Text.Balances name ∧ value.Balances
  | .assign target value => target.Balances ∧ value.Balances
  | .increase target value => target.Balances ∧ value.Balances
  | .result value => value.Balances
  | .raise value => value.Balances
  | .leave => True
  | .branch condition body otherwise =>
      condition.Balances ∧ Stmt.BalancesAll body ∧ Otherwise.Balances otherwise
  | .loop condition body => condition.Balances ∧ Stmt.BalancesAll body
  | .each name values body => Text.Balances name ∧ values.Balances ∧ Stmt.BalancesAll body
  | .choose subject sections => subject.Balances ∧ Section.BalancesAll sections
  | .callback name callee arguments _ parameters body =>
      (∀ constant ∈ name, Text.Balances constant) ∧ callee.Balances
      ∧ Expr.BalancesAll arguments ∧ (∀ parameter ∈ parameters, parameter.Balances)
      ∧ Stmt.BalancesAll body
  | .build type parameters body argument =>
      type.Balances ∧ (∀ parameter ∈ parameters, parameter.Balances) ∧ Stmt.BalancesAll body
      ∧ argument.Balances

/-- Whether the texts in all statements of a list are balanced. -/
def Stmt.BalancesAll : List Stmt → Prop
  | [] => True
  | statement :: rest => Stmt.Balances statement ∧ Stmt.BalancesAll rest

/-- Whether the texts in what follows a branch are balanced. -/
def Otherwise.Balances : Otherwise → Prop
  | .nothing => True
  | .block body => Stmt.BalancesAll body
  | .branch condition body otherwise =>
      condition.Balances ∧ Stmt.BalancesAll body ∧ Otherwise.Balances otherwise

/-- Whether the texts in the sections of a switch are balanced. -/
def Section.BalancesAll : List Section → Prop
  | [] => True
  | .mk labels body :: rest =>
      (∀ label ∈ labels, label.Balances) ∧ Stmt.BalancesAll body ∧ Section.BalancesAll rest
end

theorem Stmt.balancesAll_iff {statements : List Stmt}
    : Stmt.BalancesAll statements ↔ ∀ statement ∈ statements, statement.Balances := by
  induction statements with
  | nil => simp [Stmt.BalancesAll]
  | cons statement rest ih => simp [Stmt.BalancesAll, ih]

theorem Section.balancesAll_iff {sections : List Section}
    : Section.BalancesAll sections
      ↔ ∀ entry ∈ sections,
          (∀ label ∈ entry.labels, label.Balances) ∧ Stmt.BalancesAll entry.body := by
  induction sections with
  | nil => simp [Section.BalancesAll]
  | cons entry rest ih =>
      obtain ⟨labels, body⟩ := entry
      simp [Section.BalancesAll, ih, Section.labels, Section.body, and_assoc]

theorem balances_condition {keyword : String} (plain : Text.Balances keyword) {condition : Expr}
    (balanced : condition.Balances)
    : (conditionSnippet keyword condition).Balances := by
  simp [conditionSnippet, Snippet.Balances, plain.owedAfter_eq, balanced.snippet.owedAfter_eq]

theorem balances_constSnippet {name : String} {type : Option TypeExpr}
    (inName : Text.Balances name) (inType : ∀ declared ∈ type, declared.Balances)
    : (constSnippet name type).Balances := by
  cases type with
  | none => simp [constSnippet, Snippet.Balances, inName.owedAfter_eq]
  | some type =>
      have written := (inType type rfl).snippet
      simp [constSnippet, Snippet.Balances, inName.owedAfter_eq, written.owedAfter_eq]

/-- The start of a call with a function as its last argument owes the end of the call. -/
theorem owedAfter_callbackSnippet {name : Option String} {callee : Expr} {arguments : List Expr}
    {isAsync : Bool} {parameters : List Binding}
    (inName : ∀ constant ∈ name, Text.Balances constant) (inCallee : callee.Balances)
    (inArguments : Expr.BalancesAll arguments)
    (inParameters : ∀ parameter ∈ parameters, parameter.Balances) (owed : List Char)
    : owedAfter owed (callbackSnippet name callee arguments isAsync parameters).brackets
      = some (')' :: owed) := by
  have given
      : Snippet.Balances
          (arguments.flatMap (fun argument => argument.snippet ++ [.plain ", "])) := by
    rw [Snippet.Balances, Snippet.brackets, List.flatMap_assoc]
    refine Text.isBalanced_flatMap (fun argument member => ?_)
    have written := inArguments.snippets argument member
    simpa [Snippet.Balances, Snippet.brackets, Piece.brackets] using written
  have word : Snippet.brackets (if isAsync then [.plain "async "] else []) = [] := by
    cases isAsync <;> rfl
  have header := Binding.balances_header inParameters
  cases name with
  | none =>
      simp [callbackSnippet, inCallee.snippet.owedAfter_eq, given.owedAfter_eq, word,
        header.owedAfter_eq]
  | some name =>
      have start : (constSnippet name none).Balances :=
        balances_constSnippet (inName name rfl) nofun
      simp [callbackSnippet, start.owedAfter_eq, inCallee.snippet.owedAfter_eq,
        given.owedAfter_eq, word, header.owedAfter_eq]

theorem balances_labels {labels : List CaseLabel} (balanced : ∀ label ∈ labels, label.Balances)
    : Block.Balances (labels.map (fun label => .text label.snippet)) := by
  rw [Block.Balances, Block.brackets, List.flatMap_map]
  refine Text.isBalanced_flatMap (fun label member => ?_)
  have known := balanced label member
  cases label with
  | default => rfl
  | case value =>
      have written : value.snippet.Balances := Expr.Balances.snippet (balanced _ member)
      simp [Line.brackets, CaseLabel.snippet, written.owedAfter_eq]

mutual
/-- A statement is written with balanced brackets if its texts are balanced. -/
theorem Stmt.Balances.code
    : ∀ {statement : Stmt}, statement.Balances → statement.code.Balances
  | .expression value, inValue => by
      have written : value.snippet.Balances := Expr.Balances.snippet inValue
      simp [Stmt.code, Block.Balances, written.owedAfter_eq]
  | .const _ _ _, ⟨inName, inType, inValue⟩ => by
      simp [Stmt.code, Block.Balances, (balances_constSnippet inName inType).owedAfter_eq,
        inValue.snippet.owedAfter_eq]
  | .mutable _ _, ⟨inName, inValue⟩ => by
      simp [Stmt.code, Block.Balances, inName.owedAfter_eq, inValue.snippet.owedAfter_eq]
  | .assign _ _, ⟨inTarget, inValue⟩ => by
      simp [Stmt.code, Block.Balances, inTarget.snippet.owedAfter_eq,
        inValue.snippet.owedAfter_eq]
  | .increase _ _, ⟨inTarget, inValue⟩ => by
      simp [Stmt.code, Block.Balances, inTarget.snippet.owedAfter_eq,
        inValue.snippet.owedAfter_eq]
  | .result value, inValue => by
      have written : value.snippet.Balances := Expr.Balances.snippet inValue
      simp [Stmt.code, Block.Balances, written.owedAfter_eq]
  | .raise value, inValue => by
      have written : value.snippet.Balances := Expr.Balances.snippet inValue
      simp [Stmt.code, Block.Balances, written.owedAfter_eq]
  | .leave, _ => by simp [Stmt.code, Block.Balances]
  | .branch _ _ _, ⟨inCondition, inBody, inOtherwise⟩ => by
      have header := balances_condition (by decide : Text.Balances "if") inCondition
      simp [Stmt.code, Block.Balances, header.owedAfter_eq, inBody.codeAll.owedAfter_eq,
        inOtherwise.closes]
  | .loop _ _, ⟨inCondition, inBody⟩ => by
      have header := balances_condition (by decide : Text.Balances "while") inCondition
      simp [Stmt.code, Block.Balances, header.owedAfter_eq, inBody.codeAll.owedAfter_eq]
  | .each _ _ _, ⟨inName, inValues, inBody⟩ => by
      simp [Stmt.code, Block.Balances, inName.owedAfter_eq, inValues.snippet.owedAfter_eq,
        inBody.codeAll.owedAfter_eq]
  | .choose _ _, ⟨inSubject, inSections⟩ => by
      have header := balances_condition (by decide : Text.Balances "switch") inSubject
      simp [Stmt.code, Block.Balances, header.owedAfter_eq, inSections.codeAll.owedAfter_eq]
  | .callback _ _ _ _ _ _, ⟨inName, inCallee, inArguments, inParameters, inBody⟩ => by
      simp [Stmt.code, Block.Balances, inBody.codeAll.owedAfter_eq,
        owedAfter_callbackSnippet inName inCallee inArguments inParameters]
  | .build _ _ _ _, ⟨inType, inParameters, inBody, inArgument⟩ => by
      simp [Stmt.code, Block.Balances, inType.snippet.owedAfter_eq,
        (Binding.balances_header inParameters).owedAfter_eq, inBody.codeAll.owedAfter_eq,
        inArgument.snippet.owedAfter_eq]

theorem Stmt.BalancesAll.codeAll
    : ∀ {statements : List Stmt}, Stmt.BalancesAll statements → (Stmt.codeAll statements).Balances
  | [], _ => Text.isBalanced_nil
  | _ :: _, ⟨first, others⟩ => Block.balances_append first.code others.codeAll

/-- What follows the body of a branch closes it. -/
theorem Otherwise.Balances.closes
    : ∀ {otherwise : Otherwise},
        otherwise.Balances
        → ∀ owed, owedAfter ('\x7d' :: owed) otherwise.code.brackets = some owed
  | .nothing, _, owed => by simp [Otherwise.code]
  | .block body, inBody, owed => by
      have written : (Stmt.codeAll body).Balances := Stmt.BalancesAll.codeAll inBody
      simp [Otherwise.code, written.owedAfter_eq]
  | .branch _ _ _, ⟨inCondition, inBody, inOtherwise⟩, owed => by
      have header := balances_condition (by decide : Text.Balances "else if") inCondition
      simp [Otherwise.code, header.owedAfter_eq, inBody.codeAll.owedAfter_eq, inOtherwise.closes]

theorem Section.BalancesAll.codeAll
    : ∀ {sections : List Section},
        Section.BalancesAll sections → (Section.codeAll sections).Balances
  | [], _ => Text.isBalanced_nil
  | .mk _ _ :: _, ⟨inLabels, inBody, inRest⟩ => by
      simp [Section.codeAll, Block.Balances, (balances_labels inLabels).owedAfter_eq,
        inBody.codeAll.owedAfter_eq, inRest.codeAll.owedAfter_eq]
end

end ProtobufTypeScript.Target
