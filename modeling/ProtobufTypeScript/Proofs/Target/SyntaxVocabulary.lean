import ProtobufTypeScript.Proofs.Target.Vocabulary

/-!
The vocabulary of written syntax: a type, an expression, a statement or a declaration is within a
vocabulary exactly if its parts are, since all that is written around them is plain ASCII.
-/

namespace ProtobufTypeScript.Target.Vocabulary

variable {words : Vocabulary}

attribute [local simp] TypeExpr.snippet Expr.snippet Stmt.code Otherwise.code

-----------------------------------------------------------------------------------------
-- Lines
-----------------------------------------------------------------------------------------

@[simp] theorem hasLine_text {snippet : Snippet}
    : words.HasLine (.text snippet) ↔ words.Writes snippet :=
  Iff.rfl

@[simp] theorem covers_line {snippet : Snippet}
    : words.Covers (Block.line snippet) ↔ words.Writes snippet := by
  simp [Block.line]

@[simp] theorem covers_statement {snippet : Snippet}
    : words.Covers (Block.statement snippet) ↔ words.Writes snippet := by
  simp (disch := decide) [Block.statement, spells_of_isAscii]

@[simp] theorem covers_opening {header : Snippet}
    : words.Covers (Block.opening header) ↔ words.Writes header := by
  simp (disch := decide) [Block.opening, HasLine, spells_of_isAscii]

@[simp] theorem covers_between {header : Snippet}
    : words.Covers (Block.between header) ↔ words.Writes header := by
  simp (disch := decide) [Block.between, HasLine, spells_of_isAscii]

@[simp] theorem covers_closingWith {tail : Snippet}
    : words.Covers (Block.closingWith tail) ↔ words.Writes tail := by
  simp (disch := decide) [Block.closingWith, HasLine, spells_of_isAscii]

@[simp] theorem covers_closing
    : words.Covers Block.closing := by
  simp [Block.closing]

@[simp] theorem covers_doc {comment : Option String}
    : words.Covers (Block.doc comment) ↔ ∀ text ∈ comment, words.Spells text := by
  cases comment <;> simp [Block.doc, HasLine]

theorem writes_inlined {block : Block} (covers : words.Covers block)
    : words.Writes block.inlined := by
  rw [Block.inlined, writes_intercalate (by decide)]
  intro snippet member
  obtain ⟨line, inBlock, found⟩ := List.mem_filterMap.mp member
  cases line with
  | text content =>
      rw [← Option.some.inj found]
      exact covers _ inBlock
  | doc comment => cases found
  | remark comment => cases found
  | blank => cases found
  | indent => cases found
  | dedent => cases found

-----------------------------------------------------------------------------------------
-- Types
-----------------------------------------------------------------------------------------

theorem writes_joined_types {separator : String} (ascii : isAscii separator = true)
    {types : List TypeExpr}
    : words.Writes (TypeExpr.joined separator types)
      ↔ ∀ type ∈ types, words.Writes type.snippet := by
  rw [TypeExpr.joined_eq_intercalate, writes_intercalate ascii, List.forall_mem_map]

@[simp] theorem writes_simpleType {name : String}
    : words.Writes (TypeExpr.simple name).snippet ↔ words.Spells name := by
  simp

@[simp] theorem writes_symbolType {symbol : Symbol}
    : words.Writes (TypeExpr.symbol symbol).snippet ↔ words.symbol symbol := by
  simp

@[simp] theorem writes_unionType {members : List TypeExpr}
    : words.Writes (TypeExpr.union members).snippet
      ↔ ∀ type ∈ members, words.Writes type.snippet := by
  simp (disch := decide) [writes_joined_types]

@[simp] theorem writes_arrayType {element : TypeExpr}
    : words.Writes (TypeExpr.array element).snippet ↔ words.Writes element.snippet := by
  rw [TypeExpr.snippet]
  split <;> simp (disch := decide) [spells_of_isAscii]

@[simp] theorem writes_indexType {key value : TypeExpr}
    : words.Writes (TypeExpr.index key value).snippet
      ↔ words.Writes key.snippet ∧ words.Writes value.snippet := by
  simp (disch := decide) [spells_of_isAscii]

@[simp] theorem writes_genericType {base : TypeExpr} {arguments : List TypeExpr}
    : words.Writes (TypeExpr.generic base arguments).snippet
      ↔ words.Writes base.snippet ∧ ∀ type ∈ arguments, words.Writes type.snippet := by
  simp (disch := decide) [spells_of_isAscii, writes_joined_types]

@[simp] theorem writes_languageTypes
    : words.Writes TypeExpr.number.snippet ∧ words.Writes TypeExpr.string.snippet
      ∧ words.Writes TypeExpr.boolean.snippet ∧ words.Writes TypeExpr.undefined.snippet
      ∧ words.Writes TypeExpr.any.snippet ∧ words.Writes TypeExpr.bytes.snippet
      ∧ words.Writes TypeExpr.date.snippet := by
  refine ⟨?_, ?_, ?_, ?_, ?_, ?_, ?_⟩ <;>
    exact writes_simpleType.mpr (spells_of_isAscii (by decide))

@[simp] theorem writes_optionalType {type : TypeExpr}
    : words.Writes type.optional.snippet ↔ words.Writes type.snippet := by
  rw [TypeExpr.optional, writes_unionType]
  simp [-TypeExpr.snippet]

@[simp] theorem writes_promiseType {type : TypeExpr}
    : words.Writes (TypeExpr.promise type).snippet ↔ words.Writes type.snippet := by
  rw [TypeExpr.promise, writes_genericType, writes_simpleType]
  simp (disch := decide) [-TypeExpr.snippet, spells_of_isAscii]

-----------------------------------------------------------------------------------------
-- Expressions
-----------------------------------------------------------------------------------------

@[simp] theorem writes_joined {values : List Expr}
    : words.Writes (Expr.joined values) ↔ ∀ value ∈ values, words.Writes value.snippet := by
  rw [Expr.joined_eq_intercalate, writes_intercalate (by decide), List.forall_mem_map]

@[simp] theorem spells_token (operator : BinaryOp)
    : words.Spells operator.token := by
  cases operator <;> exact spells_of_isAscii (by decide)

@[simp] theorem writes_name {text : String}
    : words.Writes (Expr.name text).snippet ↔ words.Spells text := by
  simp

@[simp] theorem writes_symbol {symbol : Symbol}
    : words.Writes (Expr.symbol symbol).snippet ↔ words.symbol symbol := by
  simp

@[simp] theorem writes_number {value : Int}
    : words.Writes (Expr.number value).snippet := by
  simp

@[simp] theorem writes_quoted {text : String}
    : words.Writes (Expr.quoted text).snippet ↔ words.Spells text := by
  simp (disch := decide) [spells_of_isAscii]

@[simp] theorem writes_member {value : Expr} {property : String}
    : words.Writes (Expr.member value property).snippet
      ↔ words.Writes value.snippet ∧ words.Spells property := by
  simp (disch := decide) [spells_of_isAscii]

@[simp] theorem writes_element {value key : Expr}
    : words.Writes (Expr.element value key).snippet
      ↔ words.Writes value.snippet ∧ words.Writes key.snippet := by
  simp (disch := decide) [spells_of_isAscii]

@[simp] theorem writes_call {callee : Expr} {arguments : List Expr}
    : words.Writes (Expr.call callee arguments).snippet
      ↔ words.Writes callee.snippet ∧ ∀ value ∈ arguments, words.Writes value.snippet := by
  simp (disch := decide) [spells_of_isAscii]

@[simp] theorem writes_construct {callee : Expr} {arguments : List Expr}
    : words.Writes (Expr.construct callee arguments).snippet
      ↔ words.Writes callee.snippet ∧ ∀ value ∈ arguments, words.Writes value.snippet := by
  simp (disch := decide) [spells_of_isAscii]

@[simp] theorem writes_present {value : Expr}
    : words.Writes (Expr.present value).snippet ↔ words.Writes value.snippet := by
  simp (disch := decide) [spells_of_isAscii]

@[simp] theorem writes_not {value : Expr}
    : words.Writes (Expr.not value).snippet ↔ words.Writes value.snippet := by
  simp (disch := decide) [spells_of_isAscii]

@[simp] theorem writes_typeOf {value : Expr}
    : words.Writes (Expr.typeOf value).snippet ↔ words.Writes value.snippet := by
  simp (disch := decide) [spells_of_isAscii]

@[simp] theorem writes_await {value : Expr}
    : words.Writes (Expr.await value).snippet ↔ words.Writes value.snippet := by
  simp (disch := decide) [spells_of_isAscii]

@[simp] theorem writes_bracketed {value : Expr}
    : words.Writes (Expr.bracketed value).snippet ↔ words.Writes value.snippet := by
  simp (disch := decide) [spells_of_isAscii]

@[simp] theorem writes_spread {value : Expr}
    : words.Writes (Expr.spread value).snippet ↔ words.Writes value.snippet := by
  simp (disch := decide) [spells_of_isAscii]

@[simp] theorem writes_binary {operator : BinaryOp} {left right : Expr}
    : words.Writes (Expr.binary operator left right).snippet
      ↔ words.Writes left.snippet ∧ words.Writes right.snippet := by
  simp (disch := decide) [spells_of_isAscii]

@[simp] theorem writes_conditional {condition yes no : Expr}
    : words.Writes (Expr.conditional condition yes no).snippet
      ↔ words.Writes condition.snippet ∧ words.Writes yes.snippet ∧ words.Writes no.snippet := by
  simp (disch := decide) [spells_of_isAscii]

@[simp] theorem writes_cast {value : Expr} {type : TypeExpr}
    : words.Writes (Expr.cast value type).snippet
      ↔ words.Writes value.snippet ∧ words.Writes type.snippet := by
  simp (disch := decide) [spells_of_isAscii]

@[simp] theorem writes_keyed {key : String} {value : Expr}
    : words.Writes (Expr.keyed key value).snippet
      ↔ words.Spells key ∧ words.Writes value.snippet := by
  simp (disch := decide) [spells_of_isAscii]

@[simp] theorem writes_object {entries : List Expr}
    : words.Writes (Expr.object entries).snippet
      ↔ ∀ value ∈ entries, words.Writes value.snippet := by
  cases entries <;> simp (disch := decide) [spells_of_isAscii]

@[simp] theorem writes_list {elements : List Expr}
    : words.Writes (Expr.list elements).snippet
      ↔ ∀ value ∈ elements, words.Writes value.snippet := by
  simp (disch := decide) [spells_of_isAscii]

@[simp] theorem writes_arrow {parameters : List String} {body : Expr}
    : words.Writes (Expr.arrow parameters body).snippet
      ↔ (∀ name ∈ parameters, words.Spells name) ∧ words.Writes body.snippet := by
  simp (disch := decide) [spells_of_isAscii, spells_intercalate]

@[simp] theorem writes_field {object property : String}
    : words.Writes (Expr.field object property).snippet
      ↔ words.Spells object ∧ words.Spells property := by
  rw [Expr.field, writes_member, writes_name]

@[simp] theorem writes_method {object : Expr} {name : String} {arguments : List Expr}
    : words.Writes (Expr.method object name arguments).snippet
      ↔ (words.Writes object.snippet ∧ words.Spells name)
        ∧ ∀ value ∈ arguments, words.Writes value.snippet := by
  rw [Expr.method, writes_call, writes_member]

@[simp] theorem writes_undefined
    : words.Writes Expr.undefined.snippet :=
  writes_name.mpr (spells_of_isAscii (by decide))

-----------------------------------------------------------------------------------------
-- Statements
-----------------------------------------------------------------------------------------

/-- Parameters are within a vocabulary if their names are. -/
def Binds (words : Vocabulary) : Binding → Prop
  | .single name => words.Spells name
  | .pair first second => words.Spells first ∧ words.Spells second

@[simp] theorem spells_binding {parameter : Binding}
    : words.Spells parameter.text ↔ words.Binds parameter := by
  cases parameter <;> simp (disch := decide) [Binding.text, Binds, spells_of_isAscii]

@[simp] theorem writes_bindings {parameters : List Binding}
    : words.Writes (Binding.header parameters)
      ↔ ∀ parameter ∈ parameters, words.Binds parameter := by
  simp (disch := decide) [Binding.header, spells_intercalate, spells_of_isAscii]

@[simp] theorem writes_caseLabel {value : Expr}
    : words.Writes (CaseLabel.case value).snippet ↔ words.Writes value.snippet := by
  simp (disch := decide) [CaseLabel.snippet, spells_of_isAscii]

@[simp] theorem writes_defaultLabel
    : words.Writes CaseLabel.default.snippet := by
  simp (disch := decide) [CaseLabel.snippet, spells_of_isAscii]

@[simp] theorem writes_condition {keyword : String} {condition : Expr}
    : words.Writes (conditionSnippet keyword condition)
      ↔ words.Spells keyword ∧ words.Writes condition.snippet := by
  simp (disch := decide) [conditionSnippet, spells_of_isAscii]

@[simp] theorem writes_constSnippet {name : String} {type : Option TypeExpr}
    : words.Writes (constSnippet name type)
      ↔ words.Spells name ∧ ∀ declared ∈ type, words.Writes declared.snippet := by
  cases type <;> simp (disch := decide) [constSnippet, spells_of_isAscii]

@[simp] theorem writes_callbackSnippet {name : Option String} {callee : Expr}
    {arguments : List Expr} {isAsync : Bool} {parameters : List Binding}
    : words.Writes (callbackSnippet name callee arguments isAsync parameters)
      ↔ (∀ constant ∈ name, words.Spells constant) ∧ words.Writes callee.snippet
        ∧ (∀ value ∈ arguments, words.Writes value.snippet)
        ∧ ∀ parameter ∈ parameters, words.Binds parameter := by
  cases name <;> cases isAsync <;>
    simp (disch := decide) [callbackSnippet, spells_of_isAscii]

@[simp] theorem covers_codeAll {statements : List Stmt}
    : words.Covers (Stmt.codeAll statements)
      ↔ ∀ statement ∈ statements, words.Covers statement.code := by
  induction statements with
  | nil => simp [Stmt.codeAll]
  | cons statement rest ih => simp [Stmt.codeAll, ih]

@[simp] theorem covers_sections {sections : List Section}
    : words.Covers (Section.codeAll sections)
      ↔ ∀ entry ∈ sections,
          (∀ label ∈ entry.labels, words.Writes label.snippet)
          ∧ ∀ statement ∈ entry.body, words.Covers statement.code := by
  induction sections with
  | nil => simp [Section.codeAll]
  | cons entry rest ih =>
      obtain ⟨labels, body⟩ := entry
      have lines
          : words.Covers (labels.map (fun label => .text label.snippet))
            ↔ ∀ label ∈ labels, words.Writes label.snippet :=
        List.forall_mem_map
      simp [Section.codeAll, ih, lines, Section.labels, Section.body, HasLine, and_assoc]

@[simp] theorem covers_expression {value : Expr}
    : words.Covers (Stmt.expression value).code ↔ words.Writes value.snippet := by
  simp

@[simp] theorem covers_const {name : String} {type : Option TypeExpr} {value : Expr}
    : words.Covers (Stmt.const name type value).code
      ↔ words.Spells name ∧ (∀ declared ∈ type, words.Writes declared.snippet)
        ∧ words.Writes value.snippet := by
  simp [and_assoc]

@[simp] theorem covers_mutable {name : String} {value : Expr}
    : words.Covers (Stmt.mutable name value).code
      ↔ words.Spells name ∧ words.Writes value.snippet := by
  simp (disch := decide) [spells_of_isAscii]

@[simp] theorem covers_assign {target value : Expr}
    : words.Covers (Stmt.assign target value).code
      ↔ words.Writes target.snippet ∧ words.Writes value.snippet := by
  simp (disch := decide) [spells_of_isAscii]

@[simp] theorem covers_increase {target value : Expr}
    : words.Covers (Stmt.increase target value).code
      ↔ words.Writes target.snippet ∧ words.Writes value.snippet := by
  simp (disch := decide) [spells_of_isAscii]

@[simp] theorem covers_result {value : Expr}
    : words.Covers (Stmt.result value).code ↔ words.Writes value.snippet := by
  simp (disch := decide) [spells_of_isAscii]

@[simp] theorem covers_raise {value : Expr}
    : words.Covers (Stmt.raise value).code ↔ words.Writes value.snippet := by
  simp (disch := decide) [spells_of_isAscii]

@[simp] theorem covers_leave
    : words.Covers Stmt.leave.code := by
  simp (disch := decide) [spells_of_isAscii]

@[simp] theorem covers_branch {condition : Expr} {body : List Stmt} {otherwise : Otherwise}
    : words.Covers (Stmt.branch condition body otherwise).code
      ↔ words.Writes condition.snippet ∧ (∀ statement ∈ body, words.Covers statement.code)
        ∧ words.Covers otherwise.code := by
  simp (disch := decide) [spells_of_isAscii]

@[simp] theorem covers_nothing
    : words.Covers Otherwise.nothing.code := by
  simp

@[simp] theorem covers_otherwiseBlock {body : List Stmt}
    : words.Covers (Otherwise.block body).code
      ↔ ∀ statement ∈ body, words.Covers statement.code := by
  simp (disch := decide) [spells_of_isAscii]

@[simp] theorem covers_otherwiseBranch {condition : Expr} {body : List Stmt} {otherwise : Otherwise}
    : words.Covers (Otherwise.branch condition body otherwise).code
      ↔ words.Writes condition.snippet ∧ (∀ statement ∈ body, words.Covers statement.code)
        ∧ words.Covers otherwise.code := by
  simp (disch := decide) [spells_of_isAscii]

@[simp] theorem covers_loop {condition : Expr} {body : List Stmt}
    : words.Covers (Stmt.loop condition body).code
      ↔ words.Writes condition.snippet ∧ ∀ statement ∈ body, words.Covers statement.code := by
  simp (disch := decide) [spells_of_isAscii]

@[simp] theorem covers_each {name : String} {values : Expr} {body : List Stmt}
    : words.Covers (Stmt.each name values body).code
      ↔ words.Spells name ∧ words.Writes values.snippet
        ∧ ∀ statement ∈ body, words.Covers statement.code := by
  simp (disch := decide) [spells_of_isAscii, and_assoc]

@[simp] theorem covers_choose {subject : Expr} {sections : List Section}
    : words.Covers (Stmt.choose subject sections).code
      ↔ words.Writes subject.snippet ∧ words.Covers (Section.codeAll sections) := by
  simp (disch := decide) [spells_of_isAscii]

@[simp] theorem covers_callback {name : Option String} {callee : Expr} {arguments : List Expr}
    {isAsync : Bool} {parameters : List Binding} {body : List Stmt}
    : words.Covers (Stmt.callback name callee arguments isAsync parameters body).code
      ↔ (∀ constant ∈ name, words.Spells constant) ∧ words.Writes callee.snippet
        ∧ (∀ value ∈ arguments, words.Writes value.snippet)
        ∧ (∀ parameter ∈ parameters, words.Binds parameter)
        ∧ ∀ statement ∈ body, words.Covers statement.code := by
  simp (disch := decide) [spells_of_isAscii, and_assoc]

@[simp] theorem covers_build {type : TypeExpr} {parameters : List Binding} {body : List Stmt}
    {argument : Expr}
    : words.Covers (Stmt.build type parameters body argument).code
      ↔ words.Writes type.snippet ∧ (∀ parameter ∈ parameters, words.Binds parameter)
        ∧ (∀ statement ∈ body, words.Covers statement.code) ∧ words.Writes argument.snippet := by
  simp (disch := decide) [spells_of_isAscii, HasLine]

@[simp] theorem covers_when {condition : Expr} {body : List Stmt}
    : words.Covers (Stmt.when condition body).code
      ↔ words.Writes condition.snippet ∧ ∀ statement ∈ body, words.Covers statement.code := by
  rw [Stmt.when, covers_branch]
  simp [-Stmt.code]

@[simp] theorem covers_either {condition : Expr} {yes no : List Stmt}
    : words.Covers (Stmt.either condition yes no).code
      ↔ words.Writes condition.snippet ∧ (∀ statement ∈ yes, words.Covers statement.code)
        ∧ ∀ statement ∈ no, words.Covers statement.code := by
  rw [Stmt.either, covers_branch, covers_otherwiseBlock]

end ProtobufTypeScript.Target.Vocabulary
