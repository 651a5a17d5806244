import ProtobufTypeScript.Proofs.Target.Contents
import ProtobufTypeScript.Proofs.Target.Symbol
import ProtobufTypeScript.Target.Declaration

/-!
What is recorded against what is written. The symbols that stand in the lines of a block are
computed from what the block is put together from, construct by construct; a declaration records
just these symbols if the code that it is made with does.
-/

namespace ProtobufTypeScript.Target

-----------------------------------------------------------------------------------------
-- Snippets and blocks
-----------------------------------------------------------------------------------------

namespace Snippet

@[simp] theorem symbols_nil
    : Snippet.symbols [] = [] :=
  rfl

@[simp] theorem symbols_plain (text : String) (rest : Snippet)
    : Snippet.symbols (.plain text :: rest) = Snippet.symbols rest :=
  rfl

@[simp] theorem symbols_symbol (symbol : Symbol) (rest : Snippet)
    : Snippet.symbols (.symbol symbol :: rest) = symbol :: Snippet.symbols rest :=
  rfl

@[simp] theorem symbols_append (left right : Snippet)
    : Snippet.symbols (left ++ right) = Snippet.symbols left ++ Snippet.symbols right :=
  List.filterMap_append

/-- Text between snippets adds no symbol to theirs, by induction on the list of snippets.
-/
@[simp] theorem symbols_intercalate (separator : String) (snippets : List Snippet)
    : Snippet.symbols ([Piece.plain separator].intercalate snippets)
      = snippets.flatMap Snippet.symbols := by
  induction snippets with
  | nil => rfl
  | cons first rest ih =>
      cases rest with
      | nil => simp
      | cons second others =>
          rw [List.intercalate_cons_cons, symbols_append, symbols_append, ih]
          simp

end Snippet

namespace Block

@[simp] theorem symbols_nil
    : Block.symbols [] = [] :=
  rfl

@[simp] theorem symbols_append (left right : Block)
    : Block.symbols (left ++ right) = Block.symbols left ++ Block.symbols right :=
  List.flatMap_append

@[simp] theorem symbols_flatMap {α : Type} (items : List α) (code : α → Block)
    : Block.symbols (items.flatMap code) = items.flatMap (fun item => (code item).symbols) :=
  List.flatMap_assoc

@[simp] theorem symbols_text (text : Snippet) (rest : Block)
    : Block.symbols (.text text :: rest) = Snippet.symbols text ++ Block.symbols rest :=
  rfl

/-- Steps of the layout besides text lines hold no symbol. -/
@[simp] theorem symbols_layout (rest : Block)
    : Block.symbols (.blank :: rest) = Block.symbols rest
      ∧ Block.symbols (.indent :: rest) = Block.symbols rest
      ∧ Block.symbols (.dedent :: rest) = Block.symbols rest :=
  ⟨rfl, rfl, rfl⟩

@[simp] theorem symbols_doc (comment : Option String)
    : Block.symbols (Block.doc comment) = [] := by
  cases comment <;> rfl

@[simp] theorem symbols_line (text : Snippet)
    : Block.symbols (Block.line text) = Snippet.symbols text :=
  List.append_nil _

@[simp] theorem symbols_map_text {α : Type} (items : List α) (text : α → Snippet)
    : Block.symbols (items.map (fun item => Line.text (text item)))
      = items.flatMap (fun item => Snippet.symbols (text item)) :=
  List.flatMap_map ..

@[simp] theorem symbols_statement (text : Snippet)
    : Block.symbols (Block.statement text) = Snippet.symbols text := by
  simp [Block.statement, Block.symbols]

@[simp] theorem symbols_opening (header : Snippet)
    : Block.symbols (Block.opening header) = Snippet.symbols header := by
  simp [Block.opening, Block.symbols]

@[simp] theorem symbols_between (header : Snippet)
    : Block.symbols (Block.between header) = Snippet.symbols header := by
  simp [Block.between, Block.symbols]

@[simp] theorem symbols_closingWith (tail : Snippet)
    : Block.symbols (Block.closingWith tail) = Snippet.symbols tail := by
  simp [Block.closingWith, Block.symbols]

@[simp] theorem symbols_closing
    : Block.symbols Block.closing = [] :=
  rfl

/-- Blocks with an empty line between them hold the symbols of the blocks. -/
@[simp] theorem symbols_intercalate_blank (blocks : List Block)
    : Block.symbols ([Line.blank].intercalate blocks) = blocks.flatMap Block.symbols := by
  induction blocks with
  | nil => rfl
  | cons first rest ih =>
      cases rest with
      | nil => simp
      | cons second others =>
          rw [List.intercalate_cons_cons, symbols_append, symbols_append, ih]
          simp

/-- Inside a line a block has the symbols that it has on its own. -/
@[simp] theorem symbols_inlined (block : Block)
    : Snippet.symbols block.inlined = block.symbols := by
  rw [Block.inlined, Snippet.symbols_intercalate]
  induction block with
  | nil => rfl
  | cons line rest ih =>
      cases line with
      | text content => simp [← ih]
      | _ => exact ih

end Block

-----------------------------------------------------------------------------------------
-- Types
-----------------------------------------------------------------------------------------

mutual
/-- Writing a type records the symbols that it is written with, by recursion on types. -/
@[simp] theorem TypeExpr.mem_symbols {symbol : Symbol}
    : ∀ type : TypeExpr, symbol ∈ Snippet.symbols type.snippet ↔ symbol ∈ type.recorded
  | .simple name => Iff.rfl
  | .symbol referent => Iff.rfl
  | .union members => by
      rw [TypeExpr.snippet, TypeExpr.joined_eq_intercalate, Snippet.symbols_intercalate,
        List.flatMap_map]
      exact TypeExpr.mem_flatMap_symbols members
  | .array element => by
      have inElement : symbol ∈ Snippet.symbols element.snippet ↔ symbol ∈ element.recorded :=
        TypeExpr.mem_symbols element
      rw [TypeExpr.snippet, TypeExpr.recorded, ← inElement]
      split <;> simp
  | .index key value => by
      have inKey : symbol ∈ Snippet.symbols key.snippet ↔ symbol ∈ key.recorded :=
        TypeExpr.mem_symbols key
      have inValue : symbol ∈ Snippet.symbols value.snippet ↔ symbol ∈ value.recorded :=
        TypeExpr.mem_symbols value
      simp [TypeExpr.snippet, TypeExpr.recorded, inKey, inValue]
  | .generic base arguments => by
      have inBase : symbol ∈ Snippet.symbols base.snippet ↔ symbol ∈ base.recorded :=
        TypeExpr.mem_symbols base
      have inArguments
          : symbol ∈ arguments.flatMap (fun type => Snippet.symbols type.snippet)
            ↔ symbol ∈ TypeExpr.recordedAll arguments :=
        TypeExpr.mem_flatMap_symbols arguments
      rw [TypeExpr.snippet, TypeExpr.joined_eq_intercalate, TypeExpr.recorded, List.mem_append,
        ← inBase, ← inArguments]
      simp [List.flatMap_map, or_comm]

/-- Writing several types records the symbols of all of them. -/
theorem TypeExpr.mem_flatMap_symbols {symbol : Symbol}
    : ∀ types : List TypeExpr,
        symbol ∈ types.flatMap (fun type => Snippet.symbols type.snippet)
        ↔ symbol ∈ TypeExpr.recordedAll types
  | [] => Iff.rfl
  | type :: rest => by
      rw [List.flatMap_cons, List.mem_append, TypeExpr.mem_symbols type,
        TypeExpr.mem_flatMap_symbols rest, TypeExpr.recordedAll, List.mem_append]
end

@[simp] theorem TypeExpr.mem_symbols_joined {separator : String} {types : List TypeExpr}
    {symbol : Symbol}
    : symbol ∈ Snippet.symbols (TypeExpr.joined separator types)
      ↔ ∃ type ∈ types, symbol ∈ type.recorded := by
  simp [TypeExpr.joined_eq_intercalate, List.flatMap_map]

-----------------------------------------------------------------------------------------
-- Expressions
-----------------------------------------------------------------------------------------

/-- The symbols that stand in an expression. -/
def Expr.symbols (value : Expr) : List Symbol :=
  Snippet.symbols value.snippet

namespace Expr

variable {name property : String} {referent symbol : Symbol}
  {object key value callee condition yes no left right : Expr} {values : List Expr}

attribute [local simp] snippet

@[simp] theorem symbols_leaf
    : (∀ text, (Expr.name text).symbols = []) ∧ (∀ value, (Expr.number value).symbols = [])
      ∧ (∀ value, (Expr.grouped value).symbols = []) ∧ (∀ text, (Expr.quoted text).symbols = [])
      ∧ Expr.undefined.symbols = [] :=
  ⟨fun _ => rfl, fun _ => rfl, fun _ => rfl, fun _ => rfl, rfl⟩

@[simp] theorem symbols_symbol
    : (Expr.symbol referent).symbols = [referent] :=
  rfl

@[simp] theorem symbols_joined
    : Snippet.symbols (Expr.joined values) = values.flatMap Expr.symbols := by
  rw [Expr.joined_eq_intercalate, Snippet.symbols_intercalate, List.flatMap_map]
  rfl

@[simp] theorem symbols_member
    : (Expr.member object property).symbols = object.symbols := by
  simp [symbols]

@[simp] theorem symbols_field
    : (Expr.field name property).symbols = [] :=
  rfl

@[simp] theorem symbols_element
    : (Expr.element object key).symbols = object.symbols ++ key.symbols := by
  simp [symbols]

@[simp] theorem symbols_call
    : (Expr.call callee values).symbols = callee.symbols ++ values.flatMap Expr.symbols := by
  simp [symbols]

@[simp] theorem symbols_method
    : (Expr.method object name values).symbols
      = object.symbols ++ values.flatMap Expr.symbols := by
  simp [method]

@[simp] theorem symbols_construct
    : (Expr.construct callee values).symbols
      = callee.symbols ++ values.flatMap Expr.symbols := by
  simp [symbols]

/-- A value with a mark before or behind it has the symbols of the value. -/
@[simp] theorem symbols_marked
    : (Expr.present value).symbols = value.symbols ∧ (Expr.not value).symbols = value.symbols
      ∧ (Expr.typeOf value).symbols = value.symbols ∧ (Expr.await value).symbols = value.symbols
      ∧ (Expr.bracketed value).symbols = value.symbols
      ∧ (Expr.spread value).symbols = value.symbols
      ∧ ∀ key, (Expr.keyed key value).symbols = value.symbols := by
  simp [symbols]

@[simp] theorem symbols_binary {operator : BinaryOp}
    : (Expr.binary operator left right).symbols = left.symbols ++ right.symbols := by
  simp [symbols]

@[simp] theorem symbols_conditional
    : (Expr.conditional condition yes no).symbols
      = condition.symbols ++ yes.symbols ++ no.symbols := by
  simp [symbols]

@[simp] theorem symbols_cast {type : TypeExpr}
    : (Expr.cast value type).symbols = value.symbols ++ Snippet.symbols type.snippet := by
  simp [symbols]

@[simp] theorem symbols_object
    : (Expr.object values).symbols = values.flatMap Expr.symbols := by
  cases values with
  | nil => rfl
  | cons first rest =>
      rw [symbols, snippet, if_neg (by simp)]
      simp

@[simp] theorem symbols_list
    : (Expr.list values).symbols = values.flatMap Expr.symbols := by
  simp [symbols]

@[simp] theorem symbols_arrow {parameters : List String}
    : (Expr.arrow parameters value).symbols = value.symbols := by
  simp [symbols]

/-- In code, the symbols of an expression are those that stand in its text. -/
@[simp] theorem symbols_snippet
    : Snippet.symbols value.snippet = value.symbols :=
  rfl

end Expr

-----------------------------------------------------------------------------------------
-- Statements
-----------------------------------------------------------------------------------------

/-- The symbols that stand in the code of a statement. -/
def Stmt.symbols (statement : Stmt) : List Symbol :=
  statement.code.symbols

/-- The symbols that stand in the code after the body of a branch. -/
def Otherwise.symbols (otherwise : Otherwise) : List Symbol :=
  otherwise.code.symbols

/-- The symbols that stand in a label. -/
def CaseLabel.symbols (label : CaseLabel) : List Symbol :=
  Snippet.symbols label.snippet

/-- The symbols that stand in a section of a switch. -/
def Section.symbols (code : Section) : List Symbol :=
  Block.symbols (Section.codeAll [code])

@[simp] theorem CaseLabel.symbols_label
    : (∀ value, (CaseLabel.case value).symbols = value.symbols)
      ∧ CaseLabel.default.symbols = [] := by
  simp [CaseLabel.symbols, CaseLabel.snippet]

@[simp] theorem symbols_conditionSnippet {keyword : String} {condition : Expr}
    : Snippet.symbols (conditionSnippet keyword condition) = condition.symbols := by
  simp [conditionSnippet]

@[simp] theorem symbols_bindingHeader {parameters : List Binding}
    : Snippet.symbols (Binding.header parameters) = [] :=
  rfl

@[simp] theorem symbols_callbackSnippet {name : Option String} {callee : Expr}
    {arguments : List Expr} {isAsync : Bool} {parameters : List Binding}
    : Snippet.symbols (callbackSnippet name callee arguments isAsync parameters)
      = callee.symbols ++ arguments.flatMap Expr.symbols := by
  have written
      : Snippet.symbols (arguments.flatMap (fun argument => argument.snippet ++ [.plain ", "]))
        = arguments.flatMap Expr.symbols := by
    induction arguments with
    | nil => rfl
    | cons argument rest ih => simp [ih]
  cases name <;> cases isAsync <;> simp [callbackSnippet, constSnippet, written]

namespace Stmt

variable {name : String} {value target condition callee : Expr} {body : List Stmt}

attribute [local simp] code Otherwise.code

@[simp] theorem symbols_codeAll (statements : List Stmt)
    : Block.symbols (Stmt.codeAll statements) = statements.flatMap Stmt.symbols := by
  induction statements with
  | nil => rfl
  | cons statement rest ih =>
      rw [Stmt.codeAll, Block.symbols_append, ih]
      rfl

@[simp] theorem symbols_value
    : (Stmt.expression value).symbols = value.symbols
      ∧ (Stmt.result value).symbols = value.symbols ∧ (Stmt.raise value).symbols = value.symbols
      ∧ ∀ name, (Stmt.mutable name value).symbols = value.symbols := by
  simp [symbols]

@[simp] theorem symbols_leave
    : Stmt.leave.symbols = [] :=
  rfl

@[simp] theorem symbols_const
    : (Stmt.const name none value).symbols = value.symbols
      ∧ (Stmt.const name (some .any) value).symbols = value.symbols := by
  simp [symbols, constSnippet, TypeExpr.any, TypeExpr.snippet]

@[simp] theorem symbols_assign
    : (Stmt.assign target value).symbols = target.symbols ++ value.symbols
      ∧ (Stmt.increase target value).symbols = target.symbols ++ value.symbols := by
  simp [symbols]

@[simp] theorem symbols_branch {otherwise : Otherwise}
    : (Stmt.branch condition body otherwise).symbols
      = condition.symbols ++ body.flatMap Stmt.symbols ++ otherwise.symbols := by
  simp [symbols, Otherwise.symbols]

@[simp] theorem symbols_nothing
    : Otherwise.nothing.symbols = [] :=
  rfl

@[simp] theorem symbols_block
    : (Otherwise.block body).symbols = body.flatMap Stmt.symbols := by
  simp [Otherwise.symbols]

@[simp] theorem symbols_elseBranch {otherwise : Otherwise}
    : (Otherwise.branch condition body otherwise).symbols
      = condition.symbols ++ body.flatMap Stmt.symbols ++ otherwise.symbols := by
  simp [Otherwise.symbols]

@[simp] theorem symbols_when
    : (Stmt.when condition body).symbols = condition.symbols ++ body.flatMap Stmt.symbols := by
  simp [Stmt.when]

@[simp] theorem symbols_either {yes no : List Stmt}
    : (Stmt.either condition yes no).symbols
      = condition.symbols ++ yes.flatMap Stmt.symbols ++ no.flatMap Stmt.symbols := by
  simp [Stmt.either]

@[simp] theorem symbols_loop
    : (Stmt.loop condition body).symbols = condition.symbols ++ body.flatMap Stmt.symbols
      ∧ ∀ name,
          (Stmt.each name condition body).symbols
          = condition.symbols ++ body.flatMap Stmt.symbols := by
  simp [symbols]

@[simp] theorem symbols_callback {result : Option String} {arguments : List Expr}
    {isAsync : Bool} {parameters : List Binding}
    : (Stmt.callback result callee arguments isAsync parameters body).symbols
      = callee.symbols ++ arguments.flatMap Expr.symbols ++ body.flatMap Stmt.symbols := by
  simp [symbols]

@[simp] theorem symbols_build {type : TypeExpr} {parameters : List Binding}
    : (Stmt.build type parameters body value).symbols
      = Snippet.symbols type.snippet ++ body.flatMap Stmt.symbols ++ value.symbols := by
  simp [symbols]

@[simp] theorem symbols_section {labels : List CaseLabel}
    : (Section.mk labels body).symbols
      = labels.flatMap CaseLabel.symbols ++ body.flatMap Stmt.symbols := by
  simp only [Section.symbols, Section.codeAll, Block.symbols_append, Block.symbols_map_text,
    Block.symbols_layout, Stmt.symbols_codeAll, Block.symbols_nil, List.append_nil]
  rfl

theorem symbols_sections (sections : List Section)
    : Block.symbols (Section.codeAll sections) = sections.flatMap Section.symbols := by
  induction sections with
  | nil => rfl
  | cons first rest ih =>
      obtain ⟨labels, body⟩ := first
      simp only [Section.codeAll, Block.symbols_append, Block.symbols_map_text,
        Block.symbols_layout, Stmt.symbols_codeAll, Block.symbols_nil, List.append_nil, ih,
        List.flatMap_cons, symbols_section]
      rfl

@[simp] theorem symbols_choose {sections : List Section}
    : (Stmt.choose value sections).symbols
      = value.symbols ++ sections.flatMap Section.symbols := by
  simp [symbols, symbols_sections]

/-- In code, the symbols of a statement are those that stand in its lines. -/
@[simp] theorem symbols_code (statement : Stmt)
    : Block.symbols statement.code = statement.symbols :=
  rfl

end Stmt

-----------------------------------------------------------------------------------------
-- Declarations
-----------------------------------------------------------------------------------------

/-- Whether just the symbols that stand in the lines of some code were recorded for it. -/
def Code.RecordsMentions (code : Code) : Prop :=
  ∀ symbol, symbol ∈ code.recorded ↔ symbol ∈ code.lines.symbols

/-- Whether just the symbols that stand in them were recorded for the default values of
the parameters and for the body of a function.
-/
structure Function.RecordsMentions (function : Function) : Prop where
  defaults : ∀ param ∈ function.params, ∀ code ∈ param.default, code.RecordsMentions
  body : function.body.RecordsMentions

/-- Whether just the symbols that stand in its lines are recorded for an item. -/
def Item.RecordsMentions (item : Item) : Prop :=
  ∀ symbol, symbol ∈ item.recorded ↔ symbol ∈ item.block.symbols

/-- A function without default values and without a body needs nothing besides its types.
-/
theorem Function.recordsMentions_of_bare {function : Function}
    (defaults : ∀ param ∈ function.params, param.default = none) (body : function.body = {})
    : function.RecordsMentions where
  defaults param member code found := by simp [defaults param member] at found
  body symbol := by rw [body]; rfl

section Declarations

variable {symbol : Symbol}

theorem Param.mem_symbols {param : Param}
    (records : ∀ code ∈ param.default, code.RecordsMentions)
    : symbol ∈ Snippet.symbols param.snippet ↔ symbol ∈ param.recorded := by
  rw [Param.snippet, Param.recorded]
  cases found : param.default with
  | none => simp
  | some code =>
      have inDefault := records code found symbol
      simp [inDefault]

theorem Function.mem_symbols_header (symbol : Symbol) {function : Function}
    (records
      : ∀ param ∈ function.params, ∀ code ∈ param.default, code.RecordsMentions)
    : symbol ∈ Snippet.symbols function.header
      ↔ symbol ∈ function.params.flatMap Param.recorded
        ∨ ∃ type ∈ function.returns, symbol ∈ type.recorded := by
  have params
      : symbol ∈ (function.params.map Param.snippet).flatMap Snippet.symbols
        ↔ symbol ∈ function.params.flatMap Param.recorded := by
    rw [List.flatMap_map, List.mem_flatMap, List.mem_flatMap]
    exact exists_congr (fun param => and_congr_right
      (fun member => Param.mem_symbols (records param member)))
  rw [Function.header]
  cases function.returns with
  | none => simpa using params
  | some type => simpa using or_congr_left params

/-- A function records what it is written with, wherever it is declared; a signature
leaves the body out on both sides.
-/
theorem Function.mem_recorded {function : Function} (records : function.RecordsMentions)
    (placement : Placement)
    : symbol ∈ function.recorded placement ↔ symbol ∈ (function.code placement).symbols := by
  have header := Function.mem_symbols_header symbol records.defaults
  have body := records.body symbol
  have taken
      : symbol ∈ function.recorded placement
        ↔ (symbol ∈ function.params.flatMap Param.recorded
            ∨ ∃ type ∈ function.returns, symbol ∈ type.recorded)
          ∨ placement ≠ .signature ∧ symbol ∈ function.body.recorded := by
    unfold Function.recorded
    cases function.returns <;> cases placement <;> simp [or_assoc]
  rw [taken, ← header, body]
  cases placement <;> simp [Function.code]

theorem mem_recorded_functions (symbol : Symbol) {functions : List Function}
    (records : ∀ function ∈ functions, function.RecordsMentions) (placement : Placement)
    : symbol ∈ functions.flatMap (Function.recorded placement)
      ↔ symbol ∈ functions.flatMap (fun function => (function.code placement).symbols) := by
  rw [List.mem_flatMap, List.mem_flatMap]
  exact exists_congr (fun function => and_congr_right
    (fun member => Function.mem_recorded (records function member) placement))

theorem mem_recorded_properties (symbol : Symbol) (properties : List Property)
    : symbol ∈ properties.flatMap Property.recorded
      ↔ symbol ∈ properties.flatMap (fun property => property.code.symbols) := by
  rw [List.mem_flatMap, List.mem_flatMap]
  exact exists_congr (fun property => and_congr_right
    (fun _ => by simp [Property.recorded, Property.code]))

/-- An interface records the symbols of its types. -/
theorem Interface.recordsMentions {interface : Interface}
    (records : ∀ method ∈ interface.methods, method.RecordsMentions)
    : (Item.interface interface).RecordsMentions := by
  intro symbol
  have properties := mem_recorded_properties symbol interface.properties
  have methods := mem_recorded_functions symbol records .signature
  simp only [Item.recorded, Item.block, Interface.recorded, Interface.code, List.mem_append,
    Block.symbols_append, Block.symbols_doc, Block.symbols_opening, Block.symbols_flatMap,
    Block.symbols_closing, Snippet.symbols_plain, Snippet.symbols_nil, properties, methods,
    List.not_mem_nil, false_or, or_false]

/-- A class records what its functions are written with, besides the types of its
properties and what it implements.
-/
theorem ClassType.recordsMentions {declared : ClassType}
    (records : ∀ function ∈ declared.functions, function.RecordsMentions)
    : (Item.classType declared).RecordsMentions := by
  intro symbol
  have properties := mem_recorded_properties symbol declared.properties
  have functions := mem_recorded_functions symbol records .method
  have header
      : symbol ∈ Snippet.symbols declared.header
        ↔ symbol ∈ declared.implements.flatMap TypeExpr.recorded := by
    rw [ClassType.header]
    split
    · rename_i none
      rw [List.isEmpty_iff.mp none]
      rfl
    · simp
  -- The empty lines between the functions hold no symbols, however they are placed.
  have separated
      : Block.symbols
          (if declared.properties.isEmpty then
            [Line.blank].intercalate (declared.functions.map (Function.code .method))
          else (declared.functions.map (Function.code .method)).flatMap ([Line.blank] ++ ·))
        = declared.functions.flatMap (fun function => (function.code .method).symbols) := by
    split
    · rw [Block.symbols_intercalate_blank, List.flatMap_map]
    · simp [List.flatMap_map]
  simp only [Item.recorded, Item.block, ClassType.recorded, ClassType.code, List.mem_append,
    Block.symbols_append, Block.symbols_doc, Block.symbols_opening, Block.symbols_flatMap,
    Block.symbols_closing, properties, functions, header, separated, List.not_mem_nil, false_or,
    or_false]

/-- An object of values records what its values are written with, if its type has no
symbols.
-/
theorem ValueObject.recordsMentions {object : ValueObject}
    (typed : Snippet.symbols object.type.snippet = [])
    (records
      : ∀ symbol,
          symbol ∈ object.recorded
          ↔ symbol ∈ object.values.flatMap (fun entry => entry.2.symbols))
    : (Item.values object).RecordsMentions := by
  intro symbol
  rw [Item.recorded, Item.block, records, ValueObject.code]
  split
  · rename_i none
    simp [List.isEmpty_iff.mp none, typed]
  · simp [typed]

/-- Whether just the symbols that stand in its lines are recorded for an entry: nothing is
for a plain value, so that none may stand there.
-/
def Entry.RecordsMentions : Entry → Prop
  | .value _ _ content => content.symbols = []
  | .method declared => declared.RecordsMentions
  | .gap => True

/-- An exported object records what its methods are written with. Its entries are gone
through one by one.
-/
theorem ObjectConst.mem_recorded {object : ObjectConst}
    (records : ∀ entry ∈ object.entries, entry.RecordsMentions)
    : symbol ∈ object.recorded ↔ symbol ∈ object.code.symbols := by
  have each
      : symbol ∈ object.entries.flatMap Entry.recorded
        ↔ symbol ∈ object.entries.flatMap (fun entry => entry.code.symbols) := by
    rw [List.mem_flatMap, List.mem_flatMap]
    refine exists_congr (fun entry => and_congr_right (fun member => ?_))
    cases entry with
    | value doc name content =>
        have none : content.symbols = [] := records _ member
        simp [Entry.recorded, Entry.code, none]
    | method declared => exact Function.mem_recorded (records _ member) .entry
    | gap => simp [Entry.recorded, Entry.code]
  rw [ObjectConst.recorded, each, ObjectConst.code]
  simp

end Declarations

end ProtobufTypeScript.Target
