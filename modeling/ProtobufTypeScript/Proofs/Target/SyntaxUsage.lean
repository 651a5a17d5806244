import ProtobufTypeScript.Proofs.Target.Contents
import ProtobufTypeScript.Proofs.Target.Usage

/-!
The use of symbols in written syntax. A type, an expression or a statement uses its symbols in ways
that are allowed if its parts do: what is written between the parts closes them. A member of a
symbol is the only place where something else comes right behind a symbol.
-/

namespace ProtobufTypeScript.Target.Usage

variable {usage : Usage}

-----------------------------------------------------------------------------------------
-- Symbols
-----------------------------------------------------------------------------------------

@[simp] theorem frees_library
    : usage.Frees Library.reader ∧ usage.Frees Library.writer ∧ usage.Frees Library.long
      ∧ usage.Frees Library.dataLoader ∧ usage.Frees Library.hash :=
  ⟨fun next _ => usage.reader next, fun next _ => usage.writer next, fun next _ => usage.long next,
    fun next _ => usage.dataLoader next, fun next _ => usage.hash next⟩

@[simp] theorem frees_helper {helper : Helper} (ordinary : helper ≠ .fromJsonTimestamp)
    : usage.Frees helper.symbol :=
  fun next _ => usage.helper helper next ordinary

@[simp] theorem grants_long {member : String}
    : usage.Grants Library.long member :=
  fun _ _ => usage.long _

@[simp] theorem grants_writer {member : String}
    : usage.Grants Library.writer member :=
  fun _ _ => usage.writer _

-----------------------------------------------------------------------------------------
-- Snippets one after the other
-----------------------------------------------------------------------------------------

/-- Snippets may be written one after the other with a text between them that closes them.
-/
theorem allows_intercalate {separator : String} (closing : closes separator = true)
    {snippets : List Snippet} (each : ∀ snippet ∈ snippets, usage.Allows snippet)
    : usage.Allows ([Piece.plain separator].intercalate snippets) := by
  induction snippets with
  | nil => exact allows_nil
  | cons snippet rest ih =>
      obtain ⟨first, others⟩ := List.forall_mem_cons.mp each
      cases rest with
      | nil => simpa using first
      | cons second later =>
          rw [List.intercalate_cons_cons]
          exact allows_append (allowsAnywhere_closed closing first) (ih others)

theorem allows_joinedTypes {separator : String} (closing : closes separator = true)
    {types : List TypeExpr} (each : ∀ type ∈ types, usage.Allows type.snippet)
    : usage.Allows (TypeExpr.joined separator types) := by
  rw [TypeExpr.joined_eq_intercalate]
  exact allows_intercalate closing (List.forall_mem_map.mpr each)

theorem allows_joined {values : List Expr} (each : ∀ value ∈ values, usage.Allows value.snippet)
    : usage.Allows (Expr.joined values) := by
  rw [Expr.joined_eq_intercalate]
  exact allows_intercalate (by decide) (List.forall_mem_map.mpr each)

-----------------------------------------------------------------------------------------
-- Types
-----------------------------------------------------------------------------------------

mutual
/-- Whether the symbols of a type may be used as they are. -/
def AdmitsType (usage : Usage) : TypeExpr → Prop
  | .simple _ => True
  | .symbol referent => usage.Frees referent
  | .union members => AdmitsTypes usage members
  | .array element => AdmitsType usage element
  | .index key value => AdmitsType usage key ∧ AdmitsType usage value
  | .generic base arguments => AdmitsType usage base ∧ AdmitsTypes usage arguments

/-- Whether the symbols of all types in a list may be used as they are. -/
def AdmitsTypes (usage : Usage) : List TypeExpr → Prop
  | [] => True
  | type :: rest => AdmitsType usage type ∧ AdmitsTypes usage rest
end

mutual
/-- A type is written in ways that are allowed if its symbols may be used, by recursion on
types, along with the statement for lists of them.
-/
theorem allows_type
    : ∀ type, usage.AdmitsType type → usage.Allows type.snippet
  | .simple name, _ => allows_plain name
  | .symbol referent, free => fun next closing => allowsBefore_symbol.mpr (free next closing)
  | .union members, inMembers => allows_joinedTypes (by decide) (allows_types members inMembers)
  | .array element, inElement => by
      have allowed := allows_type element inElement
      rw [TypeExpr.snippet]
      split
      · exact (allowsAnywhere_closed (by decide) (allows_after_plain "(" allowed)).allows
      · exact (allowsAnywhere_closed (by decide) allowed).allows
  | .index key value, ⟨inKey, inValue⟩ =>
      (allowsAnywhere_closed (by decide)
        (allows_append
          (allowsAnywhere_closed (by decide) (allows_after_plain _ (allows_type key inKey)))
          (allows_type value inValue))).allows
  | .generic base arguments, ⟨inBase, inArguments⟩ =>
      (allowsAnywhere_closed (by decide)
        (allows_append (allowsAnywhere_closed (by decide) (allows_type base inBase))
          (allows_joinedTypes (by decide) (allows_types arguments inArguments)))).allows

theorem allows_types
    : ∀ types, usage.AdmitsTypes types → ∀ type ∈ types, usage.Allows type.snippet
  | [], _ => fun _ member => absurd member List.not_mem_nil
  | type :: rest, ⟨first, others⟩ =>
      List.forall_mem_cons.mpr ⟨allows_type type first, allows_types rest others⟩
end

@[simp] theorem admits_languageTypes
    : usage.AdmitsType .number ∧ usage.AdmitsType .string ∧ usage.AdmitsType .boolean
      ∧ usage.AdmitsType .undefined ∧ usage.AdmitsType .any ∧ usage.AdmitsType .bytes
      ∧ usage.AdmitsType .date :=
  ⟨trivial, trivial, trivial, trivial, trivial, trivial, trivial⟩

@[simp] theorem admits_optionalType {type : TypeExpr}
    : usage.AdmitsType type.optional ↔ usage.AdmitsType type := by
  simp [TypeExpr.optional, AdmitsType, AdmitsTypes]

@[simp] theorem admits_promiseType {type : TypeExpr}
    : usage.AdmitsType (TypeExpr.promise type) ↔ usage.AdmitsType type := by
  simp [TypeExpr.promise, AdmitsType, AdmitsTypes]

-----------------------------------------------------------------------------------------
-- Expressions
-----------------------------------------------------------------------------------------

/-- Whether an expression does not end in a symbol, so that anything may follow it. -/
def isClosed : Expr → Bool
  | .name _ => true
  | .symbol _ => false
  | .number _ => true
  | .grouped _ => true
  | .quoted _ => true
  | .member object _ => isClosed object
  | .element _ _ => true
  | .call _ _ => true
  | .construct _ _ => true
  | .present _ => true
  | .not _ => false
  | .typeOf _ => false
  | .await _ => false
  | .binary _ _ _ => false
  | .conditional _ _ _ => false
  | .cast _ _ => false
  | .bracketed _ => true
  | .spread _ => false
  | .keyed _ _ => false
  | .object _ => true
  | .list _ => true
  | .arrow _ _ => false

mutual
/-- Whether an expression uses its symbols, and members of its symbols, in ways that are
allowed.
-/
def Admits (usage : Usage) : Expr → Prop
  | .name _ => True
  | .symbol referent => usage.Frees referent
  | .number _ => True
  | .grouped _ => True
  | .quoted _ => True
  | .member object property =>
      (∃ symbol, object = .symbol symbol ∧ usage.Grants symbol property)
      ∨ isClosed object = true ∧ Admits usage object
  | .element object key => Admits usage object ∧ Admits usage key
  | .call callee arguments => Admits usage callee ∧ AdmitsAll usage arguments
  | .construct callee arguments => Admits usage callee ∧ AdmitsAll usage arguments
  | .present value => Admits usage value
  | .not value => Admits usage value
  | .typeOf value => Admits usage value
  | .await value => Admits usage value
  | .binary _ left right => Admits usage left ∧ Admits usage right
  | .conditional condition yes no => Admits usage condition ∧ Admits usage yes ∧ Admits usage no
  | .cast value type => Admits usage value ∧ usage.AdmitsType type
  | .bracketed value => Admits usage value
  | .spread value => Admits usage value
  | .keyed _ value => Admits usage value
  | .object entries => AdmitsAll usage entries
  | .list elements => AdmitsAll usage elements
  | .arrow _ body => Admits usage body

/-- Whether all expressions in a list use their symbols in ways that are allowed. -/
def AdmitsAll (usage : Usage) : List Expr → Prop
  | [] => True
  | value :: rest => Admits usage value ∧ AdmitsAll usage rest
end

theorem admitsAll_append {first second : List Expr}
    : usage.AdmitsAll (first ++ second) ↔ usage.AdmitsAll first ∧ usage.AdmitsAll second := by
  induction first with
  | nil => simp [AdmitsAll]
  | cons value rest ih => simp [AdmitsAll, ih, and_assoc]

/-- Values up to an end that closes them may stand anywhere behind what may stand
anywhere.
-/
theorem allowsAnywhere_joined {start : Snippet} {ending : String} {values : List Expr}
    (closing : closes ending = true) (before : usage.AllowsAnywhere start)
    (each : ∀ value ∈ values, usage.Allows value.snippet)
    : usage.AllowsAnywhere (start ++ Expr.joined values ++ [.plain ending]) :=
  allowsAnywhere_closed closing (allows_append before (allows_joined each))

/-- A member of a symbol may be used where that is granted. -/
theorem allows_member {symbol : Symbol} {property : String}
    (granted : usage.Grants symbol property)
    : usage.Allows (Expr.member (.symbol symbol) property).snippet := by
  intro next closing
  change usage.AllowsBefore next ([.symbol symbol] ++ [.plain ("." ++ property)])
  rw [allowsBefore_append, allowsBefore_symbol]
  exact ⟨by simpa [Snippet.written] using granted next closing, allowsAnywhere_plain _ next⟩

theorem closes_token (operator : BinaryOp)
    : closes (" " ++ operator.token ++ " ") = true := by
  cases operator <;> decide

mutual
/-- An expression is written in ways that are allowed if it uses its symbols so; if it is
closed, then wherever it stands.
-/
theorem allows_expr
    : ∀ value,
        usage.Admits value
        → usage.Allows value.snippet
          ∧ (isClosed value = true → usage.AllowsAnywhere value.snippet)
  | .name _, _ => anywhere (allowsAnywhere_plain _)
  | .symbol _, free =>
      ⟨fun next closing => allowsBefore_symbol.mpr (free next closing), nofun⟩
  | .number _, _ => anywhere (allowsAnywhere_plain _)
  | .grouped _, _ => anywhere (allowsAnywhere_plain _)
  | .quoted _, _ => anywhere (allowsAnywhere_plain _)
  | .member object _, admitted => by
      rcases admitted with ⟨symbol, rfl, granted⟩ | ⟨closed, inObject⟩
      · exact ⟨allows_member granted, nofun⟩
      · exact anywhere
          (allowsAnywhere_append ((allows_expr object inObject).2 closed) (allowsAnywhere_plain _))
  | .element object key, ⟨inObject, inKey⟩ =>
      anywhere (allowsAnywhere_closed (by decide)
        (allows_append (allowsAnywhere_closed (by decide) (allows_expr object inObject).1)
          (allows_expr key inKey).1))
  | .call callee arguments, ⟨inCallee, inArguments⟩ =>
      anywhere (allowsAnywhere_joined (by decide)
        (allowsAnywhere_closed (by decide) (allows_expr callee inCallee).1)
        (allows_exprs arguments inArguments))
  | .construct callee arguments, ⟨inCallee, inArguments⟩ =>
      anywhere (allowsAnywhere_joined (by decide)
        (allowsAnywhere_closed (by decide)
          (allows_after_plain _ (allows_expr callee inCallee).1))
        (allows_exprs arguments inArguments))
  | .present value, inValue =>
      anywhere (allowsAnywhere_closed (by decide) (allows_expr value inValue).1)
  | .not value, inValue => ⟨allows_after_plain _ (allows_expr value inValue).1, nofun⟩
  | .typeOf value, inValue => ⟨allows_after_plain _ (allows_expr value inValue).1, nofun⟩
  | .await value, inValue => ⟨allows_after_plain _ (allows_expr value inValue).1, nofun⟩
  | .binary operator left right, ⟨inLeft, inRight⟩ =>
      ⟨allows_append (allowsAnywhere_closed (closes_token operator) (allows_expr left inLeft).1)
        (allows_expr right inRight).1, nofun⟩
  | .conditional condition yes no, ⟨inCondition, inYes, inNo⟩ =>
      ⟨allows_append
        (allowsAnywhere_closed (by decide)
          (allows_append (allowsAnywhere_closed (by decide) (allows_expr condition inCondition).1)
            (allows_expr yes inYes).1))
        (allows_expr no inNo).1, nofun⟩
  | .cast value _, ⟨inValue, inType⟩ =>
      ⟨allows_append (allowsAnywhere_closed (by decide) (allows_expr value inValue).1)
        (allows_type _ inType), nofun⟩
  | .bracketed value, inValue =>
      anywhere
        (allowsAnywhere_closed (by decide) (allows_after_plain _ (allows_expr value inValue).1))
  | .spread value, inValue => ⟨allows_after_plain _ (allows_expr value inValue).1, nofun⟩
  | .keyed _ value, inValue => ⟨allows_after_plain _ (allows_expr value inValue).1, nofun⟩
  | .object entries, inEntries => by
      rw [Expr.snippet]
      split
      · exact anywhere (allowsAnywhere_plain _)
      · exact anywhere
          (allowsAnywhere_joined (by decide) (allowsAnywhere_plain _)
            (allows_exprs entries inEntries))
  | .list elements, inElements =>
      anywhere
        (allowsAnywhere_joined (by decide) (allowsAnywhere_plain _)
          (allows_exprs elements inElements))
  | .arrow _ body, inBody => ⟨allows_after_plain _ (allows_expr body inBody).1, nofun⟩

theorem allows_exprs
    : ∀ values, usage.AdmitsAll values → ∀ value ∈ values, usage.Allows value.snippet
  | [], _ => fun _ member => absurd member List.not_mem_nil
  | value :: rest, ⟨first, others⟩ =>
      List.forall_mem_cons.mpr ⟨(allows_expr value first).1, allows_exprs rest others⟩
end

-----------------------------------------------------------------------------------------
-- Lines
-----------------------------------------------------------------------------------------

theorem allowsLines_nil
    : usage.AllowsLines [] := by
  simp [AllowsLines]

theorem allowsLines_append {first second : Block}
    : usage.AllowsLines (first ++ second)
      ↔ usage.AllowsLines first ∧ usage.AllowsLines second := by
  simp only [AllowsLines, List.mem_append, or_imp, forall_and]

theorem allowsLines_flatMap {α : Type} {values : List α} {block : α → Block}
    (each : ∀ value ∈ values, usage.AllowsLines (block value))
    : usage.AllowsLines (values.flatMap block) := by
  intro line member
  obtain ⟨value, inValues, inBlock⟩ := List.mem_flatMap.mp member
  exact each value inValues line inBlock

theorem allowsLines_intercalate {blocks : List Block}
    (each : ∀ block ∈ blocks, usage.AllowsLines block)
    : usage.AllowsLines ([Line.blank].intercalate blocks) := by
  have all
      : ∀ entry ∈ [Line.blank].intercalate blocks,
          ∀ line, entry = .text line → usage.Allows line :=
    (forall_mem_intercalate (by simp)).mpr
      (fun block inBlocks entry inBlock line same => each block inBlocks line (same ▸ inBlock))
  exact fun line member => all _ member line rfl

theorem allowsLines_line {snippet : Snippet} (allowed : usage.Allows snippet)
    : usage.AllowsLines (Block.line snippet) := by
  intro line member
  cases List.mem_singleton.mp member
  exact allowed

theorem allowsLines_layout
    : usage.AllowsLines [.indent] ∧ usage.AllowsLines [.dedent] ∧ usage.AllowsLines [.blank] := by
  simp [AllowsLines]

theorem allowsLines_doc {comment : Option String}
    : usage.AllowsLines (Block.doc comment) := by
  cases comment <;> simp [AllowsLines, Block.doc]

theorem allowsLines_statement {snippet : Snippet} (allowed : usage.Allows snippet)
    : usage.AllowsLines (Block.statement snippet) :=
  allowsLines_line (allowsAnywhere_closed (by decide) allowed).allows

theorem allowsLines_opening {header : Snippet} (allowed : usage.Allows header)
    : usage.AllowsLines (Block.opening header) := by
  have line := allowsAnywhere_closed (by decide : closes " \x7b" = true) allowed
  exact allowsLines_append.mpr ⟨allowsLines_line line.allows, allowsLines_layout.1⟩

theorem allowsLines_closingWith {tail : Snippet} (allowed : usage.Allows tail)
    : usage.AllowsLines (Block.closingWith tail) :=
  allowsLines_append.mpr
    ⟨allowsLines_layout.2.1, allowsLines_line (allows_after_plain "\x7d" allowed)⟩

theorem allowsLines_closing
    : usage.AllowsLines Block.closing :=
  allowsLines_closingWith allows_nil

theorem allowsLines_between {header : Snippet} (allowed : usage.Allows header)
    : usage.AllowsLines (Block.between header) :=
  allowsLines_append.mpr
    ⟨allowsLines_layout.2.1, allowsLines_opening (allows_after_plain "\x7d " allowed)⟩

/-- The lines of a block may be written in one. -/
theorem allows_inlined {block : Block} (allowed : usage.AllowsLines block)
    : usage.Allows block.inlined := by
  refine allows_intercalate (by decide) (fun snippet member => ?_)
  obtain ⟨line, inBlock, found⟩ := List.mem_filterMap.mp member
  split at found
  · cases found
    exact allowed _ inBlock
  · cases found

-----------------------------------------------------------------------------------------
-- Statements
-----------------------------------------------------------------------------------------

mutual
/-- Whether a statement uses its symbols in ways that are allowed. -/
def AdmitsStmt (usage : Usage) : Stmt → Prop
  | .expression value => usage.Admits value
  | .const _ type value => (∀ declared ∈ type, usage.AdmitsType declared) ∧ usage.Admits value
  | .mutable _ value => usage.Admits value
  | .assign target value => usage.Admits target ∧ usage.Admits value
  | .increase target value => usage.Admits target ∧ usage.Admits value
  | .result value => usage.Admits value
  | .raise value => usage.Admits value
  | .leave => True
  | .branch condition body otherwise =>
      usage.Admits condition ∧ AdmitsStmts usage body ∧ AdmitsOtherwise usage otherwise
  | .loop condition body => usage.Admits condition ∧ AdmitsStmts usage body
  | .each _ values body => usage.Admits values ∧ AdmitsStmts usage body
  | .choose subject sections => usage.Admits subject ∧ AdmitsSections usage sections
  | .callback _ callee arguments _ _ body =>
      usage.Admits callee ∧ usage.AdmitsAll arguments ∧ AdmitsStmts usage body
  | .build type _ body argument =>
      usage.AdmitsType type ∧ AdmitsStmts usage body ∧ usage.Admits argument

/-- Whether all statements in a list use their symbols in ways that are allowed. -/
def AdmitsStmts (usage : Usage) : List Stmt → Prop
  | [] => True
  | statement :: rest => AdmitsStmt usage statement ∧ AdmitsStmts usage rest

/-- Whether what follows a branch uses its symbols in ways that are allowed. -/
def AdmitsOtherwise (usage : Usage) : Otherwise → Prop
  | .nothing => True
  | .block body => AdmitsStmts usage body
  | .branch condition body otherwise =>
      usage.Admits condition ∧ AdmitsStmts usage body ∧ AdmitsOtherwise usage otherwise

/-- Whether the sections of a switch use their symbols in ways that are allowed. -/
def AdmitsSections (usage : Usage) : List Section → Prop
  | [] => True
  | .mk labels body :: rest =>
      (∀ value, .case value ∈ labels → usage.Admits value)
      ∧ AdmitsStmts usage body
      ∧ AdmitsSections usage rest
end

theorem admitsStmts_iff {statements : List Stmt}
    : usage.AdmitsStmts statements ↔ ∀ statement ∈ statements, usage.AdmitsStmt statement := by
  induction statements with
  | nil => simp [AdmitsStmts]
  | cons statement rest ih => simp [AdmitsStmts, ih]

theorem admitsSections_iff {sections : List Section}
    : usage.AdmitsSections sections
      ↔ ∀ entry ∈ sections,
          (∀ value, .case value ∈ entry.labels → usage.Admits value)
          ∧ usage.AdmitsStmts entry.body := by
  induction sections with
  | nil => simp [AdmitsSections]
  | cons entry rest ih =>
      obtain ⟨labels, body⟩ := entry
      simp [AdmitsSections, ih, Section.labels, Section.body, and_assoc]

theorem allowsAnywhere_constSnippet {name : String} {type : Option TypeExpr}
    (inType : ∀ declared ∈ type, usage.AdmitsType declared)
    : usage.AllowsAnywhere (constSnippet name type) := by
  cases type with
  | none => exact allowsAnywhere_plain _
  | some type =>
      exact allowsAnywhere_closed (by decide)
        (allows_after_plain _ (allows_type type (inType type rfl)))

theorem allows_condition {keyword : String} {condition : Expr} (admitted : usage.Admits condition)
    : usage.Allows (conditionSnippet keyword condition) :=
  (allowsAnywhere_closed (by decide)
    (allows_after_plain _ (allows_expr condition admitted).1)).allows

theorem allows_callback {name : Option String} {callee : Expr} {arguments : List Expr}
    {isAsync : Bool} {parameters : List Binding} (inCallee : usage.Admits callee)
    (inArguments : usage.AdmitsAll arguments)
    : usage.Allows (callbackSnippet name callee arguments isAsync parameters) := by
  have called {start : Snippet} (named : usage.AllowsAnywhere start)
      : usage.AllowsAnywhere (start ++ callee.snippet ++ [.plain "("]) :=
    allowsAnywhere_closed (by decide : closes "(" = true)
      (allows_append named (allows_expr callee inCallee).1)
  have given
      : usage.AllowsAnywhere
          (arguments.flatMap (fun argument => argument.snippet ++ [.plain ", "])) :=
    allowsAnywhere_flatMap (fun value member =>
      allowsAnywhere_closed (by decide) (allows_exprs arguments inArguments value member))
  have word
      : usage.AllowsAnywhere (if isAsync then [Piece.plain "async "] else []) := by
    cases isAsync with
    | true => exact allowsAnywhere_plain _
    | false => exact allowsAnywhere_nil
  unfold callbackSnippet
  refine (allowsAnywhere_append (allowsAnywhere_append (allowsAnywhere_append (called ?_) given)
    word) (allowsAnywhere_plain _)).allows
  cases name with
  | none => exact allowsAnywhere_nil
  | some name => exact allowsAnywhere_plain _

theorem allowsLines_labels {labels : List CaseLabel}
    (inLabels : ∀ value, .case value ∈ labels → usage.Admits value)
    : usage.AllowsLines (labels.map (fun label => .text label.snippet)) := by
  intro line member
  obtain ⟨label, inList, same⟩ := List.mem_map.mp member
  cases same
  cases label with
  | default => exact allows_plain _
  | case value =>
      exact (allowsAnywhere_closed (by decide)
        (allows_after_plain _ (allows_expr value (inLabels value inList)).1)).allows

mutual
/-- A statement is written in ways that are allowed if it uses its symbols so. Witness:
recursion on the statement, with lists and sections of statements.
-/
theorem allowsLines_stmt
    : ∀ statement, usage.AdmitsStmt statement → usage.AllowsLines statement.code
  | .expression value, inValue => allowsLines_statement (allows_expr value inValue).1
  | .const _ _ value, ⟨inType, inValue⟩ =>
      allowsLines_statement
        (allows_append (allowsAnywhere_constSnippet inType) (allows_expr value inValue).1)
  | .mutable _ value, inValue =>
      allowsLines_statement (allows_after_plain _ (allows_expr value inValue).1)
  | .assign target value, ⟨inTarget, inValue⟩ =>
      allowsLines_statement
        (allows_append (allowsAnywhere_closed (by decide) (allows_expr target inTarget).1)
          (allows_expr value inValue).1)
  | .increase target value, ⟨inTarget, inValue⟩ =>
      allowsLines_statement
        (allows_append (allowsAnywhere_closed (by decide) (allows_expr target inTarget).1)
          (allows_expr value inValue).1)
  | .result value, inValue =>
      allowsLines_statement (allows_after_plain _ (allows_expr value inValue).1)
  | .raise value, inValue =>
      allowsLines_statement (allows_after_plain _ (allows_expr value inValue).1)
  | .leave, _ => allowsLines_statement (allows_plain _)
  | .branch condition body otherwise, ⟨inCondition, inBody, inOtherwise⟩ => by
      simp only [Stmt.code, allowsLines_append]
      exact ⟨⟨allowsLines_opening (allows_condition inCondition), allowsLines_stmts body inBody⟩,
        allowsLines_otherwise otherwise inOtherwise⟩
  | .loop condition body, ⟨inCondition, inBody⟩ => by
      simp only [Stmt.code, allowsLines_append]
      exact ⟨⟨allowsLines_opening (allows_condition inCondition), allowsLines_stmts body inBody⟩,
        allowsLines_closing⟩
  | .each name values body, ⟨inValues, inBody⟩ => by
      have header := allowsAnywhere_closed (by decide : closes ")" = true)
        (allows_after_plain ("for (const " ++ name ++ " of ") (allows_expr values inValues).1)
      simp only [Stmt.code, allowsLines_append]
      exact ⟨⟨allowsLines_opening header.allows, allowsLines_stmts body inBody⟩,
        allowsLines_closing⟩
  | .choose subject sections, ⟨inSubject, inSections⟩ => by
      simp only [Stmt.code, allowsLines_append]
      exact ⟨⟨allowsLines_opening (allows_condition inSubject),
        allowsLines_sections sections inSections⟩, allowsLines_closing⟩
  | .callback _ _ _ _ _ body, ⟨inCallee, inArguments, inBody⟩ => by
      simp only [Stmt.code, allowsLines_append]
      exact ⟨⟨allowsLines_opening (allows_callback inCallee inArguments),
        allowsLines_stmts body inBody⟩, allowsLines_closingWith (allows_plain _)⟩
  | .build type _ body argument, ⟨inType, inBody, inArgument⟩ => by
      have start := allowsAnywhere_closed (by decide : closes "(" = true)
        (allows_after_plain "return new " (allows_type type inType))
      simp only [Stmt.code, allowsLines_append]
      exact ⟨⟨⟨⟨⟨⟨⟨allowsLines_line start.allows, allowsLines_layout.1⟩,
        allowsLines_opening (allows_plain _)⟩, allowsLines_stmts body inBody⟩,
        allowsLines_closingWith (allows_plain _)⟩,
        allowsLines_line (allows_expr argument inArgument).1⟩, allowsLines_layout.2.1⟩,
        allowsLines_statement (allows_plain _)⟩

theorem allowsLines_stmts
    : ∀ statements, usage.AdmitsStmts statements → usage.AllowsLines (Stmt.codeAll statements)
  | [], _ => allowsLines_nil
  | statement :: rest, ⟨first, others⟩ =>
      allowsLines_append.mpr ⟨allowsLines_stmt statement first, allowsLines_stmts rest others⟩

theorem allowsLines_otherwise
    : ∀ otherwise, usage.AdmitsOtherwise otherwise → usage.AllowsLines otherwise.code
  | .nothing, _ => allowsLines_closing
  | .block body, inBody => by
      simp only [Otherwise.code, allowsLines_append]
      exact ⟨⟨allowsLines_between (allows_plain _), allowsLines_stmts body inBody⟩,
        allowsLines_closing⟩
  | .branch condition body otherwise, ⟨inCondition, inBody, inOtherwise⟩ => by
      simp only [Otherwise.code, allowsLines_append]
      exact ⟨⟨allowsLines_between (allows_condition inCondition), allowsLines_stmts body inBody⟩,
        allowsLines_otherwise otherwise inOtherwise⟩

theorem allowsLines_sections
    : ∀ sections, usage.AdmitsSections sections → usage.AllowsLines (Section.codeAll sections)
  | [], _ => allowsLines_nil
  | .mk labels body :: rest, ⟨inLabels, inBody, inRest⟩ => by
      simp only [Section.codeAll, allowsLines_append]
      exact ⟨⟨⟨⟨allowsLines_labels inLabels, allowsLines_layout.1⟩, allowsLines_stmts body inBody⟩,
        allowsLines_layout.2.1⟩, allowsLines_sections rest inRest⟩
end

end ProtobufTypeScript.Target.Usage
