import ProtobufTypeScript.Target.Stmt

/-!
What code contains: the statements inside a statement and the expressions inside an expression, at
any depth. Properties of emitted code are said of these, whatever the code around them is.
-/

namespace ProtobufTypeScript.Target

-----------------------------------------------------------------------------------------
-- Interspersed lists
-----------------------------------------------------------------------------------------

/-- What holds of a separator holds of all members of an interspersed list exactly if it
holds of the members of the lists in it, by induction on these lists.
-/
theorem forall_mem_intercalate {α : Type} {p : α → Prop} {separator : List α}
    (between : ∀ x ∈ separator, p x) {lists : List (List α)}
    : (∀ x ∈ separator.intercalate lists, p x) ↔ ∀ list ∈ lists, ∀ x ∈ list, p x := by
  induction lists with
  | nil => simp
  | cons first rest ih =>
      cases rest with
      | nil => simp
      | cons second others =>
          rw [List.intercalate_cons_cons]
          simp only [List.mem_append, or_imp, forall_and]
          rw [ih]
          simp only [List.mem_cons, forall_eq_or_imp]
          exact ⟨fun all => ⟨all.1.1, all.2⟩, fun all => ⟨⟨all.1, between⟩, all.2⟩⟩

/-- Types are joined with the separator between any two of them. Induction on the types.
-/
theorem TypeExpr.joined_eq_intercalate {separator : String} {types : List TypeExpr}
    : TypeExpr.joined separator types
      = [Piece.plain separator].intercalate (types.map TypeExpr.snippet) := by
  induction types with
  | nil => rfl
  | cons type rest ih =>
      cases rest with
      | nil => simp [TypeExpr.joined]
      | cons second others =>
          rw [TypeExpr.joined, ih]
          · simp only [List.map_cons, List.intercalate_cons_cons]
          · exact List.cons_ne_nil _ _

/-- Expressions are joined with commas between any two of them. Induction on the
expressions.
-/
theorem Expr.joined_eq_intercalate {values : List Expr}
    : Expr.joined values = [Piece.plain ", "].intercalate (values.map Expr.snippet) := by
  induction values with
  | nil => rfl
  | cons value rest ih =>
      cases rest with
      | nil => simp [Expr.joined]
      | cons second others =>
          rw [Expr.joined, ih]
          · simp only [List.map_cons, List.intercalate_cons_cons]
          · exact List.cons_ne_nil _ _

-----------------------------------------------------------------------------------------
-- Parts
-----------------------------------------------------------------------------------------

mutual
/-- An expression and all expressions inside it, in the order of the text. -/
def Expr.parts : Expr → List Expr
  | .name text => [.name text]
  | .symbol referent => [.symbol referent]
  | .number value => [.number value]
  | .grouped value => [.grouped value]
  | .quoted text => [.quoted text]
  | .member value property => .member value property :: Expr.parts value
  | .element value key => .element value key :: Expr.parts value ++ Expr.parts key
  | .call callee arguments =>
      .call callee arguments :: Expr.parts callee ++ Expr.partsAll arguments
  | .construct callee arguments =>
      .construct callee arguments :: Expr.parts callee ++ Expr.partsAll arguments
  | .present value => .present value :: Expr.parts value
  | .not value => .not value :: Expr.parts value
  | .typeOf value => .typeOf value :: Expr.parts value
  | .await value => .await value :: Expr.parts value
  | .binary operator left right =>
      .binary operator left right :: Expr.parts left ++ Expr.parts right
  | .conditional condition yes no =>
      .conditional condition yes no :: Expr.parts condition ++ Expr.parts yes ++ Expr.parts no
  | .cast value type => .cast value type :: Expr.parts value
  | .bracketed value => .bracketed value :: Expr.parts value
  | .spread value => .spread value :: Expr.parts value
  | .keyed key value => .keyed key value :: Expr.parts value
  | .object entries => .object entries :: Expr.partsAll entries
  | .list elements => .list elements :: Expr.partsAll elements
  | .arrow parameters body => .arrow parameters body :: Expr.parts body

/-- All expressions inside the expressions of a list. -/
def Expr.partsAll : List Expr → List Expr
  | [] => []
  | value :: rest => Expr.parts value ++ Expr.partsAll rest
end

mutual
/-- A statement and all statements inside it, in the order of the text. -/
def Stmt.parts : Stmt → List Stmt
  | .branch condition body otherwise =>
      .branch condition body otherwise :: Stmt.partsAll body ++ Otherwise.parts otherwise
  | .loop condition body => .loop condition body :: Stmt.partsAll body
  | .each name values body => .each name values body :: Stmt.partsAll body
  | .choose subject sections => .choose subject sections :: Section.partsAll sections
  | .callback name callee arguments isAsync parameters body =>
      .callback name callee arguments isAsync parameters body :: Stmt.partsAll body
  | .build type parameters body argument =>
      .build type parameters body argument :: Stmt.partsAll body
  | statement => [statement]

/-- All statements inside the statements of a list. -/
def Stmt.partsAll : List Stmt → List Stmt
  | [] => []
  | statement :: rest => Stmt.parts statement ++ Stmt.partsAll rest

/-- The statements after the body of a branch; a further branch counts as a statement. -/
def Otherwise.parts : Otherwise → List Stmt
  | .nothing => []
  | .block body => Stmt.partsAll body
  | .branch condition body otherwise =>
      .branch condition body otherwise :: Stmt.partsAll body ++ Otherwise.parts otherwise

/-- The statements inside the sections of a switch. -/
def Section.partsAll : List Section → List Stmt
  | [] => []
  | .mk _ body :: rest => Stmt.partsAll body ++ Section.partsAll rest
end

namespace Stmt

/-- The expressions of a statement itself, without those of the statements inside it. -/
def ownExpressions : Stmt → List Expr
  | .expression value => [value]
  | .const _ _ value => [value]
  | .mutable _ value => [value]
  | .assign target value => [target, value]
  | .increase target value => [target, value]
  | .result value => [value]
  | .raise value => [value]
  | .leave => []
  | .branch condition _ _ => [condition]
  | .loop condition _ => [condition]
  | .each _ values _ => [values]
  | .choose subject _ => [subject]
  | .callback _ callee arguments _ _ _ => callee :: arguments
  | .build _ _ _ argument => [argument]

/-- The expressions of a statement and of the statements inside it. -/
def expressions (statement : Stmt) : List Expr :=
  statement.parts.flatMap ownExpressions

/-- The statements of a list of statements, at any depth, are those of its parts. -/
theorem partsAll_eq_flatMap (statements : List Stmt)
    : partsAll statements = statements.flatMap parts := by
  induction statements with
  | nil => rfl
  | cons statement rest ih => simp only [partsAll, ih, List.flatMap_cons]

end Stmt

/-- The statements in sections that are made one by one are those of their bodies.
Induction on what they are made from.
-/
theorem Section.partsAll_map_mk {α : Type} (labels : α → List CaseLabel) (body : α → List Stmt)
    (entries : List α)
    : Section.partsAll (entries.map (fun entry => .mk (labels entry) (body entry)))
      = entries.flatMap (fun entry => Stmt.partsAll (body entry)) := by
  induction entries with
  | nil => rfl
  | cons entry rest ih =>
      simp only [List.map_cons, Section.partsAll, ih, List.flatMap_cons]

/-- The statements in sections side by side are those in the first ones and those in the
others.
-/
theorem Section.partsAll_append (left right : List Section)
    : Section.partsAll (left ++ right) = Section.partsAll left ++ Section.partsAll right := by
  induction left with
  | nil => rfl
  | cons entry rest ih =>
      cases entry
      simp only [List.cons_append, Section.partsAll, ih, List.append_assoc]

/-- The labels of a section of a switch. -/
def Section.labels : Section → List CaseLabel
  | .mk labels _ => labels

/-- The statements of a section of a switch. -/
def Section.body : Section → List Stmt
  | .mk _ body => body

end ProtobufTypeScript.Target
