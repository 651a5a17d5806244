import ProtobufTypeScript.Proofs.Target.Contents

/-!
What names stand for in code. Functions and blocks bind names: their parameters, and the locals
that the statements directly in them declare. A name belongs to the innermost function or block
around it that binds it.
-/

namespace ProtobufTypeScript.Target

/-- The names that a parameter binds. -/
def Binding.names : Binding → List String
  | .single name => [name]
  | .pair first second => [first, second]

/-- The expression of a label, if it has one. -/
def CaseLabel.value? : CaseLabel → Option Expr
  | .case value => some value
  | .default => none

/-- The local that a statement declares for the statements next to it. -/
def Stmt.local? : Stmt → Option String
  | .const name _ _ => some name
  | .mutable name _ => some name
  | .callback name _ _ _ _ _ => name
  | _ => none

/-- The names that a function or a block binds. -/
structure Frame where
  parameters : List String := []
  locals : List String := []

namespace Frame

/-- What a function passed as an argument binds. -/
def ofFunction (parameters : List Binding) (body : List Stmt) : Frame :=
  { parameters := parameters.flatMap Binding.names, locals := body.filterMap Stmt.local? }

/-- What a block binds. -/
def ofBlock (body : List Stmt) : Frame :=
  { locals := body.filterMap Stmt.local? }

/-- Whether a local has the name of a parameter next to it, which is an error. -/
def Redeclares (frame : Frame) : Prop :=
  ∃ name ∈ frame.parameters, name ∈ frame.locals

/-- The frame that a name belongs to, given those around it from the inside out. -/
def binder? (frames : List Frame) (name : String) : Option Frame :=
  frames.find? (fun frame => (frame.parameters ++ frame.locals).contains name)

end Frame

/-- An expression with the frames around it, from the inside out. -/
structure Site where
  content : Expr
  frames : List Frame

mutual
/-- The sites of an expression and of all expressions inside it, in the order of the text.
-/
def Expr.sites (frames : List Frame) : Expr → List Site
  | .name text => [⟨.name text, frames⟩]
  | .symbol referent => [⟨.symbol referent, frames⟩]
  | .number value => [⟨.number value, frames⟩]
  | .grouped value => [⟨.grouped value, frames⟩]
  | .quoted text => [⟨.quoted text, frames⟩]
  | .member value property => ⟨.member value property, frames⟩ :: Expr.sites frames value
  | .element value key =>
      ⟨.element value key, frames⟩ :: Expr.sites frames value ++ Expr.sites frames key
  | .call callee arguments =>
      ⟨.call callee arguments, frames⟩ :: Expr.sites frames callee
        ++ Expr.sitesAll frames arguments
  | .construct callee arguments =>
      ⟨.construct callee arguments, frames⟩ :: Expr.sites frames callee
        ++ Expr.sitesAll frames arguments
  | .present value => ⟨.present value, frames⟩ :: Expr.sites frames value
  | .not value => ⟨.not value, frames⟩ :: Expr.sites frames value
  | .typeOf value => ⟨.typeOf value, frames⟩ :: Expr.sites frames value
  | .await value => ⟨.await value, frames⟩ :: Expr.sites frames value
  | .binary operator left right =>
      ⟨.binary operator left right, frames⟩ :: Expr.sites frames left ++ Expr.sites frames right
  | .conditional condition yes no =>
      ⟨.conditional condition yes no, frames⟩ :: Expr.sites frames condition
        ++ Expr.sites frames yes ++ Expr.sites frames no
  | .cast value type => ⟨.cast value type, frames⟩ :: Expr.sites frames value
  | .bracketed value => ⟨.bracketed value, frames⟩ :: Expr.sites frames value
  | .spread value => ⟨.spread value, frames⟩ :: Expr.sites frames value
  | .keyed key value => ⟨.keyed key value, frames⟩ :: Expr.sites frames value
  | .object entries => ⟨.object entries, frames⟩ :: Expr.sitesAll frames entries
  | .list elements => ⟨.list elements, frames⟩ :: Expr.sitesAll frames elements
  | .arrow parameters body =>
      ⟨.arrow parameters body, frames⟩ :: Expr.sites ({ parameters } :: frames) body

/-- The sites of all expressions inside the expressions of a list. -/
def Expr.sitesAll (frames : List Frame) : List Expr → List Site
  | [] => []
  | value :: rest => Expr.sites frames value ++ Expr.sitesAll frames rest
end

mutual
/-- The sites of the expressions inside a statement, at any depth. -/
def Stmt.sites (frames : List Frame) : Stmt → List Site
  | .branch condition body otherwise =>
      Expr.sites frames condition ++ Stmt.sitesAll (.ofBlock body :: frames) body
        ++ Otherwise.sites frames otherwise
  | .loop condition body =>
      Expr.sites frames condition ++ Stmt.sitesAll (.ofBlock body :: frames) body
  -- the body may declare a local of the loop's name again
  | .each name values body =>
      Expr.sites frames values
        ++ Stmt.sitesAll (.ofBlock body :: { parameters := [name] } :: frames) body
  | .choose subject sections =>
      Expr.sites frames subject
        ++ Section.sitesAll (.ofBlock (sections.flatMap Section.body) :: frames) sections
  | .callback _ callee arguments _ parameters body =>
      Expr.sites frames callee ++ Expr.sitesAll frames arguments
        ++ Stmt.sitesAll (.ofFunction parameters body :: frames) body
  | .build _ parameters body argument =>
      Stmt.sitesAll (.ofFunction parameters body :: frames) body ++ Expr.sites frames argument
  | statement => Expr.sitesAll frames statement.ownExpressions

/-- The sites of the expressions inside the statements of a list. -/
def Stmt.sitesAll (frames : List Frame) : List Stmt → List Site
  | [] => []
  | statement :: rest => Stmt.sites frames statement ++ Stmt.sitesAll frames rest

/-- The sites of the expressions after the body of a branch. -/
def Otherwise.sites (frames : List Frame) : Otherwise → List Site
  | .nothing => []
  | .block body => Stmt.sitesAll (.ofBlock body :: frames) body
  | .branch condition body otherwise =>
      Expr.sites frames condition ++ Stmt.sitesAll (.ofBlock body :: frames) body
        ++ Otherwise.sites frames otherwise

/-- The sites of the expressions inside the sections of a switch, which are one block. -/
def Section.sitesAll (frames : List Frame) : List Section → List Site
  | [] => []
  | .mk labels body :: rest =>
      Expr.sitesAll frames (labels.filterMap CaseLabel.value?) ++ Stmt.sitesAll frames body
        ++ Section.sitesAll frames rest
end

end ProtobufTypeScript.Target
