import ProtobufTypeScript.Target.Block
import ProtobufTypeScript.Target.Expr

/-!
Statements and the code lines they stand for. The bodies of loops, branches, switch sections and
functions passed as arguments are lists of statements.
-/

namespace ProtobufTypeScript.Target

/-- A parameter of a function passed as an argument. -/
inductive Binding where
  | single (name : String)
  | pair (first second : String)
deriving DecidableEq, Repr

/-- A label in a switch. -/
inductive CaseLabel where
  | case (value : Expr)
  | default
deriving Repr

mutual
inductive Stmt where
  | expression (value : Expr)
  | const (name : String) (type : Option TypeExpr) (value : Expr)
  | mutable (name : String) (value : Expr)
  | assign (target value : Expr)
  | increase (target value : Expr)
  | result (value : Expr)
  | raise (value : Expr)
  /-- Leaves the enclosing switch. -/
  | leave
  | branch (condition : Expr) (body : List Stmt) (otherwise : Otherwise)
  | loop (condition : Expr) (body : List Stmt)
  | each (name : String) (values : Expr) (body : List Stmt)
  | choose (subject : Expr) (sections : List Section)
  /-- A call whose last argument is a function; its result may be given a name. -/
  | callback (name : Option String) (callee : Expr) (arguments : List Expr) (isAsync : Bool)
      (parameters : List Binding) (body : List Stmt)
  /-- Returns a new object made from a function and one more argument. -/
  | build (type : TypeExpr) (parameters : List Binding) (body : List Stmt) (argument : Expr)

/-- What follows a branch whose condition is false. -/
inductive Otherwise where
  | nothing
  | block (body : List Stmt)
  | branch (condition : Expr) (body : List Stmt) (otherwise : Otherwise)

/-- Labels of a switch and the statements after them. -/
inductive Section where
  | mk (labels : List CaseLabel) (body : List Stmt)
end

/-- How a parameter is written. -/
def Binding.text : Binding → String
  | .single name => name
  | .pair first second => "[" ++ first ++ ", " ++ second ++ "]"

/-- How the parameters and the arrow of a function are written. -/
def Binding.header (parameters : List Binding) : Snippet :=
  [.plain ("(" ++ ", ".intercalate (parameters.map Binding.text) ++ ") =>")]

/-- How a label is written. -/
def CaseLabel.snippet : CaseLabel → Snippet
  | .case value => [.plain "case "] ++ value.snippet ++ [.plain ":"]
  | .default => [.plain "default:"]

/-- How the condition of a branch is written. -/
def conditionSnippet (keyword : String) (condition : Expr) : Snippet :=
  [.plain (keyword ++ " (")] ++ condition.snippet ++ [.plain ")"]

/-- How the start of a constant declaration is written. -/
def constSnippet (name : String) (type : Option TypeExpr) : Snippet :=
  match type with
  | some type => [.plain ("const " ++ name ++ ": ")] ++ type.snippet ++ [.plain " = "]
  | none => [.plain ("const " ++ name ++ " = ")]

/-- How the start of a call with a function as its last argument is written. -/
def callbackSnippet (name : Option String) (callee : Expr) (arguments : List Expr) (isAsync : Bool)
    (parameters : List Binding)
    : Snippet :=
  (match name with
    | some name => constSnippet name none
    | none => [])
    ++ callee.snippet ++ [.plain "("]
    ++ arguments.flatMap (fun argument => argument.snippet ++ [.plain ", "])
    ++ (if isAsync then [.plain "async "] else [])
    ++ Binding.header parameters

mutual
/-- The code of a statement. -/
def Stmt.code : Stmt → Block
  | .expression value => Block.statement value.snippet
  | .const name type value => Block.statement (constSnippet name type ++ value.snippet)
  | .mutable name value => Block.statement ([.plain ("let " ++ name ++ " = ")] ++ value.snippet)
  | .assign target value => Block.statement (target.snippet ++ [.plain " = "] ++ value.snippet)
  | .increase target value => Block.statement (target.snippet ++ [.plain " += "] ++ value.snippet)
  | .result value => Block.statement ([.plain "return "] ++ value.snippet)
  | .raise value => Block.statement ([.plain "throw "] ++ value.snippet)
  | .leave => Block.statement [.plain "break"]
  | .branch condition body otherwise =>
      Block.opening (conditionSnippet "if" condition) ++ Stmt.codeAll body
        ++ Otherwise.code otherwise
  | .loop condition body =>
      Block.opening (conditionSnippet "while" condition) ++ Stmt.codeAll body ++ Block.closing
  | .each name values body =>
      Block.opening ([.plain ("for (const " ++ name ++ " of ")] ++ values.snippet ++ [.plain ")"])
        ++ Stmt.codeAll body ++ Block.closing
  | .choose subject sections =>
      Block.opening (conditionSnippet "switch" subject) ++ Section.codeAll sections
        ++ Block.closing
  | .callback name callee arguments isAsync parameters body =>
      Block.opening (callbackSnippet name callee arguments isAsync parameters)
        ++ Stmt.codeAll body ++ Block.closingWith [.plain ");"]
  | .build type parameters body argument =>
      Block.line ([.plain "return new "] ++ type.snippet ++ [.plain "("]) ++ [.indent]
        ++ Block.opening (Binding.header parameters) ++ Stmt.codeAll body
        ++ Block.closingWith [.plain ","] ++ Block.line argument.snippet ++ [.dedent]
        ++ Block.statement [.plain ")"]

/-- The code of statements in sequence. -/
def Stmt.codeAll : List Stmt → Block
  | [] => []
  | statement :: rest => Stmt.code statement ++ Stmt.codeAll rest

/-- The code after the body of a branch, including its closing brace. -/
def Otherwise.code : Otherwise → Block
  | .nothing => Block.closing
  | .block body => Block.between [.plain "else"] ++ Stmt.codeAll body ++ Block.closing
  | .branch condition body otherwise =>
      Block.between (conditionSnippet "else if" condition) ++ Stmt.codeAll body
        ++ Otherwise.code otherwise

/-- The code of switch sections: each label on a line, the statements indented below. -/
def Section.codeAll : List Section → Block
  | [] => []
  | .mk labels body :: rest =>
      labels.map (fun label => .text label.snippet) ++ [.indent] ++ Stmt.codeAll body
        ++ [.dedent] ++ Section.codeAll rest
end

namespace Stmt

/-- A branch with nothing to do if the condition is false. -/
def when (condition : Expr) (body : List Stmt) : Stmt :=
  .branch condition body .nothing

/-- A branch with two bodies. -/
def either (condition : Expr) (yes no : List Stmt) : Stmt :=
  .branch condition yes (.block no)

end Stmt

end ProtobufTypeScript.Target
