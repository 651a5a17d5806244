import ProtobufTypeScript.Proofs.Target.Undocumented

/-!
Where documentation comments stand in blocks. Each stands directly before the line that opens what
it is about, and nothing else in a block is documented: statements hold no such comments, and
declarations have their own before their headers.
-/

namespace ProtobufTypeScript.Target

/-- Whether the comments of a block are those expected, in order. Each belongs to a line
with a given beginning, and stands directly before it; other lines have no comment.
-/
inductive Shows : Block → List (String × Option String) → Prop
  | nil
    : Shows [] []
  | bare {line : Line Snippet} {rest : Block} {expected : List (String × Option String)}
    (code : line.isDoc = false) (later : Shows rest expected)
    : Shows (line :: rest) expected
  | commented {rest : Block} {expected : List (String × Option String)}
    (comment : Option String) (beginning : String) (pieces : Snippet)
    (later : Shows rest expected)
    : Shows (Block.doc comment ++ .text (.plain beginning :: pieces) :: rest)
        ((beginning, comment) :: expected)

namespace Shows

variable {block first second : Block} {expected before after : List (String × Option String)}

/-- What blocks show stays in order when one follows the other, by induction on the first.
-/
theorem append (left : Shows first before) (right : Shows second after)
    : Shows (first ++ second) (before ++ after) := by
  induction left with
  | nil => exact right
  | bare code _ ih => exact .bare code ih
  | commented comment beginning pieces _ ih =>
      rw [List.append_assoc]
      exact .commented comment beginning pieces ih

/-- Blocks that show one comment each show these in sequence, by induction on what they
stand for.
-/
theorem map {α : Type} {values : List α} {code : α → Block} {shown : α → String × Option String}
    (each : ∀ value ∈ values, Shows (code value) [shown value])
    : Shows (values.flatMap code) (values.map shown) := by
  induction values with
  | nil => exact .nil
  | cons value rest ih =>
      obtain ⟨here, later⟩ := List.forall_mem_cons.mp each
      exact here.append (ih later)

end Shows

-----------------------------------------------------------------------------------------
-- Statements
-----------------------------------------------------------------------------------------

theorem shows_statement (text : Snippet)
    : Shows (Block.statement text) [] :=
  .bare rfl .nil

theorem shows_closingWith (tail : Snippet)
    : Shows (Block.closingWith tail) [] :=
  .bare rfl (.bare rfl .nil)

/-- A part with a header shows no comments if neither what stands inside nor its end does.
-/
theorem shows_opening (header : Snippet) {body closing : Block} (inner : Shows body [])
    (ending : Shows closing [])
    : Shows (Block.opening header ++ body ++ closing) [] :=
  (Shows.append (.bare rfl (.bare rfl .nil)) inner).append ending

/-- A part with a header between two others shows no comments if neither what stands
inside nor its end does.
-/
theorem shows_between (header : Snippet) {body closing : Block} (inner : Shows body [])
    (ending : Shows closing [])
    : Shows (Block.between header ++ body ++ closing) [] :=
  (Shows.append (.bare rfl (.bare rfl (.bare rfl .nil))) inner).append ending

mutual
/-- The code of a statement shows no comments, at any depth. Witness: recursion on the
statement, along with the statement for lists and for sections.
-/
theorem shows_stmt : ∀ statement : Stmt, Shows statement.code []
  | .expression _ => shows_statement _
  | .const _ _ _ => shows_statement _
  | .mutable _ _ => shows_statement _
  | .assign _ _ => shows_statement _
  | .increase _ _ => shows_statement _
  | .result _ => shows_statement _
  | .raise _ => shows_statement _
  | .leave => shows_statement _
  | .branch _ body otherwise => shows_opening _ (shows_stmts body) (shows_otherwise otherwise)
  | .loop _ body => shows_opening _ (shows_stmts body) (shows_closingWith _)
  | .each _ _ body => shows_opening _ (shows_stmts body) (shows_closingWith _)
  | .choose _ sections => shows_opening _ (shows_sections sections) (shows_closingWith _)
  | .callback _ _ _ _ _ body => shows_opening _ (shows_stmts body) (shows_closingWith _)
  | .build type parameters body argument => by
      have function :=
        shows_opening (Binding.header parameters) (shows_stmts body)
          (shows_closingWith [.plain ","])
      have start
          : Shows
              (Block.line ([.plain "return new "] ++ type.snippet ++ [.plain "("]) ++ [.indent])
              [] :=
        .bare rfl (.bare rfl .nil)
      have close
          : Shows (Block.line argument.snippet ++ [.dedent] ++ Block.statement [.plain ")"]) [] :=
        .bare rfl (.bare rfl (.bare rfl .nil))
      simpa [Stmt.code] using (start.append function).append close

/-- The code of statements in sequence shows no comments. -/
theorem shows_stmts : ∀ statements : List Stmt, Shows (Stmt.codeAll statements) []
  | [] => .nil
  | statement :: rest => (shows_stmt statement).append (shows_stmts rest)

/-- The code after the body of a branch shows no comments. -/
theorem shows_otherwise : ∀ otherwise : Otherwise, Shows otherwise.code []
  | .nothing => shows_closingWith _
  | .block body => shows_between _ (shows_stmts body) (shows_closingWith _)
  | .branch _ body otherwise => shows_between _ (shows_stmts body) (shows_otherwise otherwise)

/-- The code of switch sections shows no comments. -/
theorem shows_sections : ∀ sections : List Section, Shows (Section.codeAll sections) []
  | [] => .nil
  | .mk labels body :: rest => by
      have start : Shows (labels.map (fun label => .text label.snippet)) [] := by
        induction labels with
        | nil => exact .nil
        | cons label others ih => exact .bare rfl ih
      have inner : Shows ([.indent] ++ Stmt.codeAll body ++ [.dedent]) [] :=
        (Shows.append (.bare rfl .nil) (shows_stmts body)).append (.bare rfl .nil)
      simpa [Section.codeAll] using (start.append inner).append (shows_sections rest)
end

-----------------------------------------------------------------------------------------
-- Declarations
-----------------------------------------------------------------------------------------

/-- A block behind its documentation, with a header that begins in a given way, shows what
stands inside after the comment on itself.
-/
theorem Shows.around {inner : Block} {expected : List (String × Option String)}
    (comment : Option String) (beginning : String) (pieces tail : Snippet)
    (shown : Shows inner expected)
    : Shows
        (Block.doc comment ++ Block.opening (.plain beginning :: pieces) ++ inner
          ++ Block.closingWith tail)
        ((beginning, comment) :: expected) := by
  have start
      : Shows (Block.doc comment ++ Block.opening (.plain beginning :: pieces))
          [(beginning, comment)] :=
    .commented comment beginning _ (.bare rfl .nil)
  simpa using (start.append shown).append (shows_closingWith tail)

/-- How the line of a function begins: with its name and the start of its parameters. -/
def Function.beginning (function : Function) : String :=
  function.name ++ typeParamsText function.typeParams ++ "("

/-- A signature shows the comment on it. -/
theorem shows_signature (function : Function)
    : Shows (function.code .signature) [(function.beginning, function.doc)] :=
  .commented function.doc function.beginning _ .nil

/-- A signature without a comment shows none. -/
theorem shows_bareSignature {function : Function} (bare : function.doc = none)
    : Shows (function.code .signature) [] := by
  rw [Function.code, bare]
  exact shows_statement _

/-- A property shows the comment on it. -/
theorem shows_property {property : Property} (plain : property.modifiers = [])
    (always : property.optional = false)
    : Shows property.code [(property.name ++ ": ", property.doc)] := by
  have shown : Shows _ [(property.name ++ ": ", property.doc)] :=
    .commented property.doc (property.name ++ ": ") (property.type.snippet ++ [.plain ";"]) .nil
  simpa [Property.code, plain, always, Block.statement] using shown

/-- How the first line of an interface begins. -/
def Interface.beginning (interface : Interface) : String :=
  exportText interface.exported ++ "interface " ++ interface.name
    ++ typeParamsText interface.typeParams

/-- An interface shows the comment on it, then those on its parts. -/
theorem shows_interface {interface : Interface} {properties methods : List (String × Option String)}
    (first : Shows (interface.properties.flatMap Property.code) properties)
    (second : Shows (interface.methods.flatMap (Function.code .signature)) methods)
    : Shows interface.code
        ((interface.beginning, interface.doc) :: (properties ++ methods)) := by
  have parts := Shows.around interface.doc interface.beginning [] [] (first.append second)
  simpa [Interface.code, Block.closing, Interface.beginning] using parts

/-- An entry with a value shows the comment on it. -/
theorem shows_value (comment : Option String) (name : String) (content : Expr)
    : Shows (Entry.code (.value comment name content)) [(name ++ ": ", comment)] :=
  .commented comment (name ++ ": ") _ .nil

/-- A function inside an object, without documentation, shows no comments. -/
theorem shows_method (function : Function) (bare : function.doc = none)
    (body : Shows function.body.lines [])
    : Shows (Entry.code (.method function)) [] := by
  have parts := shows_opening function.header body (shows_closingWith [.plain ","])
  simpa [Entry.code, Function.code, bare, Block.doc] using parts

/-- An enum shows the comment on it, then those on its members; its type has none. -/
theorem shows_enumeration {declared : NumberedEnum} {members : List (String × Option String)}
    (entries : Shows (declared.object.entries.flatMap Entry.code) members)
    : Shows declared.code
        (("export const " ++ declared.object.name ++ " =", declared.object.doc) :: members) := by
  have object :=
    Shows.around declared.object.doc ("export const " ++ declared.object.name ++ " =") []
      [.plain ";"] entries
  have numbers (text : Snippet) : Shows ([.blank] ++ Block.statement text) [] :=
    .bare rfl (.bare rfl .nil)
  simpa [NumberedEnum.code, ObjectConst.code] using object.append (numbers _)

end ProtobufTypeScript.Target
