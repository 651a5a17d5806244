import ProtobufTypeScript.Field.Classification
import ProtobufTypeScript.Proofs.Except
import ProtobufTypeScript.Proofs.Schema.Elements
import ProtobufTypeScript.Proofs.Schema.Traversal
import ProtobufTypeScript.Proofs.Text.Casing

/-!
Identifiers in generated code for names that are identifiers of the schema: those of fields, and
those of types, in which the names of the enclosing messages come first. Each of them is an
identifier, with one exception: camel case drops an underscore also where a digit needs it.
-/

namespace ProtobufTypeScript

namespace Options

/-- Whether a name is cased such that a digit comes first. -/
def exposesDigit (options : Options) (name : String) : Bool :=
  options.camelCase && Text.hidesDigit name

variable (options : Options) {name : String}

/-- An identifier of a schema stays one, unless the chosen conversion exposes a digit at
its start.
-/
theorem isIdentifier_identifier (identifier : Text.isIdentifier name = true)
    : Text.isIdentifier (options.identifier name) = !options.exposesDigit name := by
  unfold Options.identifier exposesDigit
  cases options.camelCase with
  | false => simpa using identifier
  | true => simpa using Text.isIdentifier_camelCase identifier

/-- No identifier is converted to nothing. -/
theorem identifier_ne_empty (identifier : Text.isIdentifier name = true)
    : options.identifier name ≠ "" := by
  unfold Options.identifier
  split
  · exact Text.camelCase_ne_empty identifier
  · exact Text.ne_empty_of_isIdentifier identifier

/-- A converted identifier is made of characters of identifiers. -/
theorem isWordPart_identifier (identifier : Text.isIdentifier name = true)
    : ∀ c ∈ (options.identifier name).toList, Text.isWordPart c = true := by
  unfold Options.identifier
  split
  · exact Text.isWordPart_camelCase identifier
  · exact Text.isWordPart_of_isIdentifier identifier

end Options

namespace Schema

variable {options : Options}

-----------------------------------------------------------------------------------------
-- The names of types
-----------------------------------------------------------------------------------------

/-- The last of the names of a type is its own one. Witness: a message hands this on to
its enums and to its messages.
-/
theorem File.exists_names_of_mem_placed {file : File} {placed : Placed}
    (declared : placed ∈ file.placed)
    : ∃ around, placed.names = around ++ [placed.definition.name?.getD ""] := by
  have handsOn
      : Message.HandsOn (fun _ _ _ => True)
          (fun placed => ∃ around, placed.names = around ++ [placed.definition.name?.getD ""]) :=
    ⟨fun _ => ⟨_, rfl⟩, fun _ _ => ⟨_, rfl⟩, fun _ _ => trivial⟩
  rcases File.mem_placed.mp declared with
    ⟨position, enumeration, -, rfl⟩ | ⟨position, message, -, inside⟩
  · exact ⟨[], rfl⟩
  · exact Message.forall_mem_placed handsOn message [] _ trivial placed inside

/-- The identifier of a type is one exactly if that of the outermost name is: the others
come behind it, with underscores between them.
-/
theorem Placed.isIdentifier_node {cursor : Cursor} {placed : Placed} {outermost : String}
    {inner : List String} (named : placed.names = outermost :: inner)
    (identifiers : ∀ name ∈ placed.names, Text.isIdentifier name = true)
    : Text.isIdentifier (placed.node options cursor).identifier
      = !options.exposesDigit outermost := by
  have parts
      : ∀ part ∈ options.identifier outermost :: inner.map options.identifier,
          ∀ c ∈ part.toList, Text.isWordPart c = true := by
    rw [← List.map_cons, ← named, List.forall_mem_map]
    exact fun name member => options.isWordPart_identifier (identifiers name member)
  have first := identifiers outermost (named ▸ List.mem_cons_self)
  calc Text.isIdentifier (placed.node options cursor).identifier
      = Text.isIdentifier
          ("_".intercalate (options.identifier outermost :: inner.map options.identifier)) := by
        rw [← List.map_cons, ← named]
        rfl
    _ = Text.isIdentifier (options.identifier outermost) :=
        Text.isIdentifier_intercalate (options.identifier_ne_empty first) parts
    _ = !options.exposesDigit outermost := options.isIdentifier_identifier first

-----------------------------------------------------------------------------------------
-- The types met on a walk
-----------------------------------------------------------------------------------------

/-- What is chosen to be visited is one of the types that are placed. -/
theorem mem_chosenNodes {cursor : Cursor} {chosen : Node → Bool} {types : List Placed}
    {node : Node} (member : node ∈ chosenNodes options cursor chosen types)
    : ∃ placed ∈ types, node = placed.node options cursor := by
  obtain ⟨placed, listed, rfl⟩ := List.mem_map.mp (List.mem_of_mem_filter member)
  exact ⟨placed, listed, rfl⟩

/-- A walk over types visits nothing else than their nodes, also when it ends early.
Witness: the three ways in which a walk ends.
-/
theorem Ending.exists_placed {σ : Type} {cursor : Cursor} {chosen : Node → Bool}
    {onNode : Visitor (StateM σ)} {types : List Placed} {before after : σ} {visited : List Node}
    {outcome : Except GenerationError Unit}
    (ending : Ending options cursor chosen onNode types before after visited outcome)
    : ∀ node ∈ visited, ∃ placed ∈ types, node = placed.node options cursor := by
  intro node member
  cases ending with
  | complete => exact mem_chosenNodes member
  | unnamed parted =>
      obtain ⟨placed, listed, same⟩ := mem_chosenNodes member
      exact ⟨placed, parted ▸ List.mem_append_left _ listed, same⟩
  | @failed earlier later last _ _ _ parted =>
      rcases List.mem_append.mp member with inEarlier | isLast
      · obtain ⟨placed, listed, same⟩ := mem_chosenNodes inEarlier
        exact ⟨placed, parted ▸ List.mem_append_left _ listed, same⟩
      · refine ⟨last, ?_, List.mem_singleton.mp isLast⟩
        rw [parted]
        exact List.mem_append_right _ List.mem_cons_self

/-- A walk over a file visits nothing else than the types declared there. -/
theorem File.exists_placed_of_visited {σ : Type} {file : File} {cursor : Cursor}
    {onNode : Visitor (StateM σ)} {before after : σ} {visited : List Node}
    {outcome : Except GenerationError Unit}
    (walked
      : (file.visit cursor options (recorded onNode)).run.run (before, [])
        = (outcome, after, visited))
    : ∀ node ∈ visited, ∃ placed ∈ file.placed, node = placed.node options cursor := by
  have inOrder :=
    (traverses_forM options cursor (fun _ => true) file.placed).of_eq
      (fun onNode => File.visit_placed onNode file cursor options)
  exact ((inOrder.ending onNode before after visited outcome).mp walked).exists_placed

-----------------------------------------------------------------------------------------
-- Valid identifiers
-----------------------------------------------------------------------------------------

/-- What is made of identifiers is an identifier again, for names, for the properties of
fields and for the types met on a walk at any depth, exactly if camel case leaves no digit
in the first place; of the names of a type only the outermost one matters.
-/
theorem identifiers_stay_valid_iff (options : Options)
    : (∀ name, Text.isIdentifier name = true
        → (Text.isIdentifier (options.identifier name) = true ↔ options.exposesDigit name = false))
      ∧ (∀ registry message field shape, Text.isIdentifier field.name = true
        → Field.shapeOf registry options message field = .ok shape
        → (Text.isIdentifier shape.name = true ↔ options.exposesDigit field.name = false))
      ∧ ∀ {σ : Type} (file : File) (cursor : Cursor) (onNode : Visitor (StateM σ))
          (before after : σ) (visited : List Node) (outcome : Except GenerationError Unit),
          (file.visit cursor options (recorded onNode)).run.run (before, [])
              = (outcome, after, visited)
          → ∀ node ∈ visited, ∃ placed ∈ file.placed, ∃ outermost inner,
              node = placed.node options cursor
              ∧ placed.names = outermost :: inner
              ∧ ((∀ name ∈ placed.names, Text.isIdentifier name = true)
                → (Text.isIdentifier node.identifier = true
                  ↔ options.exposesDigit outermost = false)) := by
  have named (name : String) (identifier : Text.isIdentifier name = true)
      : Text.isIdentifier (options.identifier name) = true
        ↔ options.exposesDigit name = false := by
    rw [options.isIdentifier_identifier identifier, Bool.not_eq_true']
  refine ⟨named, ?_, ?_⟩
  · intro registry message field shape identifier classified
    obtain ⟨kind, -, classified⟩ := bind_eq_ok.mp classified
    cases classified
    exact named field.name identifier
  · intro σ file cursor onNode before after visited outcome walked node member
    obtain ⟨placed, declared, same⟩ := File.exists_placed_of_visited walked node member
    obtain ⟨around, names⟩ := File.exists_names_of_mem_placed declared
    have some : placed.names ≠ [] := by simp [names]
    obtain ⟨outermost, inner, parted⟩ := List.exists_cons_of_ne_nil some
    refine ⟨placed, declared, outermost, inner, same, parted, fun identifiers => ?_⟩
    rw [same, Placed.isIdentifier_node parted identifiers, Bool.not_eq_true']

/-- An underscore in front of a digit: the field and the outer message lose it and are
left with the digit, while the inner message keeps a letter in front of its own.
-/
theorem identifiers_stay_valid_iff_first
    : let options : Options := {}
      let field : Schema.Field := { name := "_1st" }
      let file : File :=
        {
          name := "race.proto"
          messages :=
            [
              { name := "_1st", nested := [{ name := "Lap" }] },
              { name := "Race", nested := [{ name := "_2nd" }] }
            ]
        }
      let onNode : Visitor (StateM Unit) := fun _ => pure ()
      Text.isIdentifier "_1st" = true
      ∧ ¬ Text.isIdentifier (options.identifier "_1st") = true
      ∧ (∃ shape,
          Field.shapeOf {} options {} field = .ok shape
          ∧ shape.name = "1st"
          ∧ ¬ Text.isIdentifier shape.name = true)
      ∧ ∃ visited,
          (file.visit .blind options (recorded onNode)).run.run ((), [])
              = (.ok (), (), visited)
          ∧ visited.map Node.identifier = ["1st", "1st_Lap", "Race", "Race_2nd"]
          ∧ ∀ node ∈ visited, ∃ placed ∈ file.placed, ∃ outermost inner,
              node = placed.node options .blind
              ∧ placed.names = outermost :: inner
              ∧ (∀ name ∈ placed.names, Text.isIdentifier name = true)
              ∧ (Text.isIdentifier node.identifier = true
                ↔ options.exposesDigit outermost = false) := by
  intro options field file onNode
  obtain ⟨named, classified, met⟩ := identifiers_stay_valid_iff options
  have identifier : Text.isIdentifier "_1st" = true := by decide
  have exposed : ¬ options.exposesDigit "_1st" = false := by decide
  have identifiers
      : ∀ placed ∈ file.placed, ∀ name ∈ placed.names, Text.isIdentifier name = true := by
    decide +kernel
  let run := (file.visit .blind options (recorded onNode)).run.run ((), [])
  have walked : run = (.ok (), (), run.2.2) := rfl
  refine ⟨identifier, ?_, ?_, run.2.2, walked, by decide +kernel, ?_⟩
  · exact fun valid => exposed ((named _ identifier).mp valid)
  · have shaped : ∃ shape, Field.shapeOf {} options {} field = .ok shape := ⟨_, rfl⟩
    obtain ⟨shape, shaped⟩ := shaped
    have first : options.identifier "_1st" = "1st" := by decide +kernel
    refine ⟨shape, shaped, ?_, fun valid => ?_⟩
    · cases shaped
      exact first
    · exact exposed ((classified _ _ field shape identifier shaped).mp valid)
  · intro node member
    obtain ⟨placed, declared, outermost, inner, same, parted, valid⟩ :=
      met file .blind onNode _ _ _ _ walked node member
    exact ⟨placed, declared, outermost, inner, same, parted, identifiers placed declared,
      valid (identifiers placed declared)⟩

end Schema

end ProtobufTypeScript
