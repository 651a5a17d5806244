import ProtobufTypeScript.Proofs.Target.Marks
import ProtobufTypeScript.Target.SourceUnit

/-!
What units export. The code of an exported interface or object starts, below its comment, with a
line that says so and names it.
-/

namespace ProtobufTypeScript.Target

open SourceUnit

/-- Whether the code of an item exports a declaration of a name when symbols are given
names: below its comment it starts with a line that exports an interface or a constant of
that name.
-/
def Item.Exports (names : Symbol → String) (item : Item) (name : String) : Prop :=
  ∃ kind ∈ ["interface", "const"], ∃ comment rest lines,
    item.block.named names
    = (Option.map Line.doc comment).toList
      ++ .text ("export " ++ kind ++ " " ++ name ++ " " ++ rest) :: lines

/-- Whether a unit exports a declaration of a name in its text. -/
def SourceUnit.Exports (unit : SourceUnit) (name : String) : Prop :=
  ∃ item ∈ unit.items, item.Exports (nameOf (unit.importNames unit.references)) name

variable (names : Symbol → String)

/-- Code without marks is written as it stands, whatever names are chosen. -/
theorem Snippet.text_of_markFree {snippet : Snippet} (free : MarkFree snippet.written)
    : snippet.text names = String.ofList snippet.written := by
  rw [Snippet.text, resolve_of_markFree names free]

theorem Block.named_doc (comment : Option String)
    : (Block.doc comment).named names = (comment.map Line.doc).toList := by
  cases comment <;> rfl

/-- An item whose code opens with an exported declaration below its comment exports it. No
mark stands in that line, so that it is written as it is.
-/
theorem Item.exports_of_opening {item : Item} (kind tail rest : String) {name : String}
    {comment : Option String} {code : Block} (known : kind ∈ ["interface", "const"])
    (free : MarkFree name.toList)
    (plain : MarkFree tail.toList)
    (opened
      : item.block
        = Block.doc comment
          ++ (Block.opening [.plain ("export " ++ kind ++ " " ++ name ++ tail)] ++ code))
    (parted : tail ++ " \x7b" = " " ++ rest)
    : item.Exports names name := by
  refine ⟨kind, known, comment, rest, (Line.indent :: code).map (Line.map (Snippet.text names)), ?_⟩
  have kinds : ∀ kind ∈ ["interface", "const"], MarkFree kind.toList := by decide
  have clean
      : MarkFree
          (Snippet.written
            ([.plain ("export " ++ kind ++ " " ++ name ++ tail)] ++ [.plain " \x7b"])) := by
    simp only [Snippet.written, List.cons_append, List.nil_append, List.flatMap_cons,
      List.flatMap_nil, List.append_nil, String.toList_append, MarkFree.append_iff]
    exact ⟨⟨⟨⟨⟨by decide, kinds kind known⟩, by decide⟩, free⟩, plain⟩, by decide⟩
  have written
      : Snippet.text names
          ([.plain ("export " ++ kind ++ " " ++ name ++ tail)] ++ [.plain " \x7b"])
        = "export " ++ kind ++ " " ++ name ++ " " ++ rest := by
    rw [Snippet.text_of_markFree names clean, ← String.toList_inj, String.toList_ofList]
    have parts := congrArg String.toList parted
    rw [String.toList_append, String.toList_append] at parts
    simp only [Snippet.written, List.cons_append, List.nil_append, List.flatMap_cons,
      List.flatMap_nil, List.append_nil, String.toList_append, List.append_assoc, parts]
  rw [opened, ← written, Block.named, List.map_append, ← Block.named, Block.named_doc]
  rfl

/-- An exported interface without type parameters exports its name. -/
theorem Item.exports_interface {declared : Interface} (exported : declared.exported = true)
    (simple : declared.typeParams = []) (free : MarkFree declared.name.toList)
    : (Item.interface declared).Exports names declared.name := by
  have opened
      : (Item.interface declared).block
        = Block.doc declared.doc
          ++ (Block.opening [.plain ("export " ++ "interface" ++ " " ++ declared.name ++ "")]
            ++ (declared.properties.flatMap Property.code
              ++ declared.methods.flatMap (Function.code .signature) ++ Block.closing)) := by
    simp [Item.block, Interface.code, exported, simple, exportText, typeParamsText]
  exact exports_of_opening names "interface" "" "\x7b" (by decide) free (by decide) opened rfl

/-- The code of an exported object starts with its documentation and the line that exports
its name.
-/
theorem ObjectConst.code_eq (object : ObjectConst)
    : object.code
      = Block.doc object.doc
        ++ (Block.opening [.plain ("export " ++ "const" ++ " " ++ object.name ++ " =")]
          ++ (object.entries.flatMap Entry.code ++ Block.closingWith [.plain ";"])) := by
  simp [ObjectConst.code]

/-- An enum exports the name of its object. -/
theorem Item.exports_enumeration {declared : NumberedEnum}
    (free : MarkFree declared.object.name.toList)
    : (Item.enumeration declared).Exports names declared.object.name := by
  have opened : (Item.enumeration declared).block = declared.code := rfl
  rw [NumberedEnum.code, ObjectConst.code_eq, List.append_assoc, List.append_assoc,
    List.append_assoc] at opened
  exact exports_of_opening names "const" " =" "= \x7b" (by decide) free (by decide) opened rfl

end ProtobufTypeScript.Target
