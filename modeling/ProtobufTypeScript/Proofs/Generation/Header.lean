import ProtobufTypeScript.Proofs.Generation.Generated
import ProtobufTypeScript.Proofs.Target.Comments

/-!
The comment at the head of a unit, as the reader of the target language sees it. That language ends
a line also at a carriage return and at the two separators of Unicode, where a comment of the schema
goes on with the same line. What follows such a character there is no longer commented out.
-/

namespace ProtobufTypeScript

open Schema Target

namespace Target

/-- Whether a line ends at a character in the target language. -/
def isLineEnd (c : Char) : Bool :=
  c == '\n' || c == '\r' || c == '\u2028' || c == '\u2029'

/-- The lines of a text in the target language. -/
def codeLines (text : String) : List (List Char) :=
  text.toList.splitOnP isLineEnd

/-- Whether a line holds no code: it is empty or a line comment. -/
def IsCodeless (line : List Char) : Prop :=
  line = [] ∨ "//".toList <+: line

instance (line : List Char) : Decidable (IsCodeless line) :=
  inferInstanceAs (Decidable (_ ∨ _))

/-- The lines of texts with a feed behind each of them are those of the texts one by one,
and an empty one after the last feed, by induction on the texts.
-/
theorem codeLines_join_feeds (texts : List String)
    : codeLines (String.join (texts.map (· ++ "\n"))) = texts.flatMap codeLines ++ [[]] := by
  induction texts with
  | nil => rfl
  | cons text rest ih =>
      have fed
          : (String.join ((text :: rest).map (· ++ "\n"))).toList
            = text.toList ++ '\n' :: (String.join (rest.map (· ++ "\n"))).toList := by
        simp
      rw [codeLines, fed, List.splitOnP_append_cons _ _ (by decide), List.flatMap_cons,
        List.append_assoc, ← ih]
      rfl

/-- Slashes in front of a line comment out what it holds up to its first line end. -/
theorem codeLines_slashes (line : String)
    : codeLines ("// " ++ line) = (codeLines line).modifyHead ("// ".toList ++ ·) := by
  have start : ("// " ++ line).toList = '/' :: '/' :: ' ' :: line.toList := by simp
  obtain ⟨first, others, parted⟩ :=
    List.exists_cons_of_ne_nil (List.splitOnP_ne_nil isLineEnd line.toList)
  rw [codeLines, codeLines, start, List.splitOnP_cons_eq_if_modifyHead,
    List.splitOnP_cons_eq_if_modifyHead, List.splitOnP_cons_eq_if_modifyHead, parted]
  rfl

/-- A remark holds no code exactly if none of its lines after the first one does, since
the first one stands behind slashes. An empty line has slashes alone.
-/
theorem forall_codeLines_remark (line : String)
    : (∀ part ∈ codeLines (if line.isEmpty then "//" else "// " ++ line), IsCodeless part)
      ↔ ∀ part ∈ (codeLines line).tail, IsCodeless part := by
  split
  · rename_i empty
    have nothing : line = "" := by simpa using empty
    subst nothing
    decide
  · obtain ⟨first, others, parted⟩ :=
      List.exists_cons_of_ne_nil (List.splitOnP_ne_nil isLineEnd line.toList)
    have commented : IsCodeless ("// ".toList ++ first) := .inr ⟨' ' :: first, by simp⟩
    rw [codeLines_slashes, codeLines, parted, List.modifyHead_cons, List.forall_mem_cons]
    exact and_iff_right commented

/-- Line comments hold no code exactly if nothing else than comments and empty lines
follows the first line end, in the target language, within any of their lines.
-/
theorem forall_codeLines_lineComment (comment : String)
    : (∀ line ∈ codeLines (Layout.lineComment 0 comment), IsCodeless line)
      ↔ ∀ line ∈ Text.lines comment, ∀ part ∈ (codeLines line).tail, IsCodeless part := by
  have unindented (content : String) : Layout.indentation 0 ++ content = content := by
    simp [Layout.indentation]
  rw [Layout.lineComment_eq_join, codeLines_join_feeds, Layout.remarkLines, List.flatMap_map,
    List.forall_mem_append, List.forall_mem_flatMap]
  simp only [unindented, forall_codeLines_remark]
  exact and_iff_left (List.forall_mem_singleton.mpr (.inl rfl))

/-- A unit starts with its comment, if it has one. -/
theorem SourceUnit.exists_render (unit : SourceUnit)
    : ∃ rest, unit.render = (unit.header.map (Layout.lineComment 0)).getD "" ++ rest := by
  let imports := unit.importNames unit.references
  unfold SourceUnit.render SourceUnit.heading
  cases unit.header with
  | none => exact ⟨_, String.empty_append.symm⟩
  | some comment => exact ⟨_, String.join_cons⟩

end Target

namespace Generation

/-- A unit starts with the comment of the syntax statement of its file, as line comments.
The target language reads no code from it exactly if nothing else than comments and empty
lines stands behind a carriage return, or a separator of Unicode, within a line of the
comment.
-/
theorem header_holds_no_code_iff {request : Request} {file : File} {unit : SourceUnit}
    (generated : Generated request file unit)
    : ∃ written rest,
        unit.render = written ++ rest
        ∧ written
          = ((((Cursor.root file).lookupSingle Child.syntaxOfFile).text).map
              (Layout.lineComment 0)).getD ""
        ∧ ((∀ line ∈ codeLines written, IsCodeless line)
          ↔ ∀ comment ∈ ((Cursor.root file).lookupSingle Child.syntaxOfFile).text,
              ∀ line ∈ Text.lines comment, ∀ part ∈ (codeLines line).tail, IsCodeless part) := by
  obtain ⟨registry, -, made⟩ := generated.made
  obtain ⟨rest, written⟩ := unit.exists_render
  rw [(heading_of_unit made).2.1] at written
  refine ⟨_, rest, written, rfl, ?_⟩
  cases ((Cursor.root file).lookupSingle Child.syntaxOfFile).text with
  | none =>
      have nothing : ∀ line ∈ codeLines "", IsCodeless line := by decide
      exact iff_of_true nothing nofun
  | some comment => simpa using forall_codeLines_lineComment comment

/-- A comment that goes on behind a carriage return: what stands there is read as code. -/
theorem header_holds_no_code_iff_carriage_return
    : let file : File :=
        {
          name := "shop.proto"
          messages := [{ name := "Cart" }]
          locations := [{ path := [12], leading := some " Carts.\rthrow 'none';\n" }]
        }
      let request : Request := { files := [file] }
      ∃ unit written rest,
        Generated request file unit
        ∧ unit.render = written ++ rest
        ∧ written = "// Carts.\rthrow 'none';\n"
        ∧ ¬ ∀ line ∈ codeLines written, IsCodeless line := by
  intro file request
  have found : (unit? request file).map (fun _ => true) = some true := by decide +kernel
  obtain ⟨unit, generated, -⟩ := exists_generated_of_unit? List.mem_cons_self rfl found
  obtain ⟨written, rest, render, same, codeless⟩ := header_holds_no_code_iff generated
  have text
      : ((Cursor.root file).lookupSingle Child.syntaxOfFile).text
        = some "Carts.\rthrow 'none';" := by
    decide +kernel
  rw [text] at same codeless
  refine ⟨unit, written, rest, generated, render, same.trans (by decide +kernel), fun all => ?_⟩
  have inText : "Carts.\rthrow 'none';" ∈ Text.lines "Carts.\rthrow 'none';" := by decide +kernel
  have inLine : "throw 'none';".toList ∈ (codeLines "Carts.\rthrow 'none';").tail := by
    decide +kernel
  have code : ¬ IsCodeless "throw 'none';".toList := by decide
  exact code (codeless.mp all _ rfl _ inText _ inLine)

end Generation

end ProtobufTypeScript
