import ProtobufTypeScript.Proofs.Text.Feeds
import ProtobufTypeScript.Proofs.Text.Occurrences
import ProtobufTypeScript.Target.Layout

/-!
Comments as they are laid out. Each comment is written as lines of its own, with the indentation in
front and a feed behind. A block of tidy lines, none of which closes it early, is closed by the last
of its lines.
-/

namespace ProtobufTypeScript.Target.Layout

open Text (occurrences isSpace)

variable {depth : Nat}

-----------------------------------------------------------------------------------------
-- The lines of a comment
-----------------------------------------------------------------------------------------

/-- The lines that a documentation comment is written as. -/
def docLines (depth : Nat) : List String → List String
  | [] => []
  | [single] => [indentation depth ++ ("/** " ++ single ++ " */")]
  | lines =>
      [indentation depth ++ "/**"]
        ++ lines.map (fun line => indentation depth ++ if line.isEmpty then " *" else " * " ++ line)
        ++ [indentation depth ++ " */"]

/-- The lines that line comments are written as. -/
def remarkLines (depth : Nat) (lines : List String) : List String :=
  lines.map (fun line => indentation depth ++ if line.isEmpty then "//" else "// " ++ line)

/-- A text with a character that is no blank is written with its indentation. -/
theorem textLine_of_mem {text : String} {c : Char} (member : c ∈ text.toList)
    (solid : isSpace c = false)
    : textLine depth text = indentation depth ++ text ++ "\n" := by
  rw [textLine, if_neg]
  intro blank
  have space := List.all_eq_true.mp blank c member
  rw [solid] at space
  cases space

/-- A line of a comment block is written behind its star, which keeps it from being blank.
-/
theorem docLine_eq (line : String)
    : docLine depth line
      = (indentation depth ++ if line.isEmpty then " *" else " * " ++ line) ++ "\n" := by
  refine textLine_of_mem (c := '*') ?_ (by decide)
  split <;> simp

/-- A documentation comment is its lines with a feed behind each of them. A comment
without lines, with one and with more are the cases.
-/
theorem docComment_eq_join (depth : Nat) (comment : String)
    : docComment depth comment
      = String.join ((docLines depth (Text.lines comment)).map (· ++ "\n")) := by
  unfold docComment
  split
  · rename_i none
    rw [none]
    rfl
  · rename_i single only
    rw [only, textLine_of_mem (c := '*') (by simp) (by decide)]
    simp [docLines]
  · rename_i none several
    have written
        : docLines depth (Text.lines comment)
          = [indentation depth ++ "/**"]
            ++ (Text.lines comment).map
                (fun line => indentation depth ++ if line.isEmpty then " *" else " * " ++ line)
            ++ [indentation depth ++ " */"] := by
      rw [docLines]
      · exact none
      · exact several
    rw [written, textLine_of_mem (c := '*') (by simp) (by decide),
      textLine_of_mem (c := '*') (by simp) (by decide), funext docLine_eq]
    simp [Function.comp_def, String.append_assoc]

/-- Line comments are their lines with a feed behind each of them. -/
theorem lineComment_eq_join (depth : Nat) (comment : String)
    : lineComment depth comment
      = String.join ((remarkLines depth (Text.lines comment)).map (· ++ "\n")) := by
  rw [lineComment, remarkLines, List.map_map]
  congr 1
  refine List.map_congr_left (fun line _ => ?_)
  refine textLine_of_mem (c := '/') ?_ (by decide)
  split
  · decide
  · simp

-----------------------------------------------------------------------------------------
-- Comment blocks
-----------------------------------------------------------------------------------------

/-- What closes a comment block. -/
abbrev terminator : List Char :=
  ['*', '/']

/-- Whether a text is a comment block at a depth that its last line closes, and nothing
before.
-/
structure ClosesAtEnd (depth : Nat) (written : String) : Prop where
  opens : (indentation depth ++ "/**").toList <+: written.toList
  once : occurrences terminator written.toList = 1
  /-- The text consists of lines, the last of which closes the block. -/
  lines
    : ∃ lines last,
        Text.partsAt '\n' written = lines ++ [last] ++ [""]
        ∧ terminator <:+ last.toList
        ∧ ∀ line ∈ lines ++ [last],
            (indentation depth).toList <+: line.toList
            ∧ ∀ c ∈ line.toList.getLast?, isSpace c = false

/-- Whether lines can stand in a comment block as they are: none of them has a feed of its
own, closes the block or has white space at its end, and the first and the last one are
not empty.
-/
structure IsTidy (lines : List (List Char)) : Prop where
  unfed : ∀ line ∈ lines, '\n' ∉ line
  harmless : ∀ line ∈ lines, occurrences terminator line = 0
  trimmed : ∀ line ∈ lines, ∀ c ∈ line.getLast?, isSpace c = false
  first : ∃ line ∈ lines.head?, line ≠ []
  last : ∃ line ∈ lines.getLast?, line ≠ []

-----------------------------------------------------------------------------------------
-- Tidy lines make a comment block
-----------------------------------------------------------------------------------------

/-- Whether a text is a line of a comment block at a depth and closes the block as often
as given.
-/
structure IsBlockLine (depth closes : Nat) (line : String) : Prop where
  unfed : '\n' ∉ line.toList
  closes : occurrences terminator line.toList = closes
  indented : (indentation depth).toList <+: line.toList
  trimmed : ∀ c ∈ line.toList.getLast?, isSpace c = false

/-- Indentation does not make or break lines of a comment block, as it holds neither line
feeds nor terminators.
-/
theorem isBlockLine_indentation_append {closes : Nat} {content : String} (last : Char)
    (ends : content.toList.getLast? = some last) (solid : isSpace last = false)
    (unfed : '\n' ∉ content.toList) (found : occurrences terminator content.toList = closes)
    : IsBlockLine depth closes (indentation depth ++ content) := by
  have spaces : (indentation depth).toList = List.replicate (2 * depth) ' ' := String.toList_ofList
  constructor
  · rw [String.toList_append, spaces, List.mem_append, not_or]
    refine ⟨fun member => ?_, unfed⟩
    exact absurd (List.eq_of_mem_replicate member) (by decide)
  · rw [String.toList_append, spaces,
      Text.occurrences_replicate_append (by decide) (by decide)]
    exact found
  · rw [String.toList_append]
    exact List.prefix_append _ _
  · intro c final
    rw [String.toList_append, List.getLast?_append, ends] at final
    cases final
    exact solid

variable {lines : List (List Char)}

/-- A line inside a comment block does not close it. An empty line is written as a star
alone, any other behind a star and a space.
-/
theorem isBlockLine_docLine (depth : Nat) {line : List Char} (unfed : '\n' ∉ line)
    (harmless : occurrences terminator line = 0)
    (trimmed : ∀ c ∈ line.getLast?, isSpace c = false)
    : IsBlockLine depth 0
        (indentation depth
          ++ if (String.ofList line).isEmpty then " *" else " * " ++ String.ofList line) := by
  by_cases empty : line = []
  · subst empty
    exact isBlockLine_indentation_append '*' (by decide) (by decide) (by decide) (by decide)
  · have written : (" * " ++ String.ofList line).toList = [' ', '*'] ++ ' ' :: line := by simp
    rw [if_neg (by simpa using empty)]
    have final : line.getLast? = some (line.getLast empty) := List.getLast?_eq_some_getLast empty
    refine isBlockLine_indentation_append (line.getLast empty) ?_ (trimmed _ final) ?_ ?_
    · rw [written, List.getLast?_append_of_ne_nil _ (List.cons_ne_nil _ _),
        List.getLast?_cons_of_ne_nil empty, final]
    · simpa using unfed
    · rw [written, Text.occurrences_append_cons (by decide) (by decide), harmless]
      decide

/-- A comment on one line is closed by its end, and not before, since its text has no
terminator and a space stands before the last one.
-/
theorem isBlockLine_single (depth : Nat) {line : List Char} (unfed : '\n' ∉ line)
    (harmless : occurrences terminator line = 0)
    : IsBlockLine depth 1 (indentation depth ++ ("/** " ++ String.ofList line ++ " */")) := by
  have written
      : ("/** " ++ String.ofList line ++ " */").toList
        = ['/', '*', '*'] ++ ' ' :: (line ++ ' ' :: terminator) := by
    simp [terminator]
  refine isBlockLine_indentation_append '/' ?_ (by decide) ?_ ?_
  · rw [String.toList_append, List.getLast?_append_of_ne_nil _ (by decide)]
    decide
  · simpa using unfed
  · rw [written, Text.occurrences_append_cons (by decide) (by decide),
      Text.occurrences_append_cons (by decide) (by decide), harmless]
    decide

/-- Lines of which the last one closes the block, and no other, make a comment block. The
terminators are counted line by line.
-/
theorem closesAtEnd_of_lines (before : List String) {last : String}
    (inside : ∀ line ∈ before, IsBlockLine depth 0 line) (ending : IsBlockLine depth 1 last)
    (closes : terminator <:+ last.toList)
    (opens
      : (indentation depth ++ "/**").toList
        <+: (String.join ((before ++ [last]).map (· ++ "\n"))).toList)
    : ClosesAtEnd depth (String.join ((before ++ [last]).map (· ++ "\n"))) := by
  have unfed : ∀ line ∈ before ++ [last], '\n' ∉ line.toList :=
    List.forall_mem_append.mpr
      ⟨fun line member => (inside line member).unfed, List.forall_mem_singleton.mpr ending.unfed⟩
  refine ⟨opens, ?_, ?_⟩
  · have fed
        : (String.join ((before ++ [last]).map (· ++ "\n"))).toList
          = ((before ++ [last]).map String.toList).flatMap (· ++ ['\n']) := by
      simp [String.toList_join, List.flatMap_map]
    have none : ((before.map String.toList).map (occurrences terminator)).sum = 0 := by
      refine List.sum_eq_zero ?_
      rw [List.map_map, List.forall_mem_map]
      exact fun line member => (inside line member).closes
    rw [fed, Text.occurrences_flatMap_append (by decide) (by decide), List.map_append,
      List.map_append, List.sum_append, none, Nat.zero_add]
    exact ending.closes
  · refine ⟨before, last, Text.partsAt_join_feeds unfed, closes, ?_⟩
    refine List.forall_mem_append.mpr ⟨?_, List.forall_mem_singleton.mpr ?_⟩
    · exact fun line member => ⟨(inside line member).indented, (inside line member).trimmed⟩
    · exact ⟨ending.indented, ending.trimmed⟩

/-- Tidy lines are read back from the text that they make. -/
theorem IsTidy.lines_eq (tidy : IsTidy lines)
    : Text.lines (String.ofList (['\n'].intercalate lines)) = lines.map String.ofList := by
  rw [Text.lines, String.toList_ofList, Text.splitLines_intercalate tidy.unfed]
  · intro line member last
    exact absurd (tidy.trimmed line member '\r' last) (by decide)
  · obtain ⟨line, last, some⟩ := tidy.last
    rintro same
    exact some (Option.some.inj (last.symm.trans same))

/-- Tidy lines stay tidy behind a name that does not close the block, since no terminator
reaches over the separator.
-/
theorem IsTidy.named {name first : List Char} {rest : List (List Char)}
    (tidy : IsTidy (first :: rest)) (unfed : '\n' ∉ name)
    (harmless : occurrences terminator name = 0)
    : IsTidy ((name ++ " - ".toList ++ first) :: rest) := by
  have some : first ≠ [] := by simpa using tidy.first
  constructor
  · refine List.forall_mem_cons.mpr ⟨?_, (List.forall_mem_cons.mp tidy.unfed).2⟩
    simpa using ⟨unfed, tidy.unfed first List.mem_cons_self⟩
  · refine List.forall_mem_cons.mpr ⟨?_, (List.forall_mem_cons.mp tidy.harmless).2⟩
    have joined : name ++ " - ".toList ++ first = name ++ ' ' :: '-' :: ' ' :: first := by simp
    rw [joined, Text.occurrences_append_cons (by decide) (by decide), harmless]
    simp [List.isPrefixOf, tidy.harmless first List.mem_cons_self]
  · refine List.forall_mem_cons.mpr ⟨?_, (List.forall_mem_cons.mp tidy.trimmed).2⟩
    rw [List.getLast?_append_of_ne_nil _ some]
    exact tidy.trimmed first List.mem_cons_self
  · exact ⟨_, rfl, by simp⟩
  · cases rest with
    | nil => exact ⟨_, rfl, by simp⟩
    | cons second others => simpa using tidy.last

/-- Tidy lines make a comment block that is closed by its end, at every depth. One line
and more of them are the cases.
-/
theorem IsTidy.closesAtEnd (tidy : IsTidy lines) (depth : Nat)
    : ClosesAtEnd depth (docComment depth (String.ofList (['\n'].intercalate lines))) := by
  rw [docComment_eq_join, tidy.lines_eq]
  have inside
      : ∀ line ∈ lines,
          IsBlockLine depth 0
            (indentation depth
              ++ if (String.ofList line).isEmpty then " *" else " * " ++ String.ofList line) :=
    fun line member =>
      isBlockLine_docLine depth (tidy.unfed line member) (tidy.harmless line member)
        (tidy.trimmed line member)
  match lines, tidy, inside with
  | [], tidy, _ =>
      obtain ⟨line, first, -⟩ := tidy.first
      cases first
  | [single], tidy, _ =>
      have ending :=
        isBlockLine_single depth (tidy.unfed single List.mem_cons_self)
          (tidy.harmless single List.mem_cons_self)
      refine closesAtEnd_of_lines [] (List.forall_mem_nil _) ending ?_ ?_
      · exact ⟨(indentation depth ++ ("/** " ++ String.ofList single ++ " ")).toList, by simp⟩
      · exact ⟨(" " ++ String.ofList single ++ " */\n").toList, by simp⟩
  | first :: second :: rest, tidy, inside =>
      let content := (first :: second :: rest).map String.ofList
      let marked :=
        content.map (fun line => indentation depth ++ if line.isEmpty then " *" else " * " ++ line)
      have opening : IsBlockLine depth 0 (indentation depth ++ "/**") :=
        isBlockLine_indentation_append '*' (by decide) (by decide) (by decide) (by decide)
      have ending : IsBlockLine depth 1 (indentation depth ++ " */") :=
        isBlockLine_indentation_append '/' (by decide) (by decide) (by decide) (by decide)
      have several
          : docLines depth content
            = [indentation depth ++ "/**"] ++ marked ++ [indentation depth ++ " */"] :=
        rfl
      rw [several]
      refine closesAtEnd_of_lines _ ?_ ending ⟨(indentation depth ++ " ").toList, by simp⟩ ?_
      · refine List.forall_mem_append.mpr ⟨List.forall_mem_singleton.mpr opening, ?_⟩
        exact List.forall_mem_map.mpr (List.forall_mem_map.mpr inside)
      · let others := marked ++ [indentation depth ++ " */"]
        exact ⟨("\n" ++ String.join (others.map (· ++ "\n"))).toList, by simp [others]⟩

end ProtobufTypeScript.Target.Layout
