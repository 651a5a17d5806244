import Mathlib.Data.List.Basic
import ProtobufTypeScript.Target.SourceUnit

/-!
Lines of code that ask a context for a loader. They are known by how they start and end; what stands
between is the name that they ask with.
-/

namespace ProtobufTypeScript.Target

/-- How a line starts that asks a context for a loader. -/
def loaderStart : String := "const dl = ctx.getDataLoader(\""

/-- How a line ends that asks a context for a loader. -/
def loaderEnd : String := "\", () => \x7b"

/-- The name that a line asks a context for a loader with, if it does. -/
def Line.loaderName? : Line Snippet → Option String
  | .text snippet =>
      (loaderStart.toList.isPrefixOf? snippet.written).bind
        (fun rest => (loaderEnd.toList.isSuffixOf? rest).map String.ofList)
  | _ => none

/-- The names that code asks a context for loaders with, in order. -/
def Block.loaderNames (block : Block) : List String :=
  block.filterMap Line.loaderName?

/-- The names that an item asks a context for loaders with if it is a class, in order. -/
def Item.loaderNames : Item → List String
  | .classType declared => declared.code.loaderNames
  | _ => []

/-- The names that the classes of a unit ask a context for loaders with, in order. -/
def SourceUnit.loaderNames (unit : SourceUnit) : List String :=
  unit.items.flatMap Item.loaderNames

/-- Whether no line that starts with a text asks for a loader. -/
def IsOther (text : String) : Prop :=
  ¬ text.toList <+: loaderStart.toList ∧ ¬ loaderStart.toList <+: text.toList

instance (text : String) : Decidable (IsOther text) :=
  inferInstanceAs
    (Decidable (¬ text.toList <+: loaderStart.toList ∧ ¬ loaderStart.toList <+: text.toList))

-----------------------------------------------------------------------------------------
-- Other lines
-----------------------------------------------------------------------------------------

namespace IsOther

variable {text longer : String}

/-- A text that starts otherwise than calls of loaders makes longer texts start so, too.
-/
theorem of_isPrefix (isOther : IsOther text) (starts : text.toList <+: longer.toList)
    : IsOther longer := by
  refine ⟨fun inner => isOther.1 (starts.trans inner), fun outer => ?_⟩
  rcases List.prefix_or_prefix_of_prefix starts outer with inner | outer
  · exact isOther.1 inner
  · exact isOther.2 outer

theorem append (isOther : IsOther text) (rest : String)
    : IsOther (text ++ rest) :=
  isOther.of_isPrefix ⟨rest.toList, String.toList_append.symm⟩

/-- In a line that asks for a loader a dot comes before the first parenthesis, so that no
text without a dot starts one.
-/
theorem of_dotless (free : '.' ∉ text.toList)
    : IsOther (text ++ "(") := by
  have dotted : "const dl = ctx.".toList <+: loaderStart.toList := by decide
  have apart : ¬ "const dl = ctx.".toList <+: (text ++ "(").toList := by
    intro starts
    have member := starts.subset (by decide : '.' ∈ "const dl = ctx.".toList)
    simp [free] at member
  refine ⟨fun inner => ?_, fun outer => apart (dotted.trans outer)⟩
  rcases List.prefix_or_prefix_of_prefix inner dotted with before | after
  · have member := before.subset (by simp : '(' ∈ (text ++ "(").toList)
    simp at member
  · exact apart after

/-- A line that starts otherwise than calls of loaders names no loader. -/
theorem loaderName?_eq_none {rest : Snippet} (isOther : IsOther text)
    : Line.loaderName? (.text (.plain text :: rest)) = none := by
  have starts : ¬ loaderStart.toList <+: Snippet.written (.plain text :: rest) := by
    rw [Snippet.written, List.flatMap_cons]
    intro outer
    rcases List.prefix_or_prefix_of_prefix outer (List.prefix_append ..) with outer | inner
    · exact isOther.2 outer
    · exact isOther.1 inner
  cases found : loaderStart.toList.isPrefixOf? (Snippet.written (.plain text :: rest)) with
  | none => rw [Line.loaderName?, found, Option.bind_none]
  | some tail => exact absurd ⟨tail, List.isPrefixOf?_eq_some_iff_append_eq.mp found⟩ starts

end IsOther

-----------------------------------------------------------------------------------------
-- Blocks
-----------------------------------------------------------------------------------------

namespace Block

@[simp] theorem loaderNames_nil
    : loaderNames [] = [] :=
  rfl

/-- The loaders of a block in two parts are those of the parts, in order. -/
@[simp] theorem loaderNames_append (first second : Block)
    : loaderNames (first ++ second) = first.loaderNames ++ second.loaderNames :=
  List.filterMap_append

/-- The loaders of parts in sequence are those of the parts, in order. -/
@[simp] theorem loaderNames_flatMap {α : Type} (parts : List α) (code : α → Block)
    : loaderNames (parts.flatMap code) = parts.flatMap (fun part => (code part).loaderNames) :=
  List.filterMap_flatMap ..

@[simp] theorem loaderNames_indent (code : Block)
    : loaderNames (.indent :: code) = code.loaderNames :=
  rfl

@[simp] theorem loaderNames_dedent (code : Block)
    : loaderNames (.dedent :: code) = code.loaderNames :=
  rfl

@[simp] theorem loaderNames_blank (code : Block)
    : loaderNames (.blank :: code) = code.loaderNames :=
  rfl

variable {text : String} {rest : Snippet}

/-- A statement that starts otherwise than calls of loaders has no loader. -/
@[simp] theorem loaderNames_statement (isOther : IsOther text)
    : (statement (.plain text :: rest)).loaderNames = [] :=
  List.filterMap_cons_none isOther.loaderName?_eq_none

@[simp] theorem loaderNames_line (isOther : IsOther text)
    : (line (.plain text :: rest)).loaderNames = [] :=
  List.filterMap_cons_none isOther.loaderName?_eq_none

@[simp] theorem loaderNames_opening (isOther : IsOther text)
    : (opening (.plain text :: rest)).loaderNames = [] :=
  List.filterMap_cons_none isOther.loaderName?_eq_none

/-- The end of a braced part has no loader, as it starts with the brace. -/
@[simp] theorem loaderNames_closingWith (tail : Snippet)
    : (closingWith tail).loaderNames = [] := by
  have brace : IsOther "\x7d" := by decide
  have none : Line.loaderName? (.text (.plain "\x7d" :: tail)) = none := brace.loaderName?_eq_none
  exact List.filterMap_cons_none none

/-- A call for a loader gives its name. -/
theorem loaderNames_call (name : String)
    : (opening
          (callbackSnippet (some "dl") (.field "ctx" "getDataLoader") [.quoted name] false
            [])).loaderNames
      = [name] := by
  have written
      : Snippet.written
            (callbackSnippet (some "dl") (.field "ctx" "getDataLoader") [.quoted name] false []
              ++ [.plain " \x7b"])
          = loaderStart.toList ++ (name.toList ++ loaderEnd.toList) := by
    simp [Snippet.written, callbackSnippet, constSnippet, Expr.field, Expr.snippet, Binding.header,
      loaderStart, loaderEnd]
  refine List.filterMap_cons_some ?_
  rw [Line.loaderName?, List.isPrefixOf?_eq_some_iff_append_eq.mpr written.symm, Option.bind_some,
    List.isSuffixOf?_eq_some_iff_append_eq.mpr rfl, Option.map_some, String.ofList_toList]

end Block

/-- A method asks for the loaders that its body asks for. -/
theorem Function.loaderNames_code {function : Function} (undocumented : function.doc = none)
    (simple : function.typeParams = []) (isOther : IsOther (function.name ++ "("))
    : (function.code .method).loaderNames = function.body.lines.loaderNames := by
  simp [Function.code, Function.header, typeParamsText, Block.doc, Block.closing, undocumented,
    simple, isOther]

/-- An exported class with properties asks for the loaders that its functions ask for. -/
theorem ClassType.loaderNames_code {declared : ClassType} (undocumented : declared.doc = none)
    (exported : declared.exported = true) (separated : declared.properties.isEmpty = false)
    (plain : ∀ property ∈ declared.properties, property.code.loaderNames = [])
    : declared.code.loaderNames
      = declared.functions.flatMap (fun function => (function.code .method).loaderNames) := by
  have header : IsOther ("export class " ++ declared.name ++ typeParamsText declared.typeParams) :=
    .append (.append (by decide) declared.name) (typeParamsText declared.typeParams)
  have properties
      : declared.properties.flatMap (fun property => property.code.loaderNames) = [] :=
    List.flatMap_eq_nil_iff.mpr plain
  simp [ClassType.code, ClassType.header, exportText, Block.doc, Block.closing, undocumented,
    exported, separated, properties, header, List.flatMap_map]

end ProtobufTypeScript.Target
