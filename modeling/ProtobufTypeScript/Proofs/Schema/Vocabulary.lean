import ProtobufTypeScript.Proofs.Schema.CommentText
import ProtobufTypeScript.Proofs.Schema.Text
import ProtobufTypeScript.Proofs.Schema.Walk
import ProtobufTypeScript.Proofs.Target.Vocabulary
import ProtobufTypeScript.Schema.Registry

/-!
The alphabet and the vocabulary of names and comments: what the generator makes of the texts of a
schema is within an alphabet if the texts are.
-/

namespace ProtobufTypeScript.Target

open Schema

namespace Alphabet

variable {letters : Alphabet}

-----------------------------------------------------------------------------------------
-- Names
-----------------------------------------------------------------------------------------

/-- Converting an identifier brings in no letters but capitals. -/
theorem spells_identifier (options : Options) {name : String} (spelled : letters.Spells name)
    : letters.Spells (options.identifier name) := by
  unfold Options.identifier
  split
  · intro c member
    rw [Text.camelCase, String.toList_ofList] at member
    exact letter_camelChars spelled c member
  · exact spelled

/-- The path of a unit is part of the name of its file. -/
theorem spells_unitPath {fileName : String} (spelled : letters.Spells fileName)
    : letters.Spells (unitPath fileName) := by
  unfold unitPath
  cases found : Text.beforeEnd? ".proto" fileName with
  | none => exact spelled
  | some rest => exact spells_beforeEnd spelled rest found

-----------------------------------------------------------------------------------------
-- Comments
-----------------------------------------------------------------------------------------

/-- Breaking terminators brings in blanks only. -/
theorem letter_breakTerminators {text : List Char} (spelled : ∀ c ∈ text, letters.letter c)
    : ∀ c ∈ breakTerminators text, letters.letter c := by
  intro c member
  rcases mem_breakTerminators member with inText | rfl
  · exact spelled c inText
  · exact letters.plain _ (by decide) (by decide)

/-- A comment made fit for a comment block is within its alphabet: lines are trimmed and
left out, and only line feeds and spaces come in.
-/
theorem spells_sanitize {comment : String} (spelled : letters.Spells comment)
    : letters.Spells (sanitize comment) := by
  have lines
      : ∀ line ∈ dropOuterEmpty ((Text.splitLines comment.toList).map Text.trimChars),
          ∀ c ∈ line, letters.letter c := by
    intro line member
    obtain ⟨whole, inLines, rfl⟩ := List.mem_map.mp (Text.dropEnds_subset member)
    exact fun c inLine =>
      letter_splitLines spelled whole inLines c (Text.dropEnds_subset inLine)
  have feed : ∀ c ∈ ['\n'], letters.letter c :=
    List.forall_mem_singleton.mpr (letters.plain _ (by decide) (by decide))
  rw [Spells, sanitize, String.toList_ofList]
  exact letter_breakTerminators ((forall_mem_intercalate feed).mpr lines)

/-- The text of a description is within the letters of its comments. -/
theorem spells_descriptionText {description : Description}
    (leading : ∀ text ∈ description.leading, letters.Spells text)
    (trailing : ∀ text ∈ description.trailing, letters.Spells text)
    : ∀ text ∈ description.text, letters.Spells text := by
  intro text found
  obtain ⟨comment, chosen, rfl⟩ := Option.map_eq_some_iff.mp found
  apply spells_sanitize
  rcases Option.or_eq_some_iff.mp chosen with first | ⟨-, second⟩
  · exact leading comment (Option.filter_eq_some_iff.mp first).1
  · exact trailing comment (Option.filter_eq_some_iff.mp second).1

/-- All comments that a cursor can find are within an alphabet. -/
def Documents (letters : Alphabet) (cursor : Cursor) : Prop :=
  ∀ place, ∀ text ∈ (cursor.descriptionAt place).text, letters.Spells text

/-- The comments of a file are within its alphabet, wherever they are looked up, because
what is found is a comment of a location of the file.
-/
theorem documents_root {file : File} (spelled : ∀ text ∈ file.texts, letters.Spells text)
    (path : List Int32)
    : letters.Documents { locations := file.locations, path } := by
  intro place text found
  unfold Cursor.descriptionAt at found
  split at found
  · rename_i location chosen
    have member : location ∈ file.locations :=
      List.mem_reverse.mp (List.mem_of_find?_eq_some chosen)
    have located : ∀ text ∈ location.texts, letters.Spells text := by
      intro text inLocation
      refine spelled text ?_
      simp only [File.texts, List.mem_append, List.mem_flatMap]
      exact Or.inr ⟨location, member, inLocation⟩
    refine spells_descriptionText ?_ ?_ text found
    · exact fun text leading =>
        located text (List.mem_append_left _ (Option.mem_toList.mpr leading))
    · exact fun text trailing =>
        located text (List.mem_append_right _ (Option.mem_toList.mpr trailing))
  · cases found

-----------------------------------------------------------------------------------------
-- The nodes of a file
-----------------------------------------------------------------------------------------

/-- The identifier of a visited type is made of the identifiers around it and of its own
name, and the definition stays that of the type.
-/
theorem spells_identifier_of_node? {scope : Scope} {options : Options} {name : Option String}
    {definition : Definition} {field : Int32} {position : Nat} {node : Node}
    (stem : letters.Spells scope.identifierStem) (named : ∀ text ∈ name, letters.Spells text)
    (found : scope.node? options name definition field position = .ok node)
    : letters.Spells node.identifier ∧ node.definition = definition := by
  unfold Scope.node? at found
  split at found
  · cases found
  · rename_i text
    split at found
    · cases found
    · cases found
      exact ⟨spells_append.mpr ⟨stem, spells_identifier options (named text rfl)⟩, rfl⟩

theorem spells_stem_inside {node : Node} (spelled : letters.Spells node.identifier)
    : letters.Spells (Scope.inside node).identifierStem :=
  spells_append.mpr ⟨spelled, spells_of_isPlain (by decide)⟩

theorem spells_stem_ofFile (cursor : Cursor)
    : letters.Spells (Scope.ofFile cursor).identifierStem :=
  spells_of_isPlain (show isPlain "" = true by decide)

/-- The name of a definition is one of its texts. -/
theorem spells_name? {definition : Definition}
    (spelled : ∀ text ∈ definition.texts, letters.Spells text)
    : ∀ text ∈ definition.name?, letters.Spells text := by
  intro text named
  cases definition with
  | message message =>
      have own : message.name = some text := named
      refine spelled text ?_
      rw [Definition.texts, Message.texts_eq, own]
      simp
  | enumeration enumeration =>
      have own : enumeration.name = some text := named
      exact spelled text (by simp [Definition.texts, Enumeration.texts, own])

/-- Being within an alphabet is passed on by the walk: from a scope to the types in it,
and from a message to its enums and messages.
-/
theorem passesOn_spells (letters : Alphabet) (options : Options)
    : PassesOn options (fun scope => letters.Spells scope.identifierStem)
        (fun definition => ∀ text ∈ definition.texts, letters.Spells text)
        (fun node =>
          letters.Spells node.identifier
          ∧ ∀ text ∈ node.definition.texts, letters.Spells text) where
  node := by
    intro scope definition field position node stem spelled found
    obtain ⟨identifier, same⟩ := spells_identifier_of_node? stem (spells_name? spelled) found
    exact ⟨identifier, same ▸ spelled⟩
  inside known := spells_stem_inside known.1
  enumerations := by
    intro message spelled
    simp only [Definition.texts, Message.texts_eq, List.forall_mem_append] at spelled
    exact List.forall_mem_flatMap.mp spelled.1.2
  nested := by
    intro message spelled
    simp only [Definition.texts, Message.texts_eq, List.forall_mem_append] at spelled
    exact List.forall_mem_flatMap.mp spelled.2

/-- The nodes of a file are within the alphabet of its texts. -/
theorem spells_nodes {file : File} {cursor : Cursor} {options : Options} {nodes : List Node}
    (spelled : ∀ text ∈ file.texts, letters.Spells text)
    (found : file.nodes cursor options = .ok nodes)
    : ∀ node ∈ nodes,
        letters.Spells node.identifier
        ∧ ∀ text ∈ node.definition.texts, letters.Spells text := by
  simp only [File.texts, List.forall_mem_append, Message.textsAll_eq_flatMap] at spelled
  obtain ⟨⟨⟨⟨-, messages⟩, enumerations⟩, -⟩, -⟩ := spelled
  exact (passesOn_spells letters options).of_mem_nodes (spells_stem_ofFile cursor)
    (List.forall_mem_flatMap.mp enumerations) (List.forall_mem_flatMap.mp messages) found

/-- The comments at the nodes of a file are within its alphabet. -/
theorem documents_nodes {file : File} {options : Options} {nodes : List Node}
    (spelled : ∀ text ∈ file.texts, letters.Spells text)
    (found : file.nodes (.root file) options = .ok nodes)
    : ∀ node ∈ nodes, letters.Documents node.cursor := by
  rw [File.nodes_below] at found
  obtain ⟨bare, -, rfl⟩ := map_eq_ok.mp found
  exact List.forall_mem_map.mpr (fun _ _ => documents_root spelled _)

/-- The names of all types declared at a definition. -/
def typeNamesOf : Definition → List String
  | .message message => message.typeNames
  | .enumeration enumeration => enumeration.name.toList

/-- Having names within an alphabet is passed on by the walk. Unlike for texts, only the
names of types are asked for here.
-/
theorem passesOn_identifier (letters : Alphabet) (options : Options)
    : PassesOn options (fun scope => letters.Spells scope.identifierStem)
        (fun definition => ∀ name ∈ typeNamesOf definition, letters.Spells name)
        (fun node => letters.Spells node.identifier) where
  node := by
    intro scope definition field position node stem names found
    refine (spells_identifier_of_node? stem ?_ found).1
    intro text named
    cases definition with
    | message message =>
        have own : message.name = some text := named
        refine names text ?_
        rw [typeNamesOf, Message.typeNames_eq, own]
        simp
    | enumeration enumeration =>
        have own : enumeration.name = some text := named
        exact names text (by simp [typeNamesOf, own])
  inside spelled := spells_stem_inside spelled
  enumerations := by
    intro message names
    simp only [typeNamesOf, Message.typeNames_eq, List.forall_mem_append] at names
    exact List.forall_mem_flatMap.mp names.1.2
  nested := by
    intro message names
    simp only [typeNamesOf, Message.typeNames_eq, List.forall_mem_append] at names
    exact List.forall_mem_flatMap.mp names.2

/-- The names of the nodes of a file are within the alphabet of its type names. -/
theorem spells_identifier_nodes {file : File} {cursor : Cursor} {options : Options}
    {nodes : List Node} (spelled : ∀ name ∈ file.typeNames, letters.Spells name)
    (found : file.nodes cursor options = .ok nodes)
    : ∀ node ∈ nodes, letters.Spells node.identifier := by
  rw [File.typeNames, Message.typeNamesAll_eq_flatMap, List.forall_mem_append] at spelled
  exact (passesOn_identifier letters options).of_mem_nodes (spells_stem_ofFile cursor)
    (List.forall_mem_flatMap.mp spelled.2) (List.forall_mem_flatMap.mp spelled.1) found

end Alphabet

namespace Vocabulary

variable {words : Vocabulary}

/-- All comments that a cursor can find are within a vocabulary. -/
def Documents (words : Vocabulary) (cursor : Cursor) : Prop :=
  ∀ path, ∀ text ∈ (cursor.descriptionAt path).text, words.Spells text

/-- The comments of a file are within its vocabulary. -/
theorem documents_root {file : File} (spelled : ∀ text ∈ file.texts, words.Spells text)
    (path : List Int32)
    : words.Documents { locations := file.locations, path } :=
  words.alphabet.documents_root spelled path

/-- The texts of a definition are within a vocabulary. -/
def HasDefinition (words : Vocabulary) : Definition → Prop
  | .message message => ∀ text ∈ message.texts, words.Spells text
  | .enumeration enumeration => ∀ text ∈ enumeration.texts, words.Spells text

/-- The name and the definition of a node are within a vocabulary. -/
structure HasNode (words : Vocabulary) (node : Node) : Prop where
  identifier : words.Spells node.identifier
  definition : words.HasDefinition node.definition

/-- The nodes of a file are within the vocabulary of its texts. -/
theorem hasNode_nodes {file : File} {cursor : Cursor} {options : Options} {nodes : List Node}
    (spelled : ∀ text ∈ file.texts, words.Spells text)
    (found : file.nodes cursor options = .ok nodes)
    : ∀ node ∈ nodes, words.HasNode node := by
  intro node member
  obtain ⟨identifier, texts⟩ := words.alphabet.spells_nodes spelled found node member
  refine ⟨identifier, ?_⟩
  cases same : node.definition with
  | message message => exact fun text inMessage => texts text (by rwa [same])
  | enumeration enumeration => exact fun text inEnumeration => texts text (by rwa [same])

end Vocabulary

end ProtobufTypeScript.Target
