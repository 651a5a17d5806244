import ProtobufTypeScript.Proofs.Target.SyntaxVocabulary

/-!
The vocabulary of declarations: functions, interfaces, classes, objects and enums are written within
a vocabulary if their names, types, comments and bodies are.
-/

namespace ProtobufTypeScript.Target.Vocabulary

variable {words : Vocabulary}

/-- What a parameter consists of is within a vocabulary. -/
structure HasParam (words : Vocabulary) (param : Param) : Prop where
  name : words.Spells param.name
  type : words.Writes param.type.snippet
  default : ∀ code ∈ param.default, words.Covers code.lines

/-- A parameter is within a vocabulary exactly if its parts are. -/
theorem hasParam_iff {param : Param}
    : words.HasParam param
      ↔ words.Spells param.name ∧ words.Writes param.type.snippet
        ∧ ∀ code ∈ param.default, words.Covers code.lines :=
  ⟨fun has => ⟨has.name, has.type, has.default⟩, fun ⟨name, type, code⟩ => ⟨name, type, code⟩⟩

/-- What a function consists of is within a vocabulary. -/
structure HasFunction (words : Vocabulary) (function : Function) : Prop where
  name : words.Spells function.name
  doc : ∀ text ∈ function.doc, words.Spells text
  typeParams : ∀ param ∈ function.typeParams, words.Spells param
  params : ∀ param ∈ function.params, words.HasParam param
  returns : ∀ type ∈ function.returns, words.Writes type.snippet
  body : words.Covers function.body.lines

/-- What a property consists of is within a vocabulary. -/
structure HasProperty (words : Vocabulary) (property : Property) : Prop where
  name : words.Spells property.name
  type : words.Writes property.type.snippet
  doc : ∀ text ∈ property.doc, words.Spells text
  modifiers : ∀ word ∈ property.modifiers, words.Spells word

/-- What an interface consists of is within a vocabulary. -/
structure HasInterface (words : Vocabulary) (interface : Interface) : Prop where
  name : words.Spells interface.name
  doc : ∀ text ∈ interface.doc, words.Spells text
  typeParams : ∀ param ∈ interface.typeParams, words.Spells param
  properties : ∀ property ∈ interface.properties, words.HasProperty property
  methods : ∀ method ∈ interface.methods, words.HasFunction method

/-- What a class consists of is within a vocabulary. -/
structure HasClass (words : Vocabulary) (declared : ClassType) : Prop where
  name : words.Spells declared.name
  doc : ∀ text ∈ declared.doc, words.Spells text
  typeParams : ∀ param ∈ declared.typeParams, words.Spells param
  implements : ∀ type ∈ declared.implements, words.Writes type.snippet
  properties : ∀ property ∈ declared.properties, words.HasProperty property
  functions : ∀ function ∈ declared.functions, words.HasFunction function

/-- What an entry of an object consists of is within a vocabulary. -/
def HasEntry (words : Vocabulary) : Entry → Prop
  | .value doc name content =>
      (∀ text ∈ doc, words.Spells text) ∧ words.Spells name ∧ words.Writes content.snippet
  | .method declared => words.HasFunction declared
  | .gap => True

/-- What an object consists of is within a vocabulary. -/
structure HasObject (words : Vocabulary) (object : ObjectConst) : Prop where
  name : words.Spells object.name
  doc : ∀ text ∈ object.doc, words.Spells text
  entries : ∀ entry ∈ object.entries, words.HasEntry entry

/-- Type parameters are written within a vocabulary that has their texts. -/
theorem spells_typeParams {typeParams : List String}
    (all : ∀ param ∈ typeParams, words.Spells param)
    : words.Spells (typeParamsText typeParams) := by
  rw [typeParamsText]
  split
  · exact spells_of_isAscii (by decide)
  · simpa (disch := decide) [spells_of_isAscii, spells_intercalate] using all

@[simp] theorem spells_exportText (exported : Bool)
    : words.Spells (exportText exported) := by
  cases exported <;> exact spells_of_isAscii (by decide)

/-- A parameter is written within a vocabulary that has its parts. -/
theorem writes_param {param : Param} (has : words.HasParam param)
    : words.Writes param.snippet := by
  rw [Param.snippet, writes_append, writes_append]
  refine ⟨⟨?_, has.type⟩, ?_⟩
  · simpa (disch := decide) [spells_of_isAscii] using has.name
  · cases found : param.default with
    | none => exact writes_nil
    | some code =>
        simpa (disch := decide) [spells_of_isAscii] using writes_inlined (has.default code found)

/-- The header of a function is written within a vocabulary that has its parts, as all
else in it is plain text.
-/
theorem writes_header {function : Function} (has : words.HasFunction function)
    : words.Writes function.header := by
  have params
      : words.Writes ([Piece.plain ", "].intercalate (function.params.map Param.snippet)) := by
    rw [writes_intercalate (by decide), List.forall_mem_map]
    exact fun param member => writes_param (has.params param member)
  rw [Function.header, writes_append, writes_append, writes_append]
  refine ⟨⟨⟨?_, params⟩, ?_⟩, ?_⟩
  · simpa (disch := decide) [spells_of_isAscii]
      using ⟨has.name, spells_typeParams has.typeParams⟩
  · simp (disch := decide) [spells_of_isAscii]
  · cases found : function.returns with
    | none => exact writes_nil
    | some type => simpa (disch := decide) [spells_of_isAscii] using has.returns type found

/-- A function is written within a vocabulary, wherever it is declared. -/
theorem covers_function (placement : Placement) {function : Function}
    (has : words.HasFunction function)
    : words.Covers (function.code placement) := by
  have header := writes_header has
  unfold Function.code
  rw [covers_append, covers_doc]
  refine ⟨has.doc, ?_⟩
  cases placement with
  | topLevel exported => simp (disch := decide) [spells_of_isAscii, header, has.body]
  | method => simp [header, has.body]
  | entry => simp (disch := decide) [spells_of_isAscii, header, has.body]
  | signature => simp [header]

/-- The code of a property is within a vocabulary that has its parts. -/
theorem covers_property {property : Property} (has : words.HasProperty property)
    : words.Covers property.code := by
  have optional : words.Spells (if property.optional then "?" else "") := by
    split <;> exact spells_of_isAscii (by decide)
  simpa (disch := decide) [Property.code, spells_of_isAscii] using
    ⟨has.doc, ⟨⟨has.modifiers, has.name⟩, optional⟩, has.type⟩

/-- The code of an interface is within a vocabulary that has its parts. -/
theorem covers_interface {interface : Interface} (has : words.HasInterface interface)
    : words.Covers interface.code := by
  simp (disch := decide) only [Interface.code, covers_append, covers_doc, covers_opening,
    writes_cons, writes_nil, hasPiece_plain, spells_append, spells_of_isAscii, spells_exportText,
    covers_flatMap, covers_closing, and_true, true_and]
  exact ⟨
    ⟨⟨has.doc, has.name, spells_typeParams has.typeParams⟩,
      fun property member => covers_property (has.properties property member)⟩,
    fun method member => covers_function .signature (has.methods method member)
  ⟩

/-- The code of a class is within a vocabulary that has its parts: what it implements, its
properties and its functions.
-/
theorem covers_class {declared : ClassType} (has : words.HasClass declared)
    : words.Covers declared.code := by
  have implements
      : words.Writes
          (if declared.implements.isEmpty then []
            else [.plain " implements "] ++ TypeExpr.joined ", " declared.implements) := by
    split
    · exact writes_nil
    · simpa (disch := decide) [spells_of_isAscii, writes_joined_types] using has.implements
  have header : words.Writes declared.header := by
    rw [ClassType.header, writes_append]
    refine ⟨?_, implements⟩
    simpa (disch := decide) [spells_of_isAscii] using
      ⟨has.name, spells_typeParams has.typeParams⟩
  have functions
      : ∀ code ∈ declared.functions.map (Function.code .method), words.Covers code :=
    List.forall_mem_map.mpr
      (fun function member => covers_function .method (has.functions function member))
  have separated
      : words.Covers
          (if declared.properties.isEmpty then
            [Line.blank].intercalate (declared.functions.map (Function.code .method))
          else (declared.functions.map (Function.code .method)).flatMap ([Line.blank] ++ ·)) := by
    split
    · exact covers_intercalate_blank.mpr functions
    · exact covers_flatMap.mpr
        (fun code member => covers_cons.mpr ⟨trivial, functions code member⟩)
  rw [ClassType.code]
  simp only [covers_append, covers_doc, covers_opening, covers_flatMap, covers_closing, and_true]
  exact ⟨
    ⟨⟨has.doc, header⟩, fun property member => covers_property (has.properties property member)⟩,
    separated
  ⟩

/-- The code of an object of values is within a vocabulary that has its name, its type and
its values.
-/
theorem covers_values {object : ValueObject} (name : words.Spells object.name)
    (type : words.Writes object.type.snippet)
    (values : ∀ entry ∈ object.values, words.Spells entry.1 ∧ words.Writes entry.2.snippet)
    : words.Covers object.code := by
  rw [ValueObject.code]
  split
  · simp (disch := decide) [spells_of_isAscii, name, type]
  · rw [covers_append, covers_append]
    refine ⟨⟨?_, List.forall_mem_map.mpr ?_⟩, ?_⟩
    · simp (disch := decide) [spells_of_isAscii, name, type]
    · intro entry member
      simpa (disch := decide) [spells_of_isAscii] using values entry member
    · simp (disch := decide) [spells_of_isAscii]

/-- The code of an entry is within a vocabulary that has its parts. -/
theorem covers_entry {entry : Entry} (has : words.HasEntry entry)
    : words.Covers entry.code := by
  cases entry with
  | value doc name content =>
      obtain ⟨doc, name, content⟩ := has
      simpa (disch := decide) [Entry.code, spells_of_isAscii, name, content] using doc
  | method declared => exact covers_function .entry has
  | gap => exact covers_cons.mpr ⟨trivial, covers_nil⟩

/-- The code of an exported object is within a vocabulary that has its entries. -/
theorem covers_object {object : ObjectConst} (has : words.HasObject object)
    : words.Covers object.code := by
  have entries : ∀ entry ∈ object.entries, words.Covers entry.code :=
    fun entry member => covers_entry (has.entries entry member)
  simpa (disch := decide) [ObjectConst.code, spells_of_isAscii, has.name] using
    And.intro has.doc entries

/-- The code of an enum is within a vocabulary that has its object. The numbers in its
type are numerals.
-/
theorem covers_enumeration {declared : NumberedEnum} (has : words.HasObject declared.object)
    : words.Covers declared.code := by
  rw [NumberedEnum.code]
  simp (disch := decide) [spells_of_isAscii, spells_intercalate, has.name, covers_object has,
    HasLine]

end ProtobufTypeScript.Target.Vocabulary
