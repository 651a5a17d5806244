import ProtobufTypeScript.Proofs.Enumeration.Switches
import ProtobufTypeScript.Proofs.Schema.Vocabulary
import ProtobufTypeScript.Proofs.Target.DeclarationBrackets
import ProtobufTypeScript.Proofs.Target.DeclarationUsage
import ProtobufTypeScript.Proofs.Target.DeclarationVocabulary
import ProtobufTypeScript.Proofs.Target.Recording

/-!
The declaration of an enum: it is within a vocabulary if its name, the names of its members and its
comments are, it neither uses nor records a symbol, and its brackets are balanced if those of the
texts are.
-/

namespace ProtobufTypeScript.Target.Vocabulary

open ProtobufTypeScript.Enumeration Schema

variable {words : Vocabulary} {typeName : String} {members : List Member}

@[simp] theorem spells_unrecognizedName
    : words.Spells unrecognizedName :=
  spells_of_isAscii (by decide)

/-- The entry of a member is within a vocabulary if its name, its type and its comment
are.
-/
theorem hasEntry_memberEntry {doc : Option String} {name : String} (number : Int32)
    (typed : words.Spells typeName) (named : words.Spells name)
    (documented : ∀ text ∈ doc, words.Spells text)
    : words.HasEntry (memberEntry typeName doc name number) := by
  refine ⟨?_, named, by simp [typed]⟩
  intro text found
  obtain ⟨comment, known, rfl⟩ := Option.map_eq_some_iff.mp found
  simp (disch := decide) [spells_of_isAscii, named, documented comment known]

/-- The function that makes members from JSON is within a vocabulary if the names it is
made with are: it has a section for each member, and the one for unknown values.
-/
theorem hasFunction_enumFromJson (typed : words.Spells typeName)
    (named : ∀ member ∈ members, words.Spells member.name)
    : words.HasFunction (Enumeration.fromJson typeName members) where
  name := spells_of_isAscii (show isAscii "fromJSON" = true by decide)
  doc := by simp [Enumeration.fromJson]
  typeParams := by simp [Enumeration.fromJson]
  params := by simp (disch := decide) [Enumeration.fromJson, hasParam_iff, spells_of_isAscii]
  returns := by simp [Enumeration.fromJson, typed]
  body := by
    refine covers_choose.mpr ⟨by simp (disch := decide) [spells_of_isAscii], ?_⟩
    refine covers_sections.mpr (List.forall_mem_append.mpr ⟨?_, ?_⟩)
    · refine List.forall_mem_map.mpr ?_
      intro entry member
      have known := named entry.1 (mem_of_mem_markFirst member)
      refine ⟨List.forall_mem_append.mpr ⟨?_, ?_⟩, ?_⟩
      · split <;> simp [numberLabel]
      · simp [known]
      · simp [parseSection, Section.body, memberOf, typed, known]
    · refine List.forall_mem_singleton.mpr ⟨List.forall_mem_append.mpr ⟨?_, ?_⟩, ?_⟩
      · split <;> simp [numberLabel]
      · simp
      · simp [unrecognizedSection, Section.body, memberOf, typed]

/-- The function that names members is within a vocabulary if the names it is made with
are: it has a section for each first member, and the one for other values.
-/
theorem hasFunction_enumToJson (typed : words.Spells typeName)
    (named : ∀ member ∈ members, words.Spells member.name)
    : words.HasFunction (Enumeration.toJson typeName members) where
  name := spells_of_isAscii (show isAscii "toJSON" = true by decide)
  doc := by simp [Enumeration.toJson]
  typeParams := by simp [Enumeration.toJson]
  params := by
    simp (disch := decide) [Enumeration.toJson, hasParam_iff, spells_of_isAscii, typed]
  returns := by simp [Enumeration.toJson]
  body := by
    refine covers_choose.mpr ⟨by simp (disch := decide) [spells_of_isAscii], ?_⟩
    refine covers_sections.mpr (List.forall_mem_append.mpr ⟨?_, ?_⟩)
    · refine List.forall_mem_map.mpr ?_
      intro member first
      obtain ⟨entry, marked, rfl⟩ := List.mem_map.mp first
      have known := named entry.1 (mem_of_mem_markFirst (List.mem_filter.mp marked).1)
      simp [nameSection, Section.labels, Section.body, memberOf, typed, known]
    · simp (disch := decide) [Section.labels, Section.body, spells_of_isAscii]

/-- The object of an enum is within a vocabulary: its entries are those of the members,
the added one, and the conversions where they are asked for.
-/
theorem hasObject_enumeration {options : Options} {enumeration : Schema.Enumeration}
    {cursor : Cursor} (typed : words.Spells typeName)
    (spelled : ∀ text ∈ enumeration.texts, words.Spells text)
    (documented : words.Documents cursor)
    : words.HasObject (declaration options typeName enumeration cursor).object := by
  have named : ∀ member ∈ enumeration.members, words.Spells member.name :=
    fun member known => spelled _ (List.mem_append_right _ (List.mem_map_of_mem known))
  refine ⟨typed, documented _, List.forall_mem_append.mpr ⟨List.forall_mem_append.mpr ⟨?_, ?_⟩, ?_⟩⟩
  · refine List.forall_mem_map.mpr ?_
    intro entry member
    exact hasEntry_memberEntry _ typed (named entry.1 (List.fst_mem_of_mem_zipIdx member))
      (documented _)
  · exact List.forall_mem_singleton.mpr
      (hasEntry_memberEntry _ typed spells_unrecognizedName (by simp))
  · unfold conversions
    split
    · simp [HasEntry, hasFunction_enumFromJson typed named, hasFunction_enumToJson typed named]
    · simp

end ProtobufTypeScript.Target.Vocabulary

namespace ProtobufTypeScript.Target.Usage

open ProtobufTypeScript.Enumeration Schema

variable {usage : Usage} {typeName : String} {members : List Member}

attribute [local simp] Admits AdmitsStmt AdmitsStmts AdmitsType isClosed Expr.field memberOf
  numberLabel

/-- What makes members from JSON mentions no symbols and calls nothing, so that it is
allowed everywhere.
-/
theorem allowsFunction_enumFromJson
    : usage.AllowsFunction (Enumeration.fromJson typeName members) where
  params := by simp [Enumeration.fromJson, allowsParam_iff]
  returns := by simp [Enumeration.fromJson]
  body := by
    refine allowsLines_stmt _ ⟨trivial, admitsSections_iff.mpr ?_⟩
    refine List.forall_mem_append.mpr ⟨List.forall_mem_map.mpr (fun entry _ => ⟨?_, ?_⟩), ?_⟩
    · simp only [parseSection, Section.labels]
      split <;> simp
    · simp [parseSection, Section.body]
    · refine List.forall_mem_singleton.mpr ⟨?_, by simp [unrecognizedSection, Section.body]⟩
      simp only [unrecognizedSection, Section.labels]
      split <;> simp

/-- What names members mentions no symbols and calls nothing either. -/
theorem allowsFunction_enumToJson
    : usage.AllowsFunction (Enumeration.toJson typeName members) where
  params := by simp [Enumeration.toJson, allowsParam_iff]
  returns := by simp [Enumeration.toJson]
  body := by
    refine allowsLines_stmt _ ⟨trivial, admitsSections_iff.mpr ?_⟩
    refine List.forall_mem_append.mpr ⟨List.forall_mem_map.mpr (fun entry _ => ?_), ?_⟩
    · simp [nameSection, Section.labels, Section.body]
    · simp [Section.labels, Section.body]

/-- An enum is written without any use of a symbol, with and without its conversions. -/
theorem allowsLines_enumerationDeclaration {options : Options} {enumeration : Schema.Enumeration}
    {cursor : Cursor}
    : usage.AllowsLines (declaration options typeName enumeration cursor).code := by
  refine allowsLines_enumeration (List.forall_mem_append.mpr ⟨?_, ?_⟩)
  · refine List.forall_mem_append.mpr ⟨List.forall_mem_map.mpr (fun entry _ => ?_), ?_⟩
    · simp [memberEntry, AllowsEntry]
    · simp [memberEntry, AllowsEntry]
  · unfold conversions
    split
    · simp [AllowsEntry, allowsFunction_enumFromJson, allowsFunction_enumToJson]
    · simp

end ProtobufTypeScript.Target.Usage

namespace ProtobufTypeScript.Enumeration

open Schema Target

variable {typeName : String} {members : List Member}

attribute [local simp] Expr.Balances Stmt.Balances Stmt.BalancesAll CaseLabel.Balances
  TypeExpr.Balances Expr.field memberOf numberLabel

/-- The entry of a member is balanced if its name, its type and its comment are. -/
theorem balances_memberEntry {doc : Option String} {name : String} {number : Int32}
    (typed : Text.Balances typeName) (named : Text.Balances name)
    (described : ∀ text ∈ doc, Text.Balances text)
    : (memberEntry typeName doc name number).Balances := by
  refine ⟨?_, named, by simp [typed]⟩
  intro text found
  obtain ⟨comment, known, rfl⟩ := Option.map_eq_some_iff.mp found
  exact Text.balances_append (Text.balances_append named (by decide)) (described comment known)

/-- The function that makes members from JSON is balanced if the names it is made with
are. Its sections stand in braces of their own.
-/
theorem balances_fromJson (typed : Text.Balances typeName)
    (named : ∀ member ∈ members, Text.Balances member.name)
    : (Enumeration.fromJson typeName members).Balances where
  name := (by decide : Text.Balances "fromJSON")
  doc := nofun
  typeParams := nofun
  params := by
    simp (disch := decide) [Enumeration.fromJson, Param.balances_iff, balances_of_isPlain]
  returns := by simp [Enumeration.fromJson, typed]
  body := by
    refine Stmt.Balances.code ⟨balances_of_isPlain (by decide), Section.balancesAll_iff.mpr ?_⟩
    refine List.forall_mem_append.mpr ⟨List.forall_mem_map.mpr (fun entry member => ?_), ?_⟩
    · have known := named entry.1 (mem_of_mem_markFirst member)
      refine ⟨?_, by simp [parseSection, Section.body, typed, known]⟩
      simp only [parseSection, Section.labels]
      split <;> simp [known]
    · have added : Text.Balances unrecognizedName := by decide
      refine List.forall_mem_singleton.mpr
        ⟨?_, by simp [unrecognizedSection, Section.body, typed, added]⟩
      simp only [unrecognizedSection, Section.labels]
      split <;> simp [added]

/-- The function that names members is balanced if the names it is made with are. Its
sections stand in braces of their own.
-/
theorem balances_toJson (typed : Text.Balances typeName)
    (named : ∀ member ∈ members, Text.Balances member.name)
    : (Enumeration.toJson typeName members).Balances where
  name := (by decide : Text.Balances "toJSON")
  doc := nofun
  typeParams := nofun
  params := by
    simp (disch := decide) [Enumeration.toJson, Param.balances_iff, balances_of_isPlain, typed]
  returns := by simp [Enumeration.toJson]
  body := by
    refine Stmt.Balances.code ⟨balances_of_isPlain (by decide), Section.balancesAll_iff.mpr ?_⟩
    refine List.forall_mem_append.mpr ⟨List.forall_mem_map.mpr (fun member first => ?_), ?_⟩
    · obtain ⟨entry, marked, rfl⟩ := List.mem_map.mp first
      have known := named entry.1 (mem_of_mem_markFirst (List.mem_filter.mp marked).1)
      simp [nameSection, Section.labels, Section.body, typed, known]
    · simp (disch := decide) [Section.labels, Section.body, balances_of_isPlain]

/-- An enum is written with balanced brackets if its texts are balanced: the names of its
members and the comments on them.
-/
theorem balances_declaration {options : Options} {enumeration : Schema.Enumeration}
    {cursor : Cursor} (typed : Text.Balances typeName)
    (named : ∀ member ∈ enumeration.members, Text.Balances member.name)
    (described : ∀ text ∈ cursor.description.text, Text.Balances text)
    (commented
      : ∀ position,
          ∀ text ∈ (cursor.lookup Child.memberOfEnum position).text, Text.Balances text)
    : (declaration options typeName enumeration cursor).code.Balances := by
  refine NumberedEnum.balances_code ⟨typed, described, List.forall_mem_append.mpr ⟨?_, ?_⟩⟩
  · refine List.forall_mem_append.mpr ⟨List.forall_mem_map.mpr (fun entry member => ?_), ?_⟩
    · exact balances_memberEntry typed (named entry.1 (List.fst_mem_of_mem_zipIdx member))
        (commented entry.2)
    · exact List.forall_mem_singleton.mpr (balances_memberEntry typed (by decide) nofun)
  · unfold conversions
    split
    · simp [Entry.Balances, balances_fromJson typed named, balances_toJson typed named]
    · simp

/-- No symbol stands in the switch of `fromJSON`, neither in the section of a member nor
in the last one.
-/
theorem symbols_parseSwitch (typeName : String) (members : List Member)
    : (parseSwitch typeName members).symbols = [] := by
  have sections
      : ∀ entry, (parseSection typeName entry).symbols = [] := by
    rintro ⟨member, first⟩
    cases first <;> simp [parseSection]
  have last : (unrecognizedSection typeName members).symbols = [] := by
    dsimp only [unrecognizedSection]
    split <;> simp
  simp [parseSwitch, sections, last, List.flatMap_map]

/-- No symbol stands in the switch of `toJSON`. -/
theorem symbols_nameSwitch (typeName : String) (members : List Member)
    : (nameSwitch typeName members).symbols = [] := by
  simp [nameSwitch, nameSection, List.flatMap_map]

/-- Nothing is recorded for an enum, and no symbol stands in it: its members are texts and
numbers, and its conversions only name them.
-/
theorem recordsMentions_enumeration {options : Options} {enumeration : Schema.Enumeration}
    {cursor : Cursor}
    : (Item.enumeration (declaration options typeName enumeration cursor)).RecordsMentions := by
  have entries
      : ∀ entry ∈ (declaration options typeName enumeration cursor).object.entries,
          entry.RecordsMentions := by
    refine List.forall_mem_append.mpr ⟨List.forall_mem_append.mpr ⟨?_, ?_⟩, ?_⟩
    · exact List.forall_mem_map.mpr (fun entry _ => by
        simp [memberEntry, Entry.RecordsMentions, TypeExpr.snippet])
    · simp [memberEntry, Entry.RecordsMentions, TypeExpr.snippet]
    · have parse := symbols_parseSwitch typeName enumeration.members
      have name := symbols_nameSwitch typeName enumeration.members
      have parses : (fromJson typeName enumeration.members).RecordsMentions :=
        ⟨by simp [fromJson], fun symbol => by simp [fromJson, parse]⟩
      have names : (toJson typeName enumeration.members).RecordsMentions :=
        ⟨by simp [toJson], fun symbol => by simp [toJson, name]⟩
      unfold conversions
      split
      · simp [Entry.RecordsMentions, parses, names]
      · simp
  intro symbol
  rw [Item.recorded, ObjectConst.mem_recorded entries]
  simp [Item.block, NumberedEnum.code]

end ProtobufTypeScript.Enumeration
