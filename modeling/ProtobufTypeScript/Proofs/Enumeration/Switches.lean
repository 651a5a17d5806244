import Mathlib.Data.List.Nodup
import ProtobufTypeScript.Enumeration
import ProtobufTypeScript.Proofs.Target.Switch
import ProtobufTypeScript.Proofs.Text.Order

/-!
What the object of an enum holds and what its two switches return. Of the members that share a
number only the first one has a label for it, in either switch.
-/

namespace ProtobufTypeScript.Enumeration

open Schema Target

variable {options : Options} {typeName : String} {members : List Member}
  {enumeration : Schema.Enumeration} {cursor : Cursor} {member : Member}

-----------------------------------------------------------------------------------------
-- The first members of their numbers
-----------------------------------------------------------------------------------------

/-- Marking changes neither the members nor their order. Induction on the members, with
the numbers seen so far.
-/
theorem map_fst_markFirst (members : List Member) (seen : List Int32)
    : (markFirst seen members).map Prod.fst = members := by
  induction members generalizing seen with
  | nil => rfl
  | cons first rest ih => rw [markFirst, List.map_cons, ih]

/-- The members that are told apart by their numbers are those of the enum. -/
theorem mem_of_mem_markFirst {seen : List Int32} {entry : Member × Bool}
    (marked : entry ∈ markFirst seen members)
    : entry.1 ∈ members := by
  rw [← map_fst_markFirst members seen]
  exact List.mem_map_of_mem marked

/-- The first members of their numbers are some of the members, in order. -/
theorem firstMembers_sublist
    : (firstMembers members).Sublist members := by
  have kept
      : (firstMembers members).Sublist ((markFirst [] members).map Prod.fst) :=
    List.filter_sublist.map Prod.fst
  rwa [map_fst_markFirst] at kept

theorem mem_of_mem_firstMembers (first : member ∈ firstMembers members)
    : member ∈ members :=
  firstMembers_sublist.subset first

/-- The first member of some kind of numbers, besides those seen before, is the first one
of its number. Witness: induction on the members, with the numbers seen so far.
-/
theorem find?_markFirst (members : List Member) (p : Int32 → Bool) (seen : List Int32)
    : (markFirst seen members).find? (fun entry => entry.2 && p entry.1.number)
      = (members.find? (fun member => !seen.contains member.number && p member.number)).map
          (fun member => (member, true)) := by
  induction members generalizing seen with
  | nil => rfl
  | cons first rest ih =>
      cases wanted : !seen.contains first.number && p first.number with
      | true =>
          have fresh := (Bool.and_eq_true_iff.mp wanted).1
          simp only [markFirst, List.find?_cons, wanted, Option.map_some]
          rw [fresh]
      | false =>
          simp only [markFirst, List.find?_cons, wanted, ih]
          -- A later member of this number is not wanted either.
          congr 2
          funext member
          by_cases same : member.number = first.number
          · simpa [same] using wanted
          · simp [same]

/-- Of the first members of their numbers, the first one of some kind of numbers is that
of all members: no other member of its number comes before it.
-/
theorem find?_firstMembers (p : Int32 → Bool)
    : (firstMembers members).find? (fun member => p member.number)
      = members.find? (fun member => p member.number) := by
  have found := find?_markFirst members p []
  simp only [List.contains_nil, Bool.not_false, Bool.true_and] at found
  have marked
      : ((markFirst [] members).filter Prod.snd).find? (fun entry => p entry.1.number)
        = (markFirst [] members).find? (fun entry => entry.2 && p entry.1.number) := by
    rw [List.find?_filter]
    congr 1
    funext entry
    exact Bool.decide_and _ _ |>.trans (by simp)
  rw [firstMembers, List.find?_map]
  exact (congrArg (Option.map Prod.fst) (marked.trans found)).trans
    (by rw [Option.map_map]; exact Option.map_id')

/-- A union lists each number once. -/
theorem nodup_numbers
    : (numbers members).Nodup :=
  Text.nodup_eraseDups _

-----------------------------------------------------------------------------------------
-- What the object holds
-----------------------------------------------------------------------------------------

/-- Every entry of an enum has a content, be it a number or a conversion, so that whatever
its object makes a property of can be looked up.
-/
theorem isSome_content? {entry : Entry}
    (member : entry ∈ (declaration options typeName enumeration cursor).object.entries)
    : entry.content?.isSome = true := by
  unfold declaration memberEntries conversions at member
  simp only [List.mem_append, List.mem_map, List.mem_singleton] at member
  rcases member with (⟨⟨declared, position⟩, -, rfl⟩ | rfl) | converts
  · rfl
  · rfl
  · split at converts
    · rcases List.mem_cons.mp converts with rfl | last
      · rfl
      · obtain rfl := List.mem_singleton.mp last
        rfl
    · cases converts

/-- The keys of the conversions. -/
def conversionKeys (options : Options) : List String :=
  if options.jsonMethods then ["fromJSON", "toJSON"] else []

/-- The entries of the declared members. -/
def declaredEntries (typeName : String) (members : List Member) (cursor : Cursor) : List Entry :=
  members.zipIdx.map
    (fun (member, position) =>
      memberEntry typeName (cursor.lookup Child.memberOfEnum position).text member.name
        member.number)

/-- The entries of an enum are those of the declared members, that of the added one, and
the conversions.
-/
theorem entries_declaration (options : Options) (typeName : String)
    (enumeration : Schema.Enumeration) (cursor : Cursor)
    : (declaration options typeName enumeration cursor).object.entries
      = declaredEntries typeName enumeration.members cursor
          ++ memberEntry typeName none unrecognizedName unrecognizedNumber
            :: conversions options typeName enumeration.members :=
  List.append_assoc _ _ _

/-- The conversions have the keys of their functions, if there are conversions at all. -/
theorem filterMap_key?_conversions
    : (conversions options typeName members).filterMap Entry.key? = conversionKeys options := by
  unfold conversions conversionKeys
  split <;> rfl

/-- The keys of an enum: its members, the added one and the conversions. Indices are only
used for the comments on members.
-/
theorem keys_declaration
    : (declaration options typeName enumeration cursor).object.keys
      = enumeration.members.map Member.name ++ unrecognizedName :: conversionKeys options := by
  have declared
      : (declaredEntries typeName enumeration.members cursor).filterMap Entry.key?
        = enumeration.members.map Member.name := by
    calc
      (declaredEntries typeName enumeration.members cursor).filterMap Entry.key?
      _ = enumeration.members.zipIdx.filterMap (some ∘ Member.name ∘ Prod.fst) :=
        List.filterMap_map
      _ = (enumeration.members.zipIdx.map Prod.fst).map Member.name := by
        rw [List.filterMap_eq_map, List.map_map]
      _ = enumeration.members.map Member.name := by rw [List.zipIdx_map_fst]
  have added
      : (memberEntry typeName none unrecognizedName unrecognizedNumber).key?
        = some unrecognizedName :=
    rfl
  rw [ObjectConst.keys, entries_declaration, List.filterMap_append, declared,
    List.filterMap_cons_some added, filterMap_key?_conversions]

/-- What makes a property with a key has this key. The converse fails for a key that sets
what the object inherits from.
-/
theorem key?_of_property? {entry : Entry} {key : String} (made : entry.property? = some key)
    : entry.key? = some key := by
  cases entry with
  | value doc name content =>
      simp only [Entry.property?] at made
      split at made
      · cases made
      · exact made
  | method declared => exact made
  | gap => cases made

/-- The entry of a member makes a property with its name, unless this is where an object
has what it inherits from.
-/
theorem property?_memberEntry {doc : Option String} {name : String} {number : Int32}
    (ordinary : name ≠ prototypeName)
    : (memberEntry typeName doc name number).property? = some name :=
  if_neg ordinary

/-- Whatever its members are named, the object of an enum holds the added number under its
name.
-/
theorem held?_unrecognizedName
    : (declaration options typeName enumeration cursor).object.held? unrecognizedName
      = some (.ofInt (-1)) := by
  refine ObjectConst.held?_of_last (entries_declaration _ _ _ _)
    (property?_memberEntry (by decide)) ?_
  unfold conversions
  split <;> simp [Entry.property?, fromJson, toJson, unrecognizedName]

/-- Whatever its members are named, the object of an enum holds its conversions under
their names.
-/
theorem held?_conversion {name : String} (conversion : name ∈ conversionKeys options)
    : (declaration options typeName enumeration cursor).object.held? name
      = some (.method name) := by
  unfold conversionKeys at conversion
  split at conversion
  case isFalse => cases conversion
  case isTrue json =>
    have parted := entries_declaration options typeName enumeration cursor
    rw [conversions, if_pos json] at parted
    rcases List.mem_pair.mp conversion with rfl | rfl
    · rw [List.append_cons] at parted
      exact ObjectConst.held?_of_last parted rfl (by simp [Entry.property?, toJson])
    · rw [List.append_cons, List.append_cons] at parted
      exact ObjectConst.held?_of_last parted rfl (by simp)

/-- Under the name of a member the object of an enum holds the number of the member,
unless something else has the name too: a later entry would replace it.
-/
theorem held?_member (distinct : (enumeration.members.map Member.name).Nodup)
    (declared : member ∈ enumeration.members) (ordinary : member.name ≠ prototypeName)
    (other : member.name ≠ unrecognizedName) (free : member.name ∉ conversionKeys options)
    : (declaration options typeName enumeration cursor).object.held? member.name
      = some (.ofInt member.number.toInt) := by
  refine ObjectConst.held?_of_forall ?_ ?_
  · rw [← List.zipIdx_map_fst 0 enumeration.members] at declared
    obtain ⟨indexed, inMembers, rfl⟩ := List.mem_map.mp declared
    rw [entries_declaration]
    exact ⟨_, List.mem_append_left _ (List.mem_map_of_mem inMembers),
      property?_memberEntry ordinary⟩
  · rw [entries_declaration]
    intro entry inObject made
    have keyed := key?_of_property? made
    rcases List.mem_append.mp inObject with inMembers | inOthers
    · obtain ⟨⟨same, position⟩, indexed, rfl⟩ := List.mem_map.mp inMembers
      have found : same ∈ enumeration.members := List.fst_mem_of_mem_zipIdx indexed
      obtain rfl := List.inj_on_of_nodup_map distinct found declared (Option.some.inj keyed)
      rfl
    · rcases List.mem_cons.mp inOthers with rfl | converts
      · exact absurd (Option.some.inj keyed).symm other
      · have taken := List.mem_filterMap.mpr ⟨entry, converts, keyed⟩
        rw [filterMap_key?_conversions] at taken
        exact absurd taken free

/-- A member that is called as what an object inherits from does not show in the object of
an enum: no entry makes a property of that name.
-/
theorem held?_prototypeName
    : (declaration options typeName enumeration cursor).object.held? prototypeName
      = some (.inherited prototypeName) := by
  have absent
      : ∀ entry ∈ (declaration options typeName enumeration cursor).object.entries,
          entry.property? ≠ some prototypeName := by
    have plain (doc : Option String) (name : String) (number : Int32)
        : (memberEntry typeName doc name number).property? ≠ some prototypeName := by
      simp only [memberEntry, Entry.property?]
      split <;> simp_all
    rw [entries_declaration]
    refine List.forall_mem_append.mpr ⟨List.forall_mem_map.mpr (fun _ _ => plain _ _ _), ?_⟩
    refine List.forall_mem_cons.mpr ⟨plain _ _ _, ?_⟩
    unfold conversions
    split <;> simp [Entry.property?, fromJson, toJson, prototypeName]
  rw [ObjectConst.held?_of_absent absent, if_pos (by decide)]

/-- It is known what the object of an enum holds under any key. -/
theorem isSome_held? (key : String)
    : ((declaration options typeName enumeration cursor).object.held? key).isSome = true := by
  rw [ObjectConst.held?]
  split
  · rename_i entry found
    rw [List.findRev?_eq_find?_reverse] at found
    exact isSome_content? (List.mem_reverse.mp (List.mem_of_find?_eq_some found))
  · rfl

/-- If an enum has conversions, `fromJSON` runs its switch. -/
theorem runs_fromJson (json : options.jsonMethods = true)
    : (declaration options typeName enumeration cursor).object.Runs "fromJSON" "object"
        (parseSwitch typeName enumeration.members) := by
  refine ⟨fromJson typeName enumeration.members, ?_, rfl, rfl, rfl⟩
  rw [entries_declaration, conversions, if_pos json]
  simp

/-- If an enum has conversions, `toJSON` runs its switch. -/
theorem runs_toJson (json : options.jsonMethods = true)
    : (declaration options typeName enumeration cursor).object.Runs "toJSON" "object"
        (nameSwitch typeName enumeration.members) := by
  refine ⟨toJson typeName enumeration.members, ?_, rfl, rfl, rfl⟩
  rw [entries_declaration, conversions, if_pos json]
  simp

-----------------------------------------------------------------------------------------
-- What the switches return
-----------------------------------------------------------------------------------------

/-- Whether a value has a label of a member in `fromJSON`. -/
def isMet (value : Datum) (entry : Member × Bool) : Bool :=
  entry.2 && value.equals (.ofInt entry.1.number.toInt) || value.equals (.text entry.1.name)

variable {object : ObjectConst} {value : Datum}

/-- `fromJSON` returns the first member that a value has a label of, else the added one,
as the last section is met by all values.
-/
theorem answer?_parseSwitch
    : (parseSwitch typeName members).answer? (object.read? "object" value)
      = some
          (memberOf typeName
            (((markFirst [] members).find? (isMet value)).elim unrecognizedName
              (fun entry => entry.1.name))) := by
  have met (entry : Member × Bool)
      : ((parseSection typeName entry).labels).any
            (CaseLabel.matches (object.read? "object" value) value)
        = isMet value entry := by
    unfold parseSection isMet Section.labels
    cases entry.2 <;> simp [CaseLabel.matches, ObjectConst.read?, numberLabel]
  refine (Stmt.answer?_choose (fun entry => (parseSection typeName entry).labels)
    (fun entry => memberOf typeName entry.1.name) rfl ?_ ?_ ?_).trans ?_
  · intro entry _
    simp only [parseSection, Section.labels]
    split <;> simp [CaseLabel.isKnown, CaseLabel.isDefault, ObjectConst.read?, numberLabel]
  · split <;> simp [CaseLabel.isKnown, ObjectConst.read?, numberLabel]
  · simp
  · simp only [met]
    cases (markFirst [] members).find? (isMet value) <;> rfl

/-- The first member that has a number, if any. -/
def firstOf? (members : List Member) (number : Number) : Option Member :=
  members.find? (fun member => number.equals (.finite member.number.toInt))

/-- `fromJSON` returns the first member that has a number, else the added one: a number
meets no label that is a text.
-/
theorem answer?_parseSwitch_number {number : Number}
    : (parseSwitch typeName members).answer? (object.read? "object" (.number number))
      = some (memberOf typeName ((firstOf? members number).elim unrecognizedName Member.name)) := by
  have found :=
    find?_markFirst members (fun declared => number.equals (.finite declared.toInt)) []
  simp only [List.contains_nil, Bool.not_false, Bool.true_and] at found
  have met
      : isMet (.number number)
        = fun entry => entry.2 && number.equals (.finite entry.1.number.toInt) := by
    funext entry
    simp [isMet, Datum.ofInt, Datum.equals]
  rw [answer?_parseSwitch, met, found, firstOf?]
  cases members.find? _ <;> rfl

/-- `fromJSON` returns the member that has a name, since no two members with that name
have different expressions.
-/
theorem answer?_parseSwitch_name (declared : member ∈ members)
    : (parseSwitch typeName members).answer? (object.read? "object" (.text member.name))
      = some (memberOf typeName member.name) := by
  rw [answer?_parseSwitch]
  cases found : (markFirst [] members).find? (isMet (.text member.name)) with
  | some entry =>
      have named : member.name = entry.1.name := by
        simpa [isMet, Datum.ofInt, Datum.equals] using List.find?_some found
      rw [Option.elim_some, named]
  | none =>
      rw [← map_fst_markFirst members []] at declared
      obtain ⟨entry, marked, rfl⟩ := List.mem_map.mp declared
      exact absurd (by simp [isMet, Datum.equals]) (List.find?_eq_none.mp found entry marked)

/-- `fromJSON` returns the added member for all other values. Witness: whether the value
is a number, as then it could meet the label of one.
-/
theorem answer?_parseSwitch_other
    (unnumbered : ∀ number, value = .number number → firstOf? members number = none)
    (unnamed : ∀ member ∈ members, value ≠ .text member.name)
    : (parseSwitch typeName members).answer? (object.read? "object" value)
      = some (memberOf typeName unrecognizedName) := by
  by_cases plain : ∀ number, value ≠ .number number
  case neg =>
    obtain ⟨number, numeric⟩ := not_forall_not.mp plain
    rw [numeric, answer?_parseSwitch_number, unnumbered number numeric, Option.elim_none]
  case pos =>
    rw [answer?_parseSwitch, List.find?_eq_none.mpr, Option.elim_none]
    intro entry marked met
    have named : value = .text entry.1.name := by
      simpa [isMet, Datum.equals_of_not_number plain, Datum.ofInt, plain] using met
    exact unnamed entry.1 (mem_of_mem_markFirst marked) named

/-- `toJSON` returns the name of the first member that holds a value, of those that are
the first ones of their numbers.
-/
theorem answer?_nameSwitch (apart : object.name ≠ "object")
    (held : ∀ member ∈ members, (object.held? member.name).isSome = true)
    : (nameSwitch object.name members).answer? (object.read? "object" value)
      = some
          (.quoted
            (((firstMembers members).find?
                  (fun member => (object.held? member.name).any value.equals)).elim
              "UNKNOWN" Member.name)) := by
  have met (member : Member)
      : ((nameSection object.name member).labels).any
            (CaseLabel.matches (object.read? "object" value) value)
        = (object.held? member.name).any value.equals := by
    simp [nameSection, Section.labels, memberOf, Expr.field, CaseLabel.matches,
      ObjectConst.read?, apart]
  refine (Stmt.answer?_choose (fun member => (nameSection object.name member).labels)
    (fun member => .quoted member.name) rfl ?_ (by simp [CaseLabel.isKnown])
    List.mem_cons_self).trans ?_
  · intro member first label inLabels
    obtain rfl := List.mem_singleton.mp inLabels
    have known := held member (mem_of_mem_firstMembers first)
    simp [memberOf, Expr.field, CaseLabel.isKnown, CaseLabel.isDefault, ObjectConst.read?, apart,
      known]
  · simp only [met]
    cases (firstMembers members).find? _ <;> rfl

end ProtobufTypeScript.Enumeration
