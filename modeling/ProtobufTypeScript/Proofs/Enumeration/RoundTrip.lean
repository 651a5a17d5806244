import ProtobufTypeScript.Proofs.Enumeration.Switches

/-!
Values of an enum that are written as JSON and read again. What a declared number is read as comes
back, and so does the added value, unless `toJSON` calls it by a name that a declared member has.
-/

namespace ProtobufTypeScript.Enumeration

open Schema Target

variable {options : Options} {typeName : String} {members : List Member}
  {enumeration : Schema.Enumeration} {cursor : Cursor} {member : Member} {object : ObjectConst}
  {value : Datum} {number : Int32}

/-- The value that a switch in an object gives for an argument. -/
def given? (object : ObjectConst) (switch : Stmt) (argument : Datum) : Option Datum :=
  (switch.answer? (object.read? "object" argument)).bind (object.read? "object" argument)

/-- What a number is read as is written as something that is read as the same again. -/
def RoundTrips (object : ObjectConst) (parse name : Stmt) (number : Int32) : Prop :=
  ∃ value text,
    given? object parse (.ofInt number.toInt) = some value
    ∧ given? object name value = some text
    ∧ given? object parse text = some value

-----------------------------------------------------------------------------------------
-- What the switches give
-----------------------------------------------------------------------------------------

section Giving

variable (apart : object.name ≠ "object")

include apart

/-- What a switch returns as a member is what the object holds for it. -/
theorem bind_read?_memberOf (argument : Datum) (name : String)
    : (some (memberOf object.name name)).bind (object.read? "object" argument)
      = object.held? name := by
  simp [memberOf, Expr.field, ObjectConst.read?, apart]

/-- A number is read as what the first member that has it holds, else as the added member.
Both are looked up in the object of the enum.
-/
theorem given?_parseSwitch_number
    : given? object (parseSwitch object.name members) (.ofInt number.toInt)
      = object.held?
          ((members.find? (fun member => member.number == number)).elim unrecognizedName
            Member.name) := by
  have first
      : firstOf? members (.finite number.toInt)
        = members.find? (fun member => member.number == number) := by
    unfold firstOf?
    congr 1
    funext member
    simp [Number.equals, Int32.toInt_inj, eq_comm, beq_eq_decide]
  rw [given?, Datum.ofInt, answer?_parseSwitch_number, first, bind_read?_memberOf apart]

/-- The name of a member is read as what the member holds. -/
theorem given?_parseSwitch_name (declared : member ∈ members)
    : given? object (parseSwitch object.name members) (.text member.name)
      = object.held? member.name := by
  rw [given?, answer?_parseSwitch_name declared, bind_read?_memberOf apart]

/-- A text that is not the name of a member is read as the added member. -/
theorem given?_parseSwitch_other {text : String}
    (unnamed : ∀ member ∈ members, member.name ≠ text)
    : given? object (parseSwitch object.name members) (.text text)
      = object.held? unrecognizedName := by
  have unnumbered
      : ∀ number, Datum.text text = .number number → firstOf? members number = none :=
    nofun
  have other : ∀ member ∈ members, Datum.text text ≠ .text member.name :=
    fun member declared same => unnamed member declared (Datum.text.inj same).symm
  rw [given?, answer?_parseSwitch_other unnumbered other, bind_read?_memberOf apart]

end Giving

-----------------------------------------------------------------------------------------
-- Which numbers round-trip
-----------------------------------------------------------------------------------------

section Holding

variable (apart : object.name ≠ "object")
  (known : ∀ member ∈ members, (object.held? member.name).isSome = true)

include apart known

/-- A value is written as the name of the first member that holds it, of those that are
the first ones of their numbers.
-/
theorem given?_nameSwitch
    : given? object (nameSwitch object.name members) value
      = some
          (.text
            (((firstMembers members).find?
                  (fun member => (object.held? member.name).any value.equals)).elim
              "UNKNOWN" Member.name)) := by
  rw [given?, answer?_nameSwitch apart known]
  rfl

/-- A value that is read comes back if the first member of some number holds it. The name
of a member that holds it is written, and read as what that member holds.
-/
theorem roundTrips_of_held
    (read
      : given? object (parseSwitch object.name members) (.ofInt number.toInt) = some value)
    (first : member ∈ firstMembers members) (held : object.held? member.name = some value)
    : RoundTrips object (parseSwitch object.name members) (nameSwitch object.name members)
        number := by
  obtain ⟨same, found⟩
      : ∃ same,
          (firstMembers members).find? (fun member => (object.held? member.name).any value.equals)
          = some same :=
    Option.isSome_iff_exists.mp
      (List.find?_isSome.mpr ⟨member, first, (ObjectConst.any_equals_held?_iff held).mpr held⟩)
  have declared : same ∈ members := mem_of_mem_firstMembers (List.mem_of_find?_eq_some found)
  have equal := List.find?_some found
  refine ⟨value, .text same.name, read, ?_, ?_⟩
  · rw [given?_nameSwitch apart known, found, Option.elim_some]
  · rw [given?_parseSwitch_name apart declared, (ObjectConst.any_equals_held?_iff held).mp equal]

/-- What is read as a declared member comes back, as it is held by the first member of its
number.
-/
theorem roundTrips_of_declared (declared : ∃ member ∈ members, member.number = number)
    : RoundTrips object (parseSwitch object.name members) (nameSwitch object.name members)
        number := by
  have some : (members.find? (fun member => member.number == number)).isSome = true := by
    simpa using declared
  obtain ⟨member, found⟩ := Option.isSome_iff_exists.mp some
  have first : member ∈ firstMembers members := by
    rw [← find?_firstMembers (fun declared => declared == number)] at found
    exact List.mem_of_find?_eq_some found
  obtain ⟨value, held⟩ := Option.isSome_iff_exists.mp (known member (mem_of_mem_firstMembers first))
  refine roundTrips_of_held apart known ?_ first held
  rw [given?_parseSwitch_number apart, found, Option.elim_some, held]

/-- What is read as the added member comes back just if the first member of some number
holds the same, or a member that is called `UNKNOWN` does, if there is one.
-/
theorem roundTrips_iff_of_undeclared (added : object.held? unrecognizedName = some value)
    (undeclared : ¬∃ member ∈ members, member.number = number)
    : RoundTrips object (parseSwitch object.name members) (nameSwitch object.name members) number
      ↔ (∃ member ∈ firstMembers members, object.held? member.name = some value)
        ∨ ∀ member ∈ members, member.name = "UNKNOWN" → object.held? member.name = some value := by
  have absent : members.find? (fun member => member.number == number) = none := by
    simpa using undeclared
  have read
      : given? object (parseSwitch object.name members) (.ofInt number.toInt) = some value := by
    rw [given?_parseSwitch_number apart, absent, Option.elim_none, added]
  by_cases holds : ∃ member ∈ firstMembers members, object.held? member.name = some value
  · obtain ⟨member, first, held⟩ := holds
    exact iff_of_true (roundTrips_of_held apart known read first held)
      (Or.inl ⟨member, first, held⟩)
  · have written
        : given? object (nameSwitch object.name members) value = some (.text "UNKNOWN") := by
      rw [given?_nameSwitch apart known, List.find?_eq_none.mpr, Option.elim_none]
      intro member first equal
      exact holds ⟨member, first, (ObjectConst.any_equals_held?_iff added).mp equal⟩
    have again
        : RoundTrips object (parseSwitch object.name members) (nameSwitch object.name members)
              number
          ↔ given? object (parseSwitch object.name members) (.text "UNKNOWN") = some value := by
      simp [RoundTrips, read, written]
    rw [again, or_iff_right holds]
    by_cases called : ∃ member ∈ members, member.name = "UNKNOWN"
    · obtain ⟨member, declared, named⟩ := called
      rw [← named, given?_parseSwitch_name apart declared]
      refine ⟨fun held other _ same => same ▸ held, fun all => all member declared rfl⟩
    · have unnamed : ∀ member ∈ members, member.name ≠ "UNKNOWN" :=
        fun member declared named => called ⟨member, declared, named⟩
      rw [given?_parseSwitch_other apart unnamed]
      exact iff_of_true added (fun member declared named => absurd named (unnamed member declared))

end Holding

/-- A member holds the added number if it has the name of the added member, or the number,
unless a conversion has its name.
-/
theorem held?_eq_added_iff (distinct : (enumeration.members.map Member.name).Nodup)
    (declared : member ∈ enumeration.members) (ordinary : member.name ≠ prototypeName)
    : (declaration options typeName enumeration cursor).object.held? member.name
        = some (.ofInt (-1))
      ↔ member.name = unrecognizedName
        ∨ member.number = unrecognizedNumber ∧ member.name ∉ conversionKeys options := by
  by_cases added : member.name = unrecognizedName
  · simp [added, held?_unrecognizedName]
  by_cases conversion : member.name ∈ conversionKeys options
  · simp [held?_conversion conversion, added, conversion, Datum.ofInt]
  · rw [held?_member distinct declared ordinary added conversion, Option.some_inj, Datum.ofInt_inj]
    simp [added, conversion, unrecognizedNumber, ← Int32.toInt_inj]

/-- A number comes back if a member has it. Any other number, which is read as the added
member, comes back just if `toJSON` finds a member that holds the added number, or no
member of another number is called `UNKNOWN`. The enum is not called as the parameter of
the switches, and no member as what an object inherits from: what is read as a member is
one only then.
-/
theorem values_round_trip_iff (options : Options) (typeName : String)
    (enumeration : Schema.Enumeration) (cursor : Cursor)
    (distinct : (enumeration.members.map Member.name).Nodup) (json : options.jsonMethods = true)
    (apart : typeName ≠ "object")
    (ordinary : ∀ member ∈ enumeration.members, member.name ≠ prototypeName)
    : ∃ parse name,
        (declaration options typeName enumeration cursor).object.Runs "fromJSON" "object" parse
        ∧ (declaration options typeName enumeration cursor).object.Runs "toJSON" "object" name
        ∧ ∀ number,
            RoundTrips (declaration options typeName enumeration cursor).object parse name number
            ↔ (∃ member ∈ enumeration.members, member.number = number)
              ∨ (∃ member ∈ firstMembers enumeration.members,
                  member.name = unrecognizedName
                  ∨ member.number = unrecognizedNumber
                    ∧ member.name ∉ ["fromJSON", "toJSON"])
              ∨ ∀ member ∈ enumeration.members,
                  member.name = "UNKNOWN" → member.number = unrecognizedNumber := by
  refine ⟨_, _, runs_fromJson json, runs_toJson json, fun number => ?_⟩
  by_cases declared : ∃ member ∈ enumeration.members, member.number = number
  · exact iff_of_true (roundTrips_of_declared apart (fun _ _ => isSome_held? _) declared)
      (Or.inl declared)
  refine (roundTrips_iff_of_undeclared apart (fun _ _ => isSome_held? _) held?_unrecognizedName
    declared).trans ?_
  rw [or_iff_right declared]
  refine or_congr (exists_congr (fun member => and_congr_right (fun first => ?_)))
    (forall₂_congr (fun member inEnum => forall_congr' (fun called => ?_)))
  · have declared := mem_of_mem_firstMembers first
    rw [held?_eq_added_iff distinct declared (ordinary member declared), conversionKeys,
      if_pos json]
  · rw [held?_eq_added_iff distinct inEnum (ordinary member inEnum), conversionKeys, if_pos json,
      called]
    simp [unrecognizedName]

/-- A declared member has the name that `toJSON` gives to all other numbers. -/
theorem values_round_trip_iff_unknown
    : let enumeration : Schema.Enumeration :=
        {
          name := "Color"
          members := [{ name := "UNKNOWN", number := 0 }, { name := "RED", number := 1 }]
        }
      let object := (declaration {} "Color" enumeration {}).object
      (enumeration.members.map Member.name).Nodup
      ∧ ({} : Options).jsonMethods = true
      ∧ (∀ member ∈ enumeration.members, member.name ≠ prototypeName)
      ∧ ∃ parse name,
          object.Runs "fromJSON" "object" parse
          ∧ object.Runs "toJSON" "object" name
          ∧ RoundTrips object parse name 1
          ∧ ¬RoundTrips object parse name 7 := by
  intro enumeration object
  have distinct : (enumeration.members.map Member.name).Nodup := by decide
  have ordinary : ∀ member ∈ enumeration.members, member.name ≠ prototypeName := by decide
  obtain ⟨parse, name, parses, names, iff⟩ :=
    values_round_trip_iff {} "Color" enumeration {} distinct rfl (by decide) ordinary
  exact ⟨distinct, rfl, ordinary, parse, name, parses, names, (iff 1).mpr (by decide),
    mt (iff 7).mp (by decide)⟩

end ProtobufTypeScript.Enumeration
