import Mathlib.Data.List.Find
import ProtobufTypeScript.Proofs.Enumeration.Switches

/-!
The conversions of an enum mean what they should: `fromJSON` gives a number its first member, a
name its member and anything else the added member, and `toJSON` gives a number the name of its
first member. Two names are in the way of this: that of the parameter, which hides an enum of the
same name, and the one under which an object has what it inherits from.
-/

namespace ProtobufTypeScript.Enumeration

open Schema Target

variable {options : Options} {typeName : String} {members : List Member}
  {enumeration : Schema.Enumeration} {cursor : Cursor}

/-- A switch in an object returns an expression for an argument, and this stands for a
value.
-/
structure Returns (object : ObjectConst) (switch : Stmt) (argument : Datum) (result : Expr)
    (value : Datum)
    : Prop where
  answer : switch.answer? (object.read? "object" argument) = some result
  value : object.read? "object" argument result = some value

/-- The switches of `fromJSON` and `toJSON` in an object mean members. -/
structure MeansMembers (object : ObjectConst) (members : List Member) (parse name : Stmt)
    : Prop where
  held : ∀ member ∈ members, object.held? member.name = some (.ofInt member.number.toInt)
  added : object.held? unrecognizedName = some (.ofInt (-1))
  ofNumber
    : ∀ number member,
        firstOf? members number = some member
        → Returns object parse (.number number) (memberOf object.name member.name)
            (.ofInt member.number.toInt)
  ofName
    : ∀ member ∈ members,
        Returns object parse (.text member.name) (memberOf object.name member.name)
          (.ofInt member.number.toInt)
  /-- Anything else is read as the added member, its name and an undeclared -1 among it.
  -/
  ofOther
    : ∀ value,
        (∀ number, value = .number number → firstOf? members number = none)
        → (∀ member ∈ members, value ≠ .text member.name)
        → Returns object parse value (memberOf object.name unrecognizedName) (.ofInt (-1))
  named
    : ∀ number member,
        firstOf? members number = some member
        → Returns object name (.number number) (.quoted member.name) (.text member.name)
  unnamed
    : ∀ value,
        (∀ number, value = .number number → firstOf? members number = none)
        → Returns object name value (.quoted "UNKNOWN") (.text "UNKNOWN")

/-- A union lists the numbers of the members and the added one. -/
theorem mem_numbers {number : Int32}
    : number ∈ numbers members
      ↔ number = unrecognizedNumber ∨ ∃ member ∈ members, member.number = number := by
  rw [numbers, List.mem_eraseDups, List.mem_append, List.mem_map, List.mem_singleton, or_comm]

/-- If all members hold their numbers, `toJSON` looks for the first member that has a
number.
-/
theorem find?_held {object : ObjectConst} {value : Datum}
    (held : ∀ member ∈ members, object.held? member.name = some (.ofInt member.number.toInt))
    : (firstMembers members).find? (fun member => (object.held? member.name).any value.equals)
      = members.find? (fun member => value.equals (.ofInt member.number.toInt)) := by
  rw [← find?_firstMembers (fun number => value.equals (.ofInt number.toInt))]
  refine List.find?_congr (fun member first => ?_)
  rw [held member (mem_of_mem_firstMembers first), Option.any_some]

/-- A member is read from the object that holds it, unless the parameter hides this. -/
theorem read?_memberOf {object : ObjectConst} (apart : object.name ≠ "object") (argument : Datum)
    (name : String)
    : object.read? "object" argument (memberOf object.name name) = object.held? name := by
  simp [memberOf, Expr.field, ObjectConst.read?, apart]

section Means

variable (distinct : (enumeration.members.map Member.name).Nodup)
  (free
    : ∀ member ∈ enumeration.members, member.name ∉ [unrecognizedName, "fromJSON", "toJSON"])
include distinct free

/-- The object of an enum holds the numbers of its members, if none of these has the name
of something else, be it the added member or a conversion.
-/
theorem held?_of_free
    (ordinary : ∀ member ∈ enumeration.members, member.name ≠ prototypeName)
    : ∀ member ∈ enumeration.members,
        (declaration options typeName enumeration cursor).object.held? member.name
        = some (.ofInt member.number.toInt) := by
  intro member declared
  refine held?_member distinct declared (ordinary member declared)
    (fun same => free member declared (by simp [same])) ?_
  unfold conversionKeys
  split
  · exact fun taken => free member declared (List.mem_cons_of_mem _ taken)
  · exact List.not_mem_nil

/-- The conversions of an enum mean its members if neither the enum nor a member has a
name that is in the way. The object then holds all the numbers.
-/
theorem meansMembers (apart : typeName ≠ "object")
    (ordinary : ∀ member ∈ enumeration.members, member.name ≠ prototypeName)
    : MeansMembers (declaration options typeName enumeration cursor).object enumeration.members
        (parseSwitch typeName enumeration.members) (nameSwitch typeName enumeration.members) := by
  have held
      : ∀ member ∈ enumeration.members,
          (declaration options typeName enumeration cursor).object.held? member.name
          = some (.ofInt member.number.toInt) :=
    held?_of_free distinct free ordinary
  have added
      : (declaration options typeName enumeration cursor).object.held? unrecognizedName
        = some (.ofInt (-1)) :=
    held?_unrecognizedName
  have read (argument : Datum) (name : String)
      : (declaration options typeName enumeration cursor).object.read? "object" argument
            (memberOf typeName name)
        = (declaration options typeName enumeration cursor).object.held? name :=
    read?_memberOf apart argument name
  have name (value : Datum)
      : (nameSwitch typeName enumeration.members).answer?
            ((declaration options typeName enumeration cursor).object.read? "object" value)
        = some
            (.quoted
              ((enumeration.members.find?
                    (fun member => value.equals (.ofInt member.number.toInt))).elim
                "UNKNOWN" Member.name)) :=
    find?_held held ▸ answer?_nameSwitch apart (fun _ _ => isSome_held? _)
  refine {
    held
    added
    ofNumber := ?_
    ofName := fun member declared =>
      ⟨answer?_parseSwitch_name declared, (read _ _).trans (held member declared)⟩
    ofOther := fun value unnumbered unnamed =>
      ⟨answer?_parseSwitch_other unnumbered unnamed, (read _ _).trans added⟩
    named := ?_
    unnamed := ?_
  }
  · intro number member first
    refine ⟨?_, (read _ _).trans (held member (List.mem_of_find?_eq_some first))⟩
    rw [answer?_parseSwitch_number, first]
    rfl
  · intro number member first
    have found
        : enumeration.members.find?
              (fun member => (Datum.number number).equals (.ofInt member.number.toInt))
          = some member :=
      first
    refine ⟨?_, rfl⟩
    rw [name, found, Option.elim_some]
  · intro value unnumbered
    have absent
        : enumeration.members.find? (fun member => value.equals (.ofInt member.number.toInt))
          = none := by
      cases value with
      | number number => exact unnumbered number rfl
      | _ => exact List.find?_eq_none.mpr (fun member _ => Bool.false_ne_true)
    refine ⟨?_, rfl⟩
    rw [name, absent, Option.elim_none]

/-- The conversions of an enum mean its members just if neither the enum nor a member has
a name that is in the way. Witness: what is read as a member is a property of the
argument, or is inherited.
-/
theorem meansMembers_iff
    : MeansMembers (declaration options typeName enumeration cursor).object enumeration.members
          (parseSwitch typeName enumeration.members) (nameSwitch typeName enumeration.members)
      ↔ typeName ≠ "object"
        ∧ ∀ member ∈ enumeration.members, member.name ≠ prototypeName := by
  refine ⟨fun means => ⟨?_, ?_⟩, fun names => meansMembers distinct free names.1 names.2⟩
  · -- In an enum of this name, what is read as a member is a property of the argument.
    rintro rfl
    have unnumbered
        : ∀ number,
            Datum.number .notANumber = .number number
            → firstOf? enumeration.members number = none := by
      rintro number same
      rw [← Datum.number.inj same]
      exact List.find?_eq_none.mpr (fun member _ => Bool.false_ne_true)
    have read := (means.ofOther (.number .notANumber) unnumbered nofun).value
    have hidden
        : (declaration options "object" enumeration cursor).object.read? "object"
              (.number .notANumber)
              (memberOf (declaration options "object" enumeration cursor).object.name
                unrecognizedName)
          = some .undefined :=
      rfl
    rw [hidden] at read
    cases read
  · intro member declared same
    have held := means.held member declared
    rw [same, held?_prototypeName] at held
    cases held

end Means

/-- The switches of an enum mean its members just if the enum is not called as their
parameter and no member as what an object inherits from. The union lists the numbers of
the members and the added one, each once.
-/
theorem switches_mean_members_iff (options : Options) (typeName : String)
    (enumeration : Schema.Enumeration) (cursor : Cursor)
    (distinct : (enumeration.members.map Member.name).Nodup)
    (free
      : ∀ member ∈ enumeration.members,
          member.name ∉ [unrecognizedName, "fromJSON", "toJSON"])
    : (options.jsonMethods = true
        → ∃ parse name,
            (declaration options typeName enumeration cursor).object.Runs "fromJSON" "object" parse
            ∧ (declaration options typeName enumeration cursor).object.Runs "toJSON" "object" name
            ∧ (MeansMembers (declaration options typeName enumeration cursor).object
                  enumeration.members parse name
                ↔ typeName ≠ "object"
                  ∧ ∀ member ∈ enumeration.members, member.name ≠ prototypeName))
      ∧ (declaration options typeName enumeration cursor).numbers.Nodup
      ∧ ∀ number,
          number ∈ (declaration options typeName enumeration cursor).numbers
          ↔ number = unrecognizedNumber
            ∨ ∃ member ∈ enumeration.members, member.number = number := by
  refine ⟨fun json => ?_, nodup_numbers, fun number => mem_numbers⟩
  exact ⟨_, _, runs_fromJson json, runs_toJson json, meansMembers_iff distinct free⟩

/-- Two names of one number and a declared -1: the switches mean the members, but not in
an enum that is called as their parameter.
-/
theorem switches_mean_members_iff_aliased
    : let enumeration : Schema.Enumeration :=
        {
          name := "State"
          members :=
            [
              { name := "STARTED", number := 1 },
              { name := "RUNNING", number := 1 },
              { name := "LOST", number := -1 }
            ]
        }
      let declared (typeName : String) := declaration {} typeName enumeration {}
      (enumeration.members.map Member.name).Nodup
      ∧ (∀ member ∈ enumeration.members,
          member.name ∉ [unrecognizedName, "fromJSON", "toJSON"])
      ∧ (declared "State").numbers = [1, -1]
      ∧ (∃ parse name,
          (declared "State").object.Runs "fromJSON" "object" parse
          ∧ (declared "State").object.Runs "toJSON" "object" name
          ∧ MeansMembers (declared "State").object enumeration.members parse name)
      ∧ ∃ parse name,
          (declared "object").object.Runs "fromJSON" "object" parse
          ∧ (declared "object").object.Runs "toJSON" "object" name
          ∧ ¬MeansMembers (declared "object").object enumeration.members parse name := by
  intro enumeration declared
  have distinct : (enumeration.members.map Member.name).Nodup := by decide
  have free
      : ∀ member ∈ enumeration.members,
          member.name ∉ [unrecognizedName, "fromJSON", "toJSON"] := by
    decide
  have ordinary : ∀ member ∈ enumeration.members, member.name ≠ prototypeName := by decide
  obtain ⟨switches, -⟩ := switches_mean_members_iff {} "State" enumeration {} distinct free
  obtain ⟨hidden, -⟩ := switches_mean_members_iff {} "object" enumeration {} distinct free
  obtain ⟨parse, name, parses, names, means⟩ := switches rfl
  obtain ⟨parse', name', parses', names', means'⟩ := hidden rfl
  exact ⟨distinct, free, by decide,
    ⟨parse, name, parses, names, means.mpr ⟨by decide, ordinary⟩⟩,
    parse', name', parses', names', fun all => (means'.mp all).1 rfl⟩

end ProtobufTypeScript.Enumeration
