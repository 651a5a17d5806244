import Mathlib.Data.List.Perm.Basic
import ProtobufTypeScript.Proofs.Enumeration.Switches

/-!
Keys and labels of an enum. `fromJSON` has one label for each number of the union and one for each
name; they are told apart, and so are the keys of the object, unless a member has a name that is
given to something else.
-/

namespace ProtobufTypeScript.Enumeration

open Schema Target

variable {options : Options} {typeName : String} {members : List Member}
  {enumeration : Schema.Enumeration} {cursor : Cursor}

-----------------------------------------------------------------------------------------
-- The numbers with labels
-----------------------------------------------------------------------------------------

/-- Of the numbers that were not seen before, each is marked once, where it comes first.
Induction on the members, with the numbers seen so far.
-/
theorem eraseDups_markFirst (seen : List Int32)
    : ((markFirst seen members).filter Prod.snd).map (fun entry => entry.1.number)
      = ((members.map Member.number).filter (fun number => !seen.contains number)).eraseDups := by
  induction members generalizing seen with
  | nil => rfl
  | cons first rest ih =>
      rw [markFirst, List.map_cons]
      by_cases known : first.number ∈ seen
      · rw [List.filter_cons_of_neg (by simp [known]), List.filter_cons_of_neg (by simp [known]),
          ih]
        congr 2
        funext number
        by_cases same : number = first.number <;> simp [same, known]
      · rw [List.filter_cons_of_pos (by simp [known]), List.filter_cons_of_pos (by simp [known]),
          List.map_cons, List.eraseDups_cons, ih, List.filter_filter]
        congr 3
        funext number
        simp [beq_eq_decide]

/-- The labels for numbers are those of the union: one for each number of a member, and
one for the added number unless a member has it.
-/
theorem numbers_eq
    : numbers members
      = (firstMembers members).map Member.number
          ++ if members.any (fun member => member.number == unrecognizedNumber) then []
            else [unrecognizedNumber] := by
  have first
      : (firstMembers members).map Member.number = (members.map Member.number).eraseDups := by
    rw [firstMembers, List.map_map]
    exact (eraseDups_markFirst []).trans (by simp)
  have added
      : ([unrecognizedNumber].removeAll (members.map Member.number)).eraseDups
        = if members.any (fun member => member.number == unrecognizedNumber) then []
          else [unrecognizedNumber] := by
    rw [List.cons_removeAll, List.removeAll]
    by_cases taken : ∃ member ∈ members, member.number = unrecognizedNumber
    · simp [taken]
    · simp [taken, List.eraseDups_cons]
  rw [numbers, List.eraseDups_append, first, added]

/-- The labels with numbers are those of the marked members, in order. Induction on the
entries.
-/
theorem flatMap_firstLabel (entries : List (Member × Bool))
    : entries.flatMap (fun entry => if entry.2 then [numberLabel entry.1.number] else [])
      = (entries.filter Prod.snd).map (fun entry => numberLabel entry.1.number) := by
  induction entries with
  | nil => rfl
  | cons first rest ih => cases isFirst : first.2 <;> simp [isFirst, ih]

/-- `fromJSON` has a label for each number of the union, for each name and for all other
values. Witness: each section has up to two labels, which are sorted by what they are for.
-/
theorem perm_labels_parseSwitch
    : (parseSwitch typeName members).labels.Perm
        ((numbers members).map numberLabel
          ++ ((members.map Member.name ++ [unrecognizedName]).map (fun name => .case (.quoted name))
            ++ [.default])) := by
  have numbered
      : (markFirst [] members).flatMap
            (fun entry => if entry.2 then [numberLabel entry.1.number] else [])
        = ((firstMembers members).map Member.number).map numberLabel := by
    rw [flatMap_firstLabel, firstMembers, List.map_map, List.map_map]
    rfl
  have named
      : (markFirst [] members).flatMap (fun entry => [CaseLabel.case (.quoted entry.1.name)])
        = (members.map Member.name).map (fun name => .case (.quoted name)) := by
    rw [← List.map_eq_flatMap, ← map_fst_markFirst members [], List.map_map,
      List.map_map, map_fst_markFirst]
    rfl
  have parted
      : (((markFirst [] members).map (parseSection typeName)).flatMap Section.labels).Perm
          (((firstMembers members).map Member.number).map numberLabel
            ++ (members.map Member.name).map (fun name => .case (.quoted name))) := by
    rw [List.flatMap_map, ← numbered, ← named]
    exact (List.flatMap_append_perm _ _ _).symm
  have last
      : (unrecognizedSection typeName members).labels
        = (if members.any (fun member => member.number == unrecognizedNumber) then []
            else [unrecognizedNumber]).map numberLabel
          ++ [.case (.quoted unrecognizedName), .default] := by
    rw [apply_ite (List.map numberLabel)]
    rfl
  rw [parseSwitch, Stmt.labels, List.flatMap_append, List.flatMap_singleton, last, numbers_eq,
    List.map_append, List.map_append, List.append_assoc, List.append_assoc]
  refine (parted.append_right _).trans ?_
  rw [List.append_assoc]
  exact (List.perm_append_comm_assoc _ _ _).append_left _

-----------------------------------------------------------------------------------------
-- Whether they are told apart
-----------------------------------------------------------------------------------------

section Distinct

variable (distinct : (members.map Member.name).Nodup)

include distinct

/-- The labels of the switch for JSON values are pairwise different exactly if no member
has the name of the added one. Numbers have one label each by construction, and members
differ in their names.
-/
theorem nodup_labels_parseSwitch_iff
    : (parseSwitch typeName members).labels.Nodup
      ↔ ∀ member ∈ members, member.name ≠ unrecognizedName := by
  have numbered : ((numbers members).map numberLabel).Nodup := by
    refine nodup_numbers.map (fun left right same => ?_)
    simpa [numberLabel, Int32.toInt_inj] using same
  have named
      : ((members.map Member.name ++ [unrecognizedName]).map
            (fun name => CaseLabel.case (.quoted name))).Nodup
        ↔ ∀ member ∈ members, member.name ≠ unrecognizedName := by
    rw [List.nodup_map_iff (fun left right same => by simpa using same)]
    simp [List.nodup_append, distinct]
  have apart
      : ((members.map Member.name ++ [unrecognizedName]).map
            (fun name => CaseLabel.case (.quoted name))).Disjoint [.default] := by
    simp [List.disjoint_singleton]
  have others
      : ((numbers members).map numberLabel).Disjoint
          ((members.map Member.name ++ [unrecognizedName]).map
              (fun name => CaseLabel.case (.quoted name))
            ++ [.default]) := by
    intro label isNumber isOther
    obtain ⟨number, -, rfl⟩ := List.mem_map.mp isNumber
    simp [numberLabel] at isOther
  rw [perm_labels_parseSwitch.nodup_iff, List.nodup_append', List.nodup_append', named]
  exact ⟨fun parted => parted.2.1.1,
    fun names => ⟨numbered, ⟨names, List.nodup_singleton _, apart⟩, others⟩⟩

/-- `toJSON` has a label for each name that is the first one of its number, and such names
are among those of the members, which are different.
-/
theorem nodup_labels_nameSwitch
    : (nameSwitch typeName members).labels.Nodup := by
  have first : ((firstMembers members).map Member.name).Nodup :=
    distinct.sublist (firstMembers_sublist.map Member.name)
  have labelled
      : (nameSwitch typeName members).labels
        = ((firstMembers members).map Member.name).map (fun name => .case (memberOf typeName name))
            ++ [.default] := by
    rw [nameSwitch, Stmt.labels, List.flatMap_append, List.flatMap_map, List.map_map,
      List.map_eq_flatMap]
    rfl
  rw [labelled, List.nodup_append']
  refine ⟨first.map (fun left right same => ?_), List.nodup_singleton _, ?_⟩
  · simpa [memberOf, Expr.field] using same
  · simp [List.disjoint_singleton]

end Distinct

/-- The keys of an enum are told apart just if no member has the name of the added member
or of a conversion, the labels of `fromJSON` just if none has the name of the added
member, and those of `toJSON` always.
-/
theorem keys_and_labels_nodup_iff (options : Options) (typeName : String)
    (enumeration : Schema.Enumeration) (cursor : Cursor)
    (distinct : (enumeration.members.map Member.name).Nodup)
    : ((declaration options typeName enumeration cursor).object.keys.Nodup
        ↔ ∀ member ∈ enumeration.members,
            member.name ∉ unrecognizedName :: conversionKeys options)
      ∧ (options.jsonMethods = true
        → ∃ parse name,
            (declaration options typeName enumeration cursor).object.Runs "fromJSON" "object" parse
            ∧ (declaration options typeName enumeration cursor).object.Runs "toJSON" "object" name
            ∧ (parse.labels.Nodup
                ↔ ∀ member ∈ enumeration.members, member.name ≠ unrecognizedName)
            ∧ name.labels.Nodup) := by
  have converting : (unrecognizedName :: conversionKeys options).Nodup := by
    unfold conversionKeys
    split <;> decide
  refine ⟨?_, fun json => ⟨_, _, runs_fromJson json, runs_toJson json, ?_⟩⟩
  · rw [keys_declaration, List.nodup_append']
    simp [distinct, converting, List.Disjoint]
  · exact ⟨nodup_labels_parseSwitch_iff distinct, nodup_labels_nameSwitch distinct⟩

/-- A declared member has the name of the added one. -/
theorem keys_and_labels_nodup_iff_unrecognized
    : let enumeration : Schema.Enumeration :=
        {
          name := "Color"
          members := [{ name := "RED", number := 0 }, { name := "UNRECOGNIZED", number := -1 }]
        }
      let object := (declaration {} "Color" enumeration {}).object
      (enumeration.members.map Member.name).Nodup
      ∧ ¬object.keys.Nodup
      ∧ ∃ parse name,
          object.Runs "fromJSON" "object" parse
          ∧ object.Runs "toJSON" "object" name
          ∧ ¬parse.labels.Nodup
          ∧ name.labels.Nodup := by
  intro enumeration object
  have distinct : (enumeration.members.map Member.name).Nodup := by decide
  obtain ⟨keys, switches⟩ := keys_and_labels_nodup_iff {} "Color" enumeration {} distinct
  obtain ⟨parse, name, parses, names, labels, others⟩ := switches rfl
  exact ⟨distinct, mt keys.mp (by decide), parse, name, parses, names, mt labels.mp (by decide),
    others⟩

end ProtobufTypeScript.Enumeration
