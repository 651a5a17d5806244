import ProtobufTypeScript.Proofs.Generation.Generated
import ProtobufTypeScript.Proofs.Text.Ends

/-!
The paths of outputs. An output is named after its file, without the ending of schema files if the
file has it. A file without that ending keeps its name, so that it shares its path with the file
that has the ending in addition. No other two files share one.
-/

namespace ProtobufTypeScript

-----------------------------------------------------------------------------------------
-- The path of one file
-----------------------------------------------------------------------------------------

namespace Schema

/-- Whether a file name ends as those of schema files do. -/
def IsSchemaName (name : String) : Prop :=
  ∃ stem, name = stem ++ ".proto"

/-- A file with the ending of schema files has a unit without it. -/
theorem unitPath_append (stem : String)
    : unitPath (stem ++ ".proto") = stem := by
  rw [unitPath, Text.beforeEnd?_eq_some.mpr rfl, Option.getD_some]

/-- A file without that ending has a unit of its own name. -/
theorem unitPath_eq_self {name : String} (other : ¬ IsSchemaName name)
    : unitPath name = name := by
  unfold unitPath
  cases found : Text.beforeEnd? ".proto" name with
  | none => rfl
  | some stem => exact absurd ⟨stem, Text.beforeEnd?_eq_some.mp found⟩ other

/-- The second of two names is the first one, which lacks the ending, with the ending
added.
-/
def Completes (bare full : String) : Prop :=
  ¬ IsSchemaName bare ∧ full = bare ++ ".proto"

/-- Two names lead to one path only if they are the same or one completes the other.
Witness: which of the two have the ending of schema files.
-/
theorem outputName_eq_iff {first second : String}
    : outputName first = outputName second
      ↔ first = second ∨ Completes first second ∨ Completes second first := by
  unfold outputName
  rw [String.append_left_inj]
  constructor
  · intro same
    by_cases firstEnds : IsSchemaName first <;> by_cases secondEnds : IsSchemaName second
    · obtain ⟨stem, rfl⟩ := firstEnds
      obtain ⟨other, rfl⟩ := secondEnds
      rw [unitPath_append, unitPath_append] at same
      exact .inl (congrArg (· ++ ".proto") same)
    · obtain ⟨stem, rfl⟩ := firstEnds
      rw [unitPath_append, unitPath_eq_self secondEnds] at same
      exact .inr (.inr ⟨secondEnds, congrArg (· ++ ".proto") same⟩)
    · obtain ⟨stem, rfl⟩ := secondEnds
      rw [unitPath_append, unitPath_eq_self firstEnds] at same
      exact .inr (.inl ⟨firstEnds, congrArg (· ++ ".proto") same.symm⟩)
    · rw [unitPath_eq_self firstEnds, unitPath_eq_self secondEnds] at same
      exact .inl same
  · rintro (rfl | ⟨other, rfl⟩ | ⟨other, rfl⟩)
    · rfl
    · rw [unitPath_append, unitPath_eq_self other]
    · rw [unitPath_append, unitPath_eq_self other]

end Schema

namespace Generation

open Schema

-----------------------------------------------------------------------------------------
-- The paths of a request
-----------------------------------------------------------------------------------------

/-- The outputs of files with different names share a path exactly if one of the selected
files has the name of another one, which lacks the ending of schema files, with that
ending added.
-/
theorem nodup_output_names_iff {request : Request} {results : List Output}
    (distinct : (request.files.map File.name).Nodup)
    (accepted : outputs request = .ok results)
    : (results.map Output.name).Nodup
      ↔ ∀ bare ∈ request.files,
          ∀ full ∈ request.files,
            selects request bare = true
            → selects request full = true
            → ¬ Completes bare.name full.name := by
  have apart : (request.files.filter (selects request)).Nodup := distinct.of_map.filter _
  rw [names_of_outputs accepted, List.nodup_map_iff_inj_on apart]
  constructor
  · intro injective bare inFiles full inFiles' selected selected' completes
    have same :=
      injective bare (List.mem_filter.mpr ⟨inFiles, selected⟩) full
        (List.mem_filter.mpr ⟨inFiles', selected'⟩)
        (outputName_eq_iff.mpr (.inr (.inl completes)))
    exact completes.1 ⟨bare.name, (congrArg File.name same).trans completes.2⟩
  · intro none first inFirst second inSecond same
    obtain ⟨inFiles, selected⟩ := List.mem_filter.mp inFirst
    obtain ⟨inFiles', selected'⟩ := List.mem_filter.mp inSecond
    rcases outputName_eq_iff.mp same with equal | completes | completes
    · exact List.inj_on_of_nodup_map distinct inFiles inFiles' equal
    · exact absurd completes (none first inFiles second inFiles' selected selected')
    · exact absurd completes (none second inFiles' first inFiles selected' selected)

/-- A file without the ending of schema files beside one with another name. -/
theorem nodup_output_names_two_files
    : let request : Request :=
        {
          files :=
            [
              { name := "shop/cart", messages := [{ name := "Cart" }] },
              { name := "shop/user.proto", messages := [{ name := "User" }] }
            ]
        }
      (request.files.map File.name).Nodup
      ∧ ∃ results, outputs request = .ok results ∧ (results.map Output.name).Nodup := by
  intro request
  have distinct : (request.files.map File.name).Nodup := by decide
  have some : (outputs request).toOption.isSome = true := by decide +kernel
  obtain ⟨results, kept⟩ := Option.isSome_iff_exists.mp some
  have accepted := toOption_eq_some.mp kept
  refine ⟨distinct, results, accepted, (nodup_output_names_iff distinct accepted).mpr ?_⟩
  intro bare inFiles full inFiles' _ _ completes
  have differ
      : ∀ bare ∈ request.files, ∀ full ∈ request.files, full.name ≠ bare.name ++ ".proto" := by
    decide
  exact differ bare inFiles full inFiles' completes.2

/-- Two files of different names and types are accepted, and both outputs have one path.
-/
theorem exists_shared_output_name
    : ∃ request results,
        (request.files.map File.name).Nodup
        ∧ outputs request = .ok results
        ∧ ¬ (results.map Output.name).Nodup := by
  let request : Request :=
    {
      files :=
        [
          { name := "user", messages := [{ name := "User" }] },
          { name := "user.proto", messages := [{ name := "Account" }] }
        ]
    }
  have some : (outputs request).toOption.isSome = true := by decide +kernel
  obtain ⟨results, kept⟩ := Option.isSome_iff_exists.mp some
  have accepted := toOption_eq_some.mp kept
  refine ⟨request, results, by decide, accepted, ?_⟩
  rw [names_of_outputs accepted]
  decide

end Generation

end ProtobufTypeScript
