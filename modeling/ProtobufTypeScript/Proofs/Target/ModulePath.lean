import Mathlib.Data.List.Induction
import ProtobufTypeScript.Proofs.Text.Lines
import ProtobufTypeScript.Target.ModulePath

/-!
Where relative paths lead. A path that is followed from the directory of a unit, with its dot
segments taken as steps, ends at the unit that it was made for, so that no two units are reached by
the same path.
-/

namespace ProtobufTypeScript.Target.ModulePath

/-- Whether a path names each of its directories and its file. -/
def IsProper (path : String) : Prop :=
  ∀ segment ∈ segments path, segment ≠ "" ∧ segment ≠ "." ∧ segment ≠ ".."

instance (path : String) : Decidable (IsProper path) :=
  List.decidableBAll _ (segments path)

/-- Whether a path starts at the directory of whoever follows it. -/
def IsRelative (path : String) : Prop :=
  ∃ rest, path = "./" ++ rest ∨ path = "../" ++ rest

/-- Relative paths start with a dot. -/
theorem IsRelative.head?_toList {path : String} (relative : IsRelative path)
    : path.toList.head? = some '.' := by
  obtain ⟨rest, rfl | rfl⟩ := relative <;> simp

/-- The place that segments lead to from another one: a dot segment stays, two dots leave
the last directory, and any other segment is entered. Nothing is above the outermost
directory.
-/
def follow : List String → List String → Option (List String)
  | place, [] => some place
  | place, segment :: rest =>
      if segment = "." then follow place rest
      else if segment = ".." then if place.isEmpty then none else follow place.dropLast rest
      else follow (place ++ [segment]) rest

/-- What a path stands for in a unit, if it stands for anything: it is joined to the
directory of the unit, and the dot segments are taken out.
-/
def resolve (source path : String) : Option String :=
  (follow [] (directories source ++ segments path)).map ("/".intercalate ·)

/-- A path is its segments with slashes between them. -/
theorem intercalate_segments (path : String)
    : "/".intercalate (segments path) = path :=
  Text.intercalate_partsAt rfl path

/-- Segments without slashes are read back from the path that they make. -/
theorem segments_intercalate {parts : List String} (some : parts ≠ [])
    (free : ∀ part ∈ parts, '/' ∉ part.toList)
    : segments ("/".intercalate parts) = parts :=
  Text.partsAt_intercalate rfl some free

/-- The segments of a path are its directories and then its file. -/
theorem segments_eq (path : String)
    : segments path = directories path ++ [file path] := by
  have some : segments path ≠ [] := Text.partsAt_ne_nil '/' path
  rw [directories, file, List.getLast?_eq_some_getLast some, Option.getD_some]
  exact (List.dropLast_concat_getLast some).symm

theorem mem_segments_of_mem_directories {path segment : String}
    (member : segment ∈ directories path)
    : segment ∈ segments path :=
  List.dropLast_subset _ member

/-- Two dots for each of the last directories lead out of these. -/
theorem follow_up (place up rest : List String)
    : follow (place ++ up) (up.map (fun _ => "..") ++ rest) = follow place rest := by
  rw [List.map_const']
  -- The innermost directory is left first, hence the induction from the end.
  induction up using List.reverseRecOn with
  | nil => simp
  | append_singleton init last ih =>
      rw [List.length_append, List.length_singleton, List.replicate_succ, List.cons_append,
        follow, if_neg (by decide), if_pos rfl, ← List.append_assoc, if_neg (by simp),
        List.dropLast_concat, ih]

/-- Proper segments are entered one after the other. -/
theorem follow_down {down : List String}
    (proper : ∀ segment ∈ down, segment ≠ "" ∧ segment ≠ "." ∧ segment ≠ "..")
    (place rest : List String)
    : follow place (down ++ rest) = follow (place ++ down) rest := by
  induction down generalizing place with
  | nil => simp
  | cons segment down ih =>
      rw [List.forall_mem_cons] at proper
      obtain ⟨⟨-, stays, leaves⟩, later⟩ := proper
      rw [List.cons_append, follow, if_neg stays, if_neg leaves, ih later, List.append_assoc,
        List.singleton_append]

/-- What remains of two lists without their common beginning follows this beginning.
Witness: the recursion that drops it, one segment at a time.
-/
theorem exists_dropCommon (left right : List String)
    : ∃ common,
        left = common ++ (dropCommon left right).1
        ∧ right = common ++ (dropCommon left right).2 := by
  induction left, right using dropCommon.induct with
  | case1 as segment bs ih =>
      obtain ⟨common, fromLeft, fromRight⟩ := ih
      rw [dropCommon, if_pos rfl]
      exact ⟨segment :: common, congrArg _ fromLeft, congrArg _ fromRight⟩
  | case2 a as b bs different =>
      rw [dropCommon, if_neg different]
      exact ⟨[], rfl, rfl⟩
  | case3 as bs plain =>
      rw [dropCommon]
      · exact ⟨[], rfl, rfl⟩
      · exact plain

/-- The segments of the relative path between two units. -/
def route (source target : String) : List String :=
  let (up, down) := dropCommon (directories source) (directories target)
  (if up.isEmpty then ["."] else up.map (fun _ => "..")) ++ (down ++ [file target])

/-- A relative path is the route with slashes between its steps. -/
theorem relative_eq (source target : String)
    : relative source target = "/".intercalate (route source target) := by
  unfold relative route
  simp only
  split
  · rename_i here
    rw [List.singleton_append, String.intercalate_cons_of_ne_nil (by simp)]
    simp [List.isEmpty_iff.mp here]
  · rw [List.append_assoc]

/-- A relative path starts at the directory of its unit. -/
theorem isRelative_relative (source target : String)
    : IsRelative (relative source target) := by
  rw [relative_eq]
  unfold route
  simp only
  cases (dropCommon (directories source) (directories target)).1 with
  | nil => exact ⟨_, Or.inl (String.intercalate_cons_of_ne_nil (by simp))⟩
  | cons directory outer => exact ⟨_, Or.inr (String.intercalate_cons_of_ne_nil (by simp))⟩

/-- The segments of a relative path are the steps of the route, as none of them holds a
slash.
-/
theorem segments_relative (source target : String)
    : segments (relative source target) = route source target := by
  rw [relative_eq]
  refine segments_intercalate (by simp [route]) ?_
  obtain ⟨common, -, shared⟩ := exists_dropCommon (directories source) (directories target)
  have plain : ∀ segment ∈ segments target, '/' ∉ segment.toList :=
    fun segment member => Text.not_mem_of_mem_partsAt member
  rw [segments_eq, shared] at plain
  simp only [List.forall_mem_append] at plain
  unfold route
  simp only [List.forall_mem_append]
  refine ⟨?_, plain.1.2, plain.2⟩
  split <;> simp

/-- The route between two units leads from the directory of one to the other. Its first
part leads up to the common directories, the second one down.
-/
theorem follow_route (source : String) {target : String} (proper : IsProper target)
    : follow (directories source) (route source target) = some (segments target) := by
  obtain ⟨common, left, right⟩ := exists_dropCommon (directories source) (directories target)
  unfold route
  generalize dropCommon (directories source) (directories target) = parts at left right ⊢
  obtain ⟨up, down⟩ := parts
  -- The first part of the route leads up to the common directories, the second one down.
  have outside
      : follow (directories source)
          ((if up.isEmpty then ["."] else up.map (fun _ => "..")) ++ (down ++ [file target]))
        = follow common (down ++ [file target]) := by
    rw [left]
    split
    · rename_i here
      rw [List.isEmpty_iff.mp here, List.append_nil, List.singleton_append, follow, if_pos rfl]
    · exact follow_up common up _
  have inside
      : ∀ segment ∈ down ++ [file target],
          segment ≠ "" ∧ segment ≠ "." ∧ segment ≠ ".." := by
    intro segment member
    refine proper segment ?_
    rw [segments_eq, right, List.append_assoc]
    exact List.mem_append_right common member
  have reached := follow_down inside common []
  rw [List.append_nil, follow, ← List.append_assoc, ← right, ← segments_eq] at reached
  exact outside.trans reached

/-- The relative path between two units stands for the one in the other. -/
theorem resolve_relative {source target : String} (here : IsProper source)
    (there : IsProper target)
    : resolve source (relative source target) = some target := by
  have start
      : ∀ segment ∈ directories source, segment ≠ "" ∧ segment ≠ "." ∧ segment ≠ ".." :=
    fun segment member => here segment (mem_segments_of_mem_directories member)
  rw [resolve, segments_relative, follow_down start, List.nil_append, follow_route source there,
    Option.map_some, intercalate_segments]

/-- The relative path between two units starts at the directory of the one and stands
there for the other, so that no two units are reached by the same path.
-/
theorem relative_leads_to_target {source target : String} (here : IsProper source)
    (there : IsProper target)
    : IsRelative (relative source target)
      ∧ resolve source (relative source target) = some target
      ∧ ∀ other,
          IsProper other
          → relative source other = relative source target
          → other = target := by
  refine ⟨isRelative_relative source target, resolve_relative here there, ?_⟩
  intro other proper same
  have led : resolve source (relative source other) = some other := resolve_relative here proper
  rw [same, resolve_relative here there] at led
  exact (Option.some.inj led).symm

/-- A unit whose path is the directory of the one that imports it. -/
theorem relative_leads_to_target_above
    : IsProper "shop/cart/item"
      ∧ IsProper "shop/cart"
      ∧ relative "shop/cart/item" "shop/cart" = "../cart"
      ∧ resolve "shop/cart/item" "../cart" = some "shop/cart"
      ∧ ∀ other,
          IsProper other
          → relative "shop/cart/item" other = "../cart"
          → other = "shop/cart" := by
  have here : IsProper "shop/cart/item" := by decide
  have there : IsProper "shop/cart" := by decide
  have written : relative "shop/cart/item" "shop/cart" = "../cart" := by decide
  obtain ⟨-, resolved, only⟩ := relative_leads_to_target here there
  rw [written] at resolved only
  exact ⟨here, there, written, resolved, only⟩

end ProtobufTypeScript.Target.ModulePath
