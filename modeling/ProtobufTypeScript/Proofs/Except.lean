import Mathlib.Data.List.Forall2

/-!
Computations that may fail: what is known of their parts once the whole has a result.
-/

namespace ProtobufTypeScript

variable {ε α β : Type}

/-- A computation in two parts has a result exactly if both have one. -/
theorem bind_eq_ok {first : Except ε α} {next : α → Except ε β} {result : β}
    : first >>= next = .ok result ↔ ∃ value, first = .ok value ∧ next value = .ok result := by
  cases first with
  | error error => simp [bind, Except.bind]
  | ok value => simp [bind, Except.bind]

/-- A computation in two parts is an error exactly if one of them is. -/
theorem bind_eq_error {first : Except ε α} {next : α → Except ε β} {error : ε}
    : first >>= next = .error error
      ↔ first = .error error ∨ ∃ value, first = .ok value ∧ next value = .error error := by
  cases first with
  | error error => simp [bind, Except.bind]
  | ok value => simp [bind, Except.bind]

/-- Computations that agree after a function agree also with what follows, if this is the
same wherever the function is. Witness: whether each of the two is an error.
-/
theorem bind_congr_of_map {κ : Type} {key : α → κ} {left right : Except ε α}
    {leftNext rightNext : α → Except ε β} (same : left.map key = right.map key)
    (next : ∀ a b, key a = key b → leftNext a = rightNext b)
    : left >>= leftNext = right >>= rightNext := by
  cases left with
  | error leftError =>
      cases right with
      | error rightError => exact congrArg Except.error (Except.error.inj same)
      | ok b => cases same
  | ok a =>
      cases right with
      | error rightError => cases same
      | ok b => exact next a b (Except.ok.inj same)

/-- A mapped computation has a result exactly if the computation has one that is mapped to
it. The two forms of a computation are the cases.
-/
theorem map_eq_ok {computation : Except ε α} {f : α → β} {result : β}
    : computation.map f = .ok result ↔ ∃ value, computation = .ok value ∧ f value = result := by
  cases computation with
  | error error => simp [Except.map]
  | ok value => simp [Except.map]

/-- Mapping leaves errors alone: a mapped computation has an error exactly if the
computation has the same one.
-/
theorem map_eq_error {computation : Except ε α} {f : α → β} {error : ε}
    : computation.map f = .error error ↔ computation = .error error := by
  cases computation with
  | error error => simp [Except.map]
  | ok value => simp [Except.map]

/-- A computation has a result exactly if this is what remains when errors are forgotten.
-/
theorem toOption_eq_some {computation : Except ε α} {result : α}
    : computation.toOption = some result ↔ computation = .ok result := by
  cases computation <;> simp [Except.toOption]

/-- What is made from a list has a result exactly if each member has one, by induction on
the list.
-/
theorem mapM_eq_ok {f : α → Except ε β} {inputs : List α} {results : List β}
    : inputs.mapM f = .ok results
      ↔ List.Forall₂ (fun input result => f input = .ok result) inputs results := by
  induction inputs generalizing results with
  | nil => cases results <;> simp [pure, Except.pure]
  | cons input rest ih =>
      simp only [List.mapM_cons, bind_eq_ok, ih, pure, Except.pure, Except.ok.injEq,
        List.forall₂_cons_left_iff]
      grind

/-- What is made from a list and then changed member by member can be changed as it is
made, by induction on the list.
-/
theorem map_mapM {γ : Type} (f : α → Except ε β) (g : β → γ) (inputs : List α)
    : (inputs.mapM f).map (List.map g) = inputs.mapM (fun input => (f input).map g) := by
  induction inputs with
  | nil => rfl
  | cons input rest ih =>
      rw [List.mapM_cons, List.mapM_cons, ← ih]
      cases f input with
      | error error => rfl
      | ok value => cases rest.mapM f <;> rfl

/-- A computation in two parts is changed by a change of the second one. -/
theorem except_map_bind {γ : Type} (first : Except ε α) (next : α → Except ε β) (f : β → γ)
    : (first >>= next).map f = first >>= fun value => (next value).map f := by
  cases first <;> rfl

/-- Lists that agree after a function give the same, if members do wherever the function
agrees. Witness: induction on one list, as the other one is as long.
-/
theorem mapM_congr_of_map {κ : Type} {key : α → κ} {f : α → Except ε β} {left right : List α}
    (same : left.map key = right.map key) (each : ∀ a b, key a = key b → f a = f b)
    : left.mapM f = right.mapM f := by
  induction left generalizing right with
  | nil => rw [List.map_eq_nil_iff.mp same.symm]
  | cons a rest ih =>
      obtain ⟨b, others, rfl, here, later⟩ := List.map_eq_cons_iff.mp same.symm
      rw [List.mapM_cons, List.mapM_cons, each a b here.symm, ih later.symm]

/-- Parts that are put together and then changed member by member can be changed as they
are made.
-/
theorem map_mapM_flatten {γ : Type} (f : α → Except ε (List β)) (g : β → γ) (inputs : List α)
    : (inputs.mapM f >>= fun parts => pure parts.flatten).map (List.map g)
      = (inputs.mapM (fun input => (f input).map (List.map g))).map List.flatten := by
  rw [← map_mapM]
  cases inputs.mapM f with
  | error error => rfl
  | ok parts => exact congrArg Except.ok List.map_flatten

/-- A list is parted at its first member or at a later one. Inductions over errors use
this to step from a list to its rest.
-/
theorem exists_parted_cons {first : α} {rest : List α} {p : List α → α → Prop}
    : (∃ before input after, first :: rest = before ++ input :: after ∧ p before input)
      ↔ p [] first
        ∨ ∃ before input after, rest = before ++ input :: after ∧ p (first :: before) input := by
  constructor
  · rintro ⟨before, input, after, parted, held⟩
    cases before with
    | nil =>
        obtain ⟨rfl, -⟩ := List.cons.inj parted
        exact Or.inl held
    | cons head others =>
        obtain ⟨rfl, later⟩ := List.cons.inj parted
        exact Or.inr ⟨others, input, after, later, held⟩
  · rintro (held | ⟨before, input, after, rfl, held⟩)
    · exact ⟨[], first, rest, rfl, held⟩
    · exact ⟨first :: before, input, after, rfl, held⟩

/-- What is made from a list is an error exactly if some member gives it and all before it
have results, by induction on the list.
-/
theorem mapM_eq_error {f : α → Except ε β} {inputs : List α} {error : ε}
    : inputs.mapM f = .error error
      ↔ ∃ before input after,
          inputs = before ++ input :: after
          ∧ (∀ earlier ∈ before, ∃ value, f earlier = .ok value)
          ∧ f input = .error error := by
  induction inputs with
  | nil => simp [pure, Except.pure]
  | cons first rest ih =>
      rw [exists_parted_cons, List.mapM_cons]
      cases made : f first with
      | error other => simp [made, bind, Except.bind]
      | ok value =>
          simp only [List.not_mem_nil, false_implies, implies_true, made, reduceCtorEq, and_false,
            false_or, List.forall_mem_cons, Except.ok.injEq, exists_eq', true_and, ← ih]
          cases rest.mapM f <;> simp [bind, Except.bind, pure, Except.pure]

/-- Going through a list ends with an error exactly if some member gives it in the state
that those before it lead to, by induction on the list with the state generalised.
-/
theorem foldlM_eq_error {σ : Type} {step : σ → α → Except ε σ} {start : σ} {inputs : List α}
    {error : ε}
    : inputs.foldlM step start = .error error
      ↔ ∃ before input after,
          inputs = before ++ input :: after
          ∧ ∃ state, before.foldlM step start = .ok state ∧ step state input = .error error := by
  induction inputs generalizing start with
  | nil => simp [pure, Except.pure]
  | cons first rest ih =>
      rw [exists_parted_cons, List.foldlM_cons]
      cases made : step start first with
      | error other => simp [made, bind, Except.bind, pure, Except.pure]
      | ok state =>
          simp only [List.foldlM_cons, List.foldlM_nil, made]
          simp [bind, Except.bind, pure, Except.pure, made, ih]

/-- Every member of one of two related lists is related to a member of the other, by
induction on how the lists are related.
-/
theorem exists_of_mem_right {R : α → β → Prop} {left : List α} {right : List β}
    (related : List.Forall₂ R left right) {b : β} (member : b ∈ right)
    : ∃ a ∈ left, R a b := by
  induction related with
  | nil => cases member
  | cons here _ ih =>
      rcases List.mem_cons.mp member with rfl | later
      · exact ⟨_, List.mem_cons_self, here⟩
      · obtain ⟨a, inRest, held⟩ := ih later
        exact ⟨a, List.mem_cons_of_mem _ inRest, held⟩

/-- A member of the first of two related lists is related to one of the second. This is
the statement for the second list, with the relation turned around.
-/
theorem exists_of_mem_left {R : α → β → Prop} {left : List α} {right : List β}
    (related : List.Forall₂ R left right) {a : α} (member : a ∈ left)
    : ∃ b ∈ right, R a b :=
  exists_of_mem_right related.flip member

/-- What is between the members of two lists is a list between them, by induction on how
the lists are related.
-/
theorem exists_between {γ : Type} {R : α → γ → Prop} {S : γ → β → Prop} {left : List α}
    {right : List β} (each : List.Forall₂ (fun a b => ∃ c, R a c ∧ S c b) left right)
    : ∃ middle, List.Forall₂ R left middle ∧ List.Forall₂ S middle right := by
  induction each with
  | nil => exact ⟨[], .nil, .nil⟩
  | cons first _ ih =>
      obtain ⟨c, before, after⟩ := first
      obtain ⟨middle, lefts, rights⟩ := ih
      exact ⟨c :: middle, .cons before lefts, .cons after rights⟩

/-- Lists that are related to lists that agree after a function are related through these.
Witness: induction on the first relation, which takes the others apart.
-/
theorem forall₂_of_map {δ κ : Type} {key : α → κ} {R : α → β → Prop} {S : α → δ → Prop}
    {left other : List α} {right : List β} {results : List δ}
    (same : left.map key = other.map key) (first : List.Forall₂ R left right)
    (second : List.Forall₂ S other results)
    : List.Forall₂ (fun b d => ∃ a c, key a = key c ∧ R a b ∧ S c d) right results := by
  induction first generalizing other results with
  | nil =>
      rw [List.map_eq_nil_iff.mp same.symm] at second
      cases second
      exact .nil
  | cons here _ ih =>
      obtain ⟨c, others, rfl, equal, later⟩ := List.map_eq_cons_iff.mp same.symm
      obtain ⟨d, rest, there, further, rfl⟩ := List.forall₂_cons_left_iff.mp second
      exact .cons ⟨_, c, equal.symm, here, there⟩ (ih later.symm further)

-----------------------------------------------------------------------------------------
-- Failure, whatever the error
-----------------------------------------------------------------------------------------

/-- Whether a computation is an error. -/
def Fails (computation : Except ε α) : Prop :=
  ∃ error, computation = .error error

@[simp] theorem fails_error (error : ε)
    : Fails (.error error : Except ε α) :=
  ⟨error, rfl⟩

@[simp] theorem not_fails_ok (value : α)
    : ¬ Fails (.ok value : Except ε α) :=
  nofun

@[simp] theorem not_fails_pure (value : α)
    : ¬ Fails (pure value : Except ε α) :=
  nofun

@[simp] theorem fails_throw (error : ε)
    : Fails (throw error : Except ε α) :=
  ⟨error, rfl⟩

/-- A computation that does not fail has a result, as there are only errors and results.
-/
theorem not_fails_iff {computation : Except ε α}
    : ¬ Fails computation ↔ ∃ value, computation = .ok value := by
  cases computation <;> simp

/-- A sequence fails exactly if its first part fails, or if the second part fails for the
result of the first one.
-/
theorem fails_bind {first : Except ε α} {next : α → Except ε β}
    : Fails (first >>= next) ↔ Fails first ∨ ∃ value, first = .ok value ∧ Fails (next value) := by
  simp only [Fails, bind_eq_error, exists_or]
  refine or_congr_right ⟨?_, ?_⟩
  · rintro ⟨error, value, known, failed⟩
    exact ⟨value, known, error, failed⟩
  · rintro ⟨value, known, error, failed⟩
    exact ⟨error, value, known, failed⟩

/-- What is done with a result does not matter for whether there is one. -/
@[simp] theorem fails_functor_map {computation : Except ε α} {f : α → β}
    : Fails (f <$> computation) ↔ Fails computation :=
  exists_congr (fun _ => map_eq_error)

/-- Where the second part fails under one and the same condition, whatever the first part
gives, a computation fails if its first part does or under that condition.
-/
theorem fails_bind_iff {first : Except ε α} {next : α → Except ε β} {p : Prop}
    (later : ∀ value, first = .ok value → (Fails (next value) ↔ p))
    : Fails (first >>= next) ↔ Fails first ∨ p := by
  rw [fails_bind]
  cases first with
  | error error => simp
  | ok value => simp [later value rfl]

/-- A sequence whose second part never fails does so exactly if its first part does. -/
theorem fails_bind_pure {first : Except ε α} {f : α → β}
    : Fails (first >>= fun value => pure (f value)) ↔ Fails first := by
  simp only [fails_bind, not_fails_pure, and_false, exists_false, or_false]

theorem fails_map {computation : Except ε α} {f : α → β}
    : Fails (computation.map f) ↔ Fails computation :=
  fails_functor_map

/-- What is made from a list is an error exactly if some member gives one, by induction on
the list.
-/
theorem fails_mapM {f : α → Except ε β} {inputs : List α}
    : Fails (inputs.mapM f) ↔ ∃ input ∈ inputs, Fails (f input) := by
  induction inputs with
  | nil => simp
  | cons first rest ih =>
      rw [List.mapM_cons, fails_bind_iff (fun _ _ => fails_bind_pure), ih,
        List.exists_mem_cons_iff]

/-- A check of a list is an error exactly if that of some member is. -/
theorem fails_forM {check : α → Except ε PUnit} {inputs : List α}
    : Fails (inputs.forM check) ↔ ∃ input ∈ inputs, Fails (check input) := by
  induction inputs with
  | nil => simp
  | cons first rest ih =>
      rw [List.forM, fails_bind_iff (fun _ _ => ih), List.exists_mem_cons_iff]

end ProtobufTypeScript
