/-
# Computations that may fail

When a computation in steps has an answer, when it fails, and when all items of a list have answers.
A computation without unknowns is run once for all that is to be known of its answer
(`exists_ok_of_map_toOption`).
-/

namespace FigureForm

/-- A computation in two steps has an answer exactly when its first step has one that leads to it. -/
theorem bind_eq_ok_iff {ε α β : Type} {first : Except ε α} {next : α → Except ε β} {answer : β} :
    (first >>= next) = .ok answer ↔ ∃ a, first = .ok a ∧ next a = .ok answer := by
  cases first with
  | error cause =>
    constructor
    · intro impossible
      cases impossible
    · rintro ⟨a, impossible, -⟩
      cases impossible
  | ok a =>
    constructor
    · intro answered
      exact ⟨a, rfl, answered⟩
    · rintro ⟨a', same, answered⟩
      cases same
      exact answered

/-- A computation in two steps fails in its first step or in the second. -/
theorem bind_eq_error_iff {ε α β : Type} {first : Except ε α} {next : α → Except ε β} {cause : ε} :
    (first >>= next) = .error cause ↔
      first = .error cause ∨ ∃ a, first = .ok a ∧ next a = .error cause := by
  cases first with
  | error other =>
    constructor
    · intro failed
      cases failed
      exact .inl rfl
    · rintro (failed | ⟨a, impossible, -⟩)
      · cases failed
        rfl
      · cases impossible
  | ok a =>
    constructor
    · intro failed
      exact .inr ⟨a, rfl, failed⟩
    · rintro (impossible | ⟨a', same, failed⟩)
      · cases impossible
      · cases same
        exact failed

/-- What is done with an answer afterwards does not decide whether there is one. -/
theorem exists_bind_pure_iff {ε α β : Type} {outcome : Except ε α} {wrap : α → β} :
    (∃ answer, (do return wrap (← outcome) : Except ε β) = .ok answer) ↔
      ∃ answer, outcome = .ok answer := by
  simp only [bind_eq_ok_iff]
  constructor
  · rintro ⟨_, answer, isAnswer, _⟩
    exact ⟨answer, isAnswer⟩
  · rintro ⟨answer, isAnswer⟩
    exact ⟨wrap answer, answer, isAnswer, rfl⟩

/-- A change of the cause of a failure does not touch answers. -/
theorem mapError_eq_ok_iff {ε δ α : Type} {change : ε → δ} {outcome : Except ε α} {answer : α} :
    outcome.mapError change = .ok answer ↔ outcome = .ok answer := by
  cases outcome with
  | error cause =>
    constructor
    · intro impossible
      cases impossible
    · intro impossible
      cases impossible
  | ok a =>
    constructor
    · intro same
      cases same
      rfl
    · intro same
      cases same
      rfl

/-- What is done with an answer afterwards does not touch failures. -/
theorem bind_pure_eq_error_iff {ε α β : Type} {outcome : Except ε α} {wrap : α → β} {cause : ε} :
    (do return wrap (← outcome) : Except ε β) = .error cause ↔ outcome = .error cause := by
  rw [bind_eq_error_iff]
  constructor
  · rintro (failed | ⟨a, _, impossible⟩)
    · exact failed
    · cases impossible
  · exact .inl

/-- Answers and causes are changed independently. -/
theorem map_mapError {ε δ α β : Type} (outcome : Except ε α) (change : ε → δ) (wrap : α → β) :
    (outcome.mapError change).map wrap = (outcome.map wrap).mapError change := by
  cases outcome <;> rfl

theorem exists_ok_of_isOk {ε α : Type} {result : Except ε α} (isOk : result.isOk = true) :
    ∃ answer, result = .ok answer := by
  cases result with
  | error _ => cases isOk
  | ok answer => exact ⟨answer, rfl⟩

theorem eq_ok_of_toOption {ε α : Type} {result : Except ε α} {value : α}
    (found : result.toOption = some value) : result = .ok value := by
  cases result with
  | error _ => cases found
  | ok _ => exact congrArg Except.ok (Option.some.inj found)

/-- What is looked up in an answer is there only if the answer is. -/
theorem exists_ok_of_map_toOption {ε α β : Type} {result : Except ε α} {look : α → β} {seen : β}
    (found : result.toOption.map look = some seen) :
    ∃ answer, result = .ok answer ∧ look answer = seen := by
  obtain ⟨answer, isAnswer, looked⟩ := Option.map_eq_some_iff.mp found
  exact ⟨answer, eq_ok_of_toOption isAnswer, looked⟩

/-- Computations in two steps give the same up to a change of answers, if their first steps do and the
second steps do after answers that are the same. -/
theorem map_bind_congr {ε α β γ δ : Type} {first second : Except ε α} {next others : α → Except ε β}
    {change : α → γ} {wrap : β → δ} (same : first.map change = second.map change)
    (after : ∀ a b, change a = change b → (next a).map wrap = (others b).map wrap) :
    (first >>= next).map wrap = (second >>= others).map wrap := by
  cases first with
  | error cause =>
    cases second with
    | error other =>
      cases same
      rfl
    | ok b => cases same
  | ok a =>
    cases second with
    | error other => cases same
    | ok b => exact after a b (Except.ok.inj same)

/-- All items of a list have answers of a sort exactly when there is a list of such answers. -/
theorem exists_map_eq_map_ok_iff {ε α β : Type} {outcome : α → Except ε β} {wanted : β → Prop}
    {items : List α} :
    (∃ answers : List β, items.map outcome = answers.map .ok ∧ ∀ answer ∈ answers, wanted answer) ↔
      ∀ item ∈ items, ∃ answer, outcome item = .ok answer ∧ wanted answer := by
  constructor
  · rintro ⟨answers, each, allWanted⟩ item member
    have among : outcome item ∈ items.map outcome := List.mem_map_of_mem member
    rw [each] at among
    obtain ⟨answer, isAnswer, same⟩ := List.mem_map.mp among
    exact ⟨answer, same.symm, allWanted answer isAnswer⟩
  · intro each
    induction items with
    | nil => exact ⟨[], rfl, fun _ none => nomatch none⟩
    | cons item rest ih =>
      obtain ⟨answer, first, firstWanted⟩ := each item List.mem_cons_self
      obtain ⟨answers, others, othersWanted⟩ :=
        ih fun later member => each later (List.mem_cons_of_mem _ member)
      refine ⟨answer :: answers, by rw [List.map_cons, first, others, List.map_cons], ?_⟩
      intro some among
      obtain rfl | among := List.mem_cons.mp among
      · exact firstWanted
      · exact othersWanted some among

end FigureForm
