import Mathlib.Data.List.Forall2

/-!
# Outcomes

What is made in steps has a result if every step has one, and fails as one of
its steps does.  Two runs have the same outcome if both fail, or if both succeed
with related results.
-/

namespace StructuredCql

/-! ## Results -/

theorem bind_eq_ok_iff {ε α β : Type} {outcome : Except ε α}
    {next : α → Except ε β} {result : β} :
    outcome >>= next = .ok result ↔
      ∃ value, outcome = .ok value ∧ next value = .ok result := by
  constructor
  · intro made
    cases outcome with
    | error cause => cases made
    | ok value => exact ⟨value, rfl, made⟩
  · rintro ⟨value, rfl, made⟩
    exact made

theorem mapM_eq_ok_iff {α β ε : Type} {make : α → Except ε β}
    {items : List α} {results : List β} :
    items.mapM make = .ok results ↔
      List.Forall₂ (fun item result => make item = .ok result) items
        results := by
  induction items generalizing results with
  | nil => cases results <;> simp [pure, Except.pure]
  | cons item rest ih =>
      rw [List.mapM_cons, List.forall₂_cons_left_iff]
      constructor
      · intro made
        obtain ⟨result, first, made⟩ := bind_eq_ok_iff.mp made
        obtain ⟨others, further, made⟩ := bind_eq_ok_iff.mp made
        cases made
        exact ⟨result, others, first, ih.mp further, rfl⟩
      · rintro ⟨result, others, first, further, rfl⟩
        rw [first, ih.mpr further]
        rfl

/-! ## Failures -/

/-- If the outcome is a failure, then one of those that are admitted. -/
def FailsOnly {ε α : Type} (admits : ε → Prop) (outcome : Except ε α) : Prop :=
  ∀ failure, outcome = .error failure → admits failure

namespace FailsOnly

variable {ε α β : Type} {admits : ε → Prop}

theorem ok (result : α) : FailsOnly admits (.ok result) := by
  rintro _ ⟨⟩

theorem error {failure : ε} (admitted : admits failure) :
    FailsOnly admits (.error failure : Except ε α) := by
  rintro _ ⟨⟩
  exact admitted

theorem bind {outcome : Except ε α} {next : α → Except ε β}
    (first : FailsOnly admits outcome)
    (second : ∀ result, outcome = .ok result →
      FailsOnly admits (next result)) :
    FailsOnly admits (outcome >>= next) := by
  cases outcome with
  | error failure => exact error (first failure rfl)
  | ok result => exact second result rfl

theorem mapM {items : List β} {f : β → Except ε α}
    (each : ∀ item ∈ items, FailsOnly admits (f item)) :
    FailsOnly admits (items.mapM f) := by
  induction items with
  | nil => exact ok []
  | cons item rest ih =>
      rw [List.forall_mem_cons] at each
      rw [List.mapM_cons]
      exact each.1.bind fun _ _ => (ih each.2).bind fun _ _ => ok _

end FailsOnly

/-! ## Two runs -/

/-- Both runs succeed, with related results, or both fail. -/
def SameOutcome {ε ε' α β : Type} (related : α → β → Prop) :
    Except ε α → Except ε' β → Prop
  | .ok left, .ok right => related left right
  | .error _, .error _ => True
  | _, _ => False

namespace SameOutcome

variable {ε ε' α β γ δ : Type} {related : α → β → Prop}
  {further : γ → δ → Prop} {left : Except ε α} {right : Except ε' β}

theorem cases (same : SameOutcome related left right) :
    (∃ result other, left = .ok result ∧ right = .ok other ∧
      related result other) ∨
    ∃ failure other, left = .error failure ∧ right = .error other := by
  cases left with
  | ok result =>
      cases right with
      | ok other => exact .inl ⟨result, other, rfl, rfl, same⟩
      | error => exact same.elim
  | error failure =>
      cases right with
      | ok => exact same.elim
      | error other => exact .inr ⟨failure, other, rfl, rfl⟩

theorem refl {related : α → α → Prop} (each : ∀ result, related result result)
    (outcome : Except ε α) : SameOutcome related outcome outcome := by
  cases outcome with
  | error => trivial
  | ok result => exact each result

theorem ok_iff_ok (same : SameOutcome related left right) :
    (∃ result, left = .ok result) ↔ ∃ result, right = .ok result := by
  obtain ⟨result, other, rfl, rfl, _⟩ | ⟨failure, other, rfl, rfl⟩ := same.cases
  · exact iff_of_true ⟨result, rfl⟩ ⟨other, rfl⟩
  · exact iff_of_false (fun ⟨_, done⟩ => by cases done)
      (fun ⟨_, done⟩ => by cases done)

theorem related_of_ok {result : α} {other : β}
    (same : SameOutcome related left right) (done : left = .ok result)
    (otherDone : right = .ok other) : related result other := by
  subst done otherDone
  exact same

theorem and_ok (same : SameOutcome related left right) :
    SameOutcome (fun result other => related result other ∧
      left = .ok result) left right := by
  obtain ⟨result, other, rfl, rfl, alike⟩ | ⟨_, _, rfl, rfl⟩ := same.cases
  · exact ⟨alike, rfl⟩
  · trivial

theorem imp {implied : α → β → Prop} (same : SameOutcome related left right)
    (implies : ∀ result other, related result other → implied result other) :
    SameOutcome implied left right := by
  obtain ⟨result, other, rfl, rfl, alike⟩ | ⟨_, _, rfl, rfl⟩ := same.cases
  · exact implies result other alike
  · trivial

theorem map {f : α → γ} {g : β → δ} (same : SameOutcome related left right)
    (implies : ∀ result other, related result other →
      further (f result) (g other)) :
    SameOutcome further (left.map f) (right.map g) := by
  obtain ⟨result, other, rfl, rfl, alike⟩ | ⟨_, _, rfl, rfl⟩ := same.cases
  · exact implies result other alike
  · trivial

theorem bind {f : α → Except ε γ} {g : β → Except ε' δ}
    (same : SameOutcome related left right)
    (continued : ∀ result other, related result other →
      SameOutcome further (f result) (g other)) :
    SameOutcome further (left >>= f) (right >>= g) := by
  obtain ⟨result, other, rfl, rfl, alike⟩ | ⟨_, _, rfl, rfl⟩ := same.cases
  · exact continued result other alike
  · trivial

theorem mapM {items : List γ} {others : List δ} {f : γ → Except ε α}
    {g : δ → Except ε' β} (alike : List.Forall₂ further items others)
    (same : ∀ item other, further item other →
      SameOutcome related (f item) (g other)) :
    SameOutcome (List.Forall₂ related) (items.mapM f) (others.mapM g) := by
  induction alike with
  | nil => exact .nil
  | cons first _ ih =>
      rw [List.mapM_cons, List.mapM_cons]
      refine (same _ _ first).bind fun result other resultAlike => ?_
      refine ih.bind fun results others resultsAlike => ?_
      exact .cons resultAlike resultsAlike

end SameOutcome

end StructuredCql
