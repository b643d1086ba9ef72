import StructuredCql.Expr.Render

/-!
# Parts of expressions

The parts of an expression are the expressions that are written for it, from
the left to the right.  The arguments of a fragment are parts as they read, and
what is refused as a whole has no parts.  A part weighs less than the whole, so
what holds of a whole as soon as it holds of its parts holds of all
expressions.
-/

namespace StructuredCql.Expr

def parts : Expr → List Expr
  | .column _ | .literal _ | .param _ | .keywords _ _ => []
  | .call _ args => args
  | .cast operand _ | .blob operand _ => [operand]
  | .fragment _ args => args.filterMap fun arg => (Expr.ofValue arg).toOption
  | .compare _ left right => [left, right]
  | .and first rest => first :: rest
  | .or _ _ | .not _ | .nullCheck _ _ => []
  | .membership operand values =>
      match Membership.ofValues values with
      | .empty => []
      | .bound _ | .inlined _ => [operand]
      | .each => operand :: values

theorem parts_membership_subset (operand : Expr) (values : List Expr) :
    (Expr.membership operand values).parts ⊆ operand :: values := by
  rw [parts]
  split <;> simp

theorem mem_parts_fragment {template : String} {args : List Value}
    {arg : Value} {operand : Expr} (member : arg ∈ args)
    (reads : Expr.ofValue arg = .ok operand) :
    operand ∈ (Expr.fragment template args).parts :=
  List.mem_filterMap.mpr ⟨arg, member, by rw [reads]; rfl⟩

private theorem weight_lt_of_mem_fragment {template : String}
    {args : List Value} {part : Expr}
    (member : part ∈ (Expr.fragment template args).parts) :
    part.weight < (Expr.fragment template args).weight := by
  obtain ⟨arg, isArg, reads⟩ := List.mem_filterMap.mp member
  cases read : Expr.ofValue arg with
  | error issues => simp [read, Except.toOption] at reads
  | ok operand =>
      have same : operand = part := by
        simpa [read, Except.toOption] using reads
      subst same
      have := weight_le_of_argument read
      have := Value.argumentWeight_le_of_mem isArg
      simp only [weight]
      omega

/-- The expressions that an expression consists of, whether they are written or
not. -/
def children : Expr → List Expr
  | .column _ | .literal _ | .param _ | .fragment _ _ | .keywords _ _ => []
  | .call _ args => args
  | .cast operand _ | .blob operand _ | .not operand
  | .nullCheck operand _ => [operand]
  | .compare _ left right => [left, right]
  | .and first rest | .or first rest | .membership first rest => first :: rest

theorem weight_lt_of_mem_children {child whole : Expr}
    (member : child ∈ whole.children) : child.weight < whole.weight := by
  cases whole with
  | column | literal | param | fragment | keywords => cases member
  | call _ args =>
      have : child.weight < weightAll args := weight_lt_of_mem member
      simp only [weight]
      omega
  | cast operand | blob operand | not operand | nullCheck operand =>
      cases List.mem_singleton.mp member
      simp only [weight]
      omega
  | compare _ left right =>
      simp only [children, List.mem_cons, List.not_mem_nil, or_false] at member
      simp only [weight]
      rcases member with rfl | rfl <;> omega
  | and first rest | or first rest | membership first rest =>
      simp only [weight]
      rcases List.mem_cons.mp member with rfl | member
      · omega
      · have := weight_lt_of_mem member
        omega

theorem weight_lt_of_mem_parts {part whole : Expr}
    (member : part ∈ whole.parts) : part.weight < whole.weight := by
  cases whole with
  | column | literal | param | keywords | or | not | nullCheck => cases member
  | fragment => exact weight_lt_of_mem_fragment member
  | membership operand values =>
      exact weight_lt_of_mem_children
        (parts_membership_subset operand values member)
  | call | cast | blob | compare | and =>
      exact weight_lt_of_mem_children member

@[elab_as_elim]
theorem partInduction {motive : Expr → Prop}
    (whole : ∀ operand : Expr, (∀ part ∈ operand.parts, motive part) →
      motive operand)
    (operand : Expr) : motive operand := by
  induction bound : operand.weight using Nat.strongRecOn
    generalizing operand with
  | _ weight ih =>
      subst bound
      exact whole operand fun part member =>
        ih part.weight (weight_lt_of_mem_parts member) part rfl

end StructuredCql.Expr
