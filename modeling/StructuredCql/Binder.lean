import StructuredCql.CompileError

/-!
# Binding parameters

A statement holds a mark for every bound value and lists the values beside the
text.  Values are listed in the order in which their marks are written; what
has been bound stays bound when the text is refused later on.
-/

namespace StructuredCql

structure Binder where
  placeholder : String
  params : List Value

def Binder.empty : Binder := ⟨"?", []⟩

/-- Text in the making: from the values bound so far, the text or the cause of
its refusal, and the values bound by then. -/
def Build (α : Type) : Type := Binder → Except CompileError α × Binder

namespace Build

def runWith (binder : Binder) (build : Build α) :
    Except CompileError α × Binder :=
  build binder

instance : Monad Build where
  pure result := fun binder => (.ok result, binder)
  bind build next := fun binder =>
    match build binder with
    | (.ok result, binder) => next result binder
    | (.error cause, binder) => (.error cause, binder)

def mark (value : Value) : Build String := fun binder =>
  (.ok binder.placeholder, { binder with params := binder.params ++ [value] })

def refuse (cause : CompileError) : Build α := fun binder =>
  (.error cause, binder)

def checked (outcome : Except CompileError α) : Build α := fun binder =>
  (outcome, binder)

@[simp] theorem runWith_pure (binder : Binder) (result : α) :
    runWith binder (pure result) = (.ok result, binder) := rfl

@[simp] theorem runWith_mark (binder : Binder) (value : Value) :
    runWith binder (mark value) =
      (.ok binder.placeholder,
        { binder with params := binder.params ++ [value] }) := rfl

@[simp] theorem runWith_refuse (binder : Binder) (cause : CompileError) :
    runWith binder (refuse cause : Build α) = (.error cause, binder) := rfl

@[simp] theorem runWith_checked (binder : Binder)
    (outcome : Except CompileError α) :
    runWith binder (checked outcome) = (outcome, binder) := rfl

theorem runWith_bind (binder : Binder) (build : Build α)
    (next : α → Build β) :
    runWith binder (build >>= next) =
      match runWith binder build with
      | (.ok result, binder) => runWith binder (next result)
      | (.error cause, binder) => (.error cause, binder) := rfl

theorem runWith_bind_eq_ok {build : Build α} {next : α → Build β}
    {binder final : Binder} {result : β} :
    runWith binder (build >>= next) = (.ok result, final) ↔
      ∃ value middle, runWith binder build = (.ok value, middle) ∧
        runWith middle (next value) = (.ok result, final) := by
  rw [runWith_bind]
  rcases runWith binder build with ⟨_ | value, middle⟩
  · simp
  · constructor
    · intro done
      exact ⟨value, middle, rfl, done⟩
    · rintro ⟨_, _, ⟨⟩, done⟩
      exact done

theorem runWith_checked_bind_eq_ok {outcome : Except CompileError α}
    {next : α → Build β} {binder final : Binder} {result : β} :
    runWith binder (checked outcome >>= next) = (.ok result, final) ↔
      ∃ value, outcome = .ok value ∧
        runWith binder (next value) = (.ok result, final) := by
  rw [runWith_bind, runWith_checked]
  cases outcome <;> simp

@[simp] theorem refuse_bind (cause : CompileError) (next : α → Build β) :
    (refuse cause >>= next) = refuse cause := rfl

@[simp] theorem checked_ok (result : α) :
    checked (.ok result) = pure result := rfl

@[simp] theorem checked_error (cause : CompileError) :
    (checked (.error cause) : Build α) = refuse cause := rfl

private theorem id_map_build (build : Build α) : id <$> build = build := by
  funext binder
  change (match build binder with
    | (.ok result, binder) => (.ok result, binder)
    | (.error cause, binder) => (.error cause, binder)) = build binder
  rcases build binder with ⟨_ | _, _⟩ <;> rfl

private theorem bind_assoc_build (build : Build α) (first : α → Build β)
    (second : β → Build γ) :
    build >>= first >>= second =
      build >>= fun result => first result >>= second := by
  funext binder
  simp only [bind]
  rcases build binder with ⟨_ | _, _⟩ <;> rfl

instance : LawfulMonad Build :=
  LawfulMonad.mk' Build id_map_build (fun _ _ => rfl) bind_assoc_build

end Build

end StructuredCql
