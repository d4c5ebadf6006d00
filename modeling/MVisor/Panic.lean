import Mathlib.Data.BitVec

/-! A panic of the code (`MV_PANIC`, a failed `MV_ASSERT`) is an `Except String` error carrying
its message, and a function that can panic returns `Except String`. These lemmas take such
computations apart.
-/

namespace MVisor

/-- A bound computation that returned went through a first step that returned. -/
theorem bind_eq_ok {ε α β : Type} {x : Except ε α} {f : α → Except ε β} {b : β}
    (h : x >>= f = .ok b)
    : ∃ a, x = .ok a ∧ f a = .ok b := by
  cases x with
  | error e => cases h
  | ok a => exact ⟨a, rfl, h⟩

@[simp] theorem pure_eq_ok {ε α : Type} (a : α) : (pure a : Except ε α) = .ok a := rfl

@[simp] theorem ok_bind {ε α β : Type} (a : α) (f : α → Except ε β)
    : (Except.ok a >>= f) = f a := rfl

/-- A step that did not panic returned. -/
theorem ok_of_toOption_eq_some {α : Type} {x : Except String α} {a : α}
    (h : x.toOption = some a) : x = .ok a := by
  cases x <;> cases h
  rfl

end MVisor
