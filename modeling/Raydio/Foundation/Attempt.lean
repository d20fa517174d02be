/-
# Attempts that stop at the first error

A function that reads one thing after the other and passes every error on to its caller.
It succeeds exactly if every part does, and its error is that of the first part that
fails, as long as no part looks at what an earlier one read.
-/

import Mathlib

namespace Raydio.Foundation

namespace Attempt

universe u

variable {ε α β : Type u}

/-- The error of an attempt that failed. -/
def refusal : Except ε α → Option ε
  | .ok _ => none
  | .error e => some e

@[simp]
theorem refusal_ok (a : α) : refusal (.ok a : Except ε α) = none := rfl

@[simp]
theorem refusal_error (e : ε) : refusal (.error e : Except ε α) = some e := rfl

theorem refusal_eq_some_iff {attempt : Except ε α} {e : ε} :
    refusal attempt = some e ↔ attempt = .error e := by
  cases attempt with
  | ok a => simp
  | error e' => simp

/-- The first of several outcomes that is not absent. -/
theorem findSome_cons {γ δ : Type u} (f : γ → Option δ) (c : γ) (rest : List γ) :
    (c :: rest).findSome? f = (f c).or (rest.findSome? f) := by
  rw [List.findSome?_cons]
  cases f c with
  | none => rfl
  | some d => rfl

theorem bind_eq_ok_iff {attempt : Except ε α} {rest : α → Except ε β} {b : β} :
    attempt >>= rest = .ok b ↔ ∃ a, attempt = .ok a ∧ rest a = .ok b := by
  cases attempt with
  | ok a => simp [bind, Except.bind]
  | error e => simp [bind, Except.bind]

/-- The rest of an attempt is refused independently of what the first part read. -/
theorem refusal_bind (attempt : Except ε α) {rest : α → Except ε β} {refused : Option ε}
    (h : ∀ a, attempt = .ok a → refusal (rest a) = refused) :
    refusal (attempt >>= rest) = (refusal attempt).or refused := by
  cases attempt with
  | ok a => exact h a rfl
  | error e => rfl

end Attempt

end Raydio.Foundation
