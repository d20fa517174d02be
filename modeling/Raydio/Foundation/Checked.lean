/-
# Checked calls and fixed-width counters

A Rust call that indexes a vector out of range or unwraps an absent value aborts
its task. `Checked` keeps that abort as a value, so that "does not panic" is an
ordinary statement about a definition. `Checked.value` hands out the result of a
call only against a proof that the call returns; code built on it cannot reach
the abort at all.

Machine words are natural numbers with their wrapping or saturating operation
written out.
-/

import Mathlib

namespace Raydio.Foundation

universe u

/-- The ways a library call aborts its task. -/
inductive Panic
  | removeOutOfBounds (index length : ℕ)
  | insertOutOfBounds (index length : ℕ)
  | expected (message : String)
  deriving DecidableEq, Repr

/-- A call that either returns or aborts. -/
abbrev Checked (α : Type u) := Except Panic α

namespace Checked

variable {α β : Type u}

/-- The call comes back with a value. -/
def Returns (call : Checked α) : Prop := ∃ a, call = .ok a

/-- The value of a call that is known to return. -/
def value : (call : Checked α) → call.Returns → α
  | .ok a, _ => a
  | .error _, h => False.elim (by obtain ⟨_, h⟩ := h; cases h)

@[simp]
theorem returns_ok (a : α) : Returns (.ok a) := ⟨a, rfl⟩

/-- A call with a known result has that result as its value. -/
theorem value_eq {call : Checked α} {a : α} (h : call = .ok a) (returns : call.Returns) :
    call.value returns = a := by
  subst h
  rfl

end Checked

/-! ## Vectors -/

namespace Vec

variable {α : Type u}

/-- `Vec::remove`: take out the element at `index`, shifting the rest left. -/
def remove (xs : List α) (index : ℕ) : Checked (α × List α) :=
  match xs[index]? with
  | some x => .ok (x, xs.eraseIdx index)
  | none => .error (.removeOutOfBounds index xs.length)

/-- `Vec::insert`: put `x` before the element at `index`, shifting the rest right. -/
def insert (xs : List α) (index : ℕ) (x : α) : Checked (List α) :=
  if index ≤ xs.length then .ok (xs.insertIdx index x)
  else .error (.insertOutOfBounds index xs.length)

theorem remove_of_lt {xs : List α} {index : ℕ} (h : index < xs.length) :
    remove xs index = .ok (xs[index], xs.eraseIdx index) := by
  simp [remove, List.getElem?_eq_getElem h]

@[simp]
theorem insert_zero (xs : List α) (x : α) : insert xs 0 x = .ok (x :: xs) := by
  simp [insert]

theorem insert_of_le {xs : List α} {index : ℕ} (h : index ≤ xs.length) (x : α) :
    insert xs index x = .ok (xs.insertIdx index x) := by
  simp [insert, h]

/-- A shuffle driven by random draws: each draw picks, modulo the number of
elements left, the next element of the result. Every permutation is the result
of some draws. -/
def shuffle : List ℕ → List α → List α
  | _, [] => []
  | [], xs => xs
  | draw :: draws, x :: xs =>
      let index := draw % (xs.length + 1)
      (x :: xs).get ⟨index, Nat.mod_lt _ (Nat.succ_pos _)⟩ ::
        shuffle draws ((x :: xs).eraseIdx index)

/-- A shuffle neither loses nor duplicates an element. -/
theorem shuffle_perm : ∀ (draws : List ℕ) (xs : List α), (shuffle draws xs).Perm xs
  | _, [] => by simp [shuffle]
  | [], x :: xs => by simp [shuffle]
  | draw :: draws, x :: xs => by
      have hlt : draw % (xs.length + 1) < (x :: xs).length := Nat.mod_lt _ (Nat.succ_pos _)
      have hrest := shuffle_perm draws ((x :: xs).eraseIdx (draw % (xs.length + 1)))
      exact (hrest.cons _).trans (List.getElem_cons_eraseIdx_perm hlt)

@[simp]
theorem length_shuffle (draws : List ℕ) (xs : List α) :
    (shuffle draws xs).length = xs.length :=
  (shuffle_perm draws xs).length_eq

end Vec

/-! ## Machine words -/

/-- The largest `u64`, which is also the largest `usize` of the targets. -/
def u64Max : ℕ := 2 ^ 64 - 1

/-- `u64::wrapping_add(1)`. -/
def wrappingSucc (n : ℕ) : ℕ := (n + 1) % 2 ^ 64

/-- `u64::saturating_add`. -/
def saturatingAdd (a b : ℕ) : ℕ := min (a + b) u64Max

end Raydio.Foundation
