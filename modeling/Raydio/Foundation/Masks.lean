/-
# Masks of bits

A mask is a set of bits. Masks are collected by union and laid over each other: an
overlay takes some bits away and adds others. The complement of a mask is cut to the
bits that are known, so that an overlay also clears every other bit it does not add.

A list in which at most one element is looked for is a set as far as `find?` goes.
-/

import Mathlib

namespace Raydio.Foundation

universe u

namespace Masks

variable {w : ℕ} {α : Type u}

/-- A single bit is contained in a mask that has it. -/
theorem contains_bit (value : BitVec w) {bit : ℕ} (h : bit < w) :
    (value &&& (1#w <<< bit) == 1#w <<< bit) = true ↔ value.getLsbD bit = true := by
  have hone (index : ℕ) : (1#w <<< bit).getLsbD index = decide (index = bit) := by
    rw [← BitVec.twoPow_eq, BitVec.getLsbD_twoPow]
    grind
  rw [beq_iff_eq]
  constructor
  · intro hsame
    have hbit := congrArg (fun mask : BitVec w => mask.getLsbD bit) hsame
    simpa [hone] using hbit
  · intro hbit
    ext index hindex
    rw [← BitVec.getLsbD_eq_getElem, ← BitVec.getLsbD_eq_getElem, BitVec.getLsbD_and, hone]
    by_cases hsame : index = bit <;> simp [hsame, hbit]

/-- The union of masks has the bits of all of them. -/
theorem getLsbD_foldl_or (bits : α → BitVec w) (start : BitVec w) (xs : List α) (bit : ℕ) :
    (xs.foldl (fun value x => value ||| bits x) start).getLsbD bit = true ↔
      start.getLsbD bit = true ∨ ∃ x ∈ xs, (bits x).getLsbD bit = true := by
  induction xs generalizing start with
  | nil => simp
  | cons x xs ih =>
      rw [List.foldl_cons, ih, BitVec.getLsbD_or, Bool.or_eq_true]
      simp only [List.mem_cons, exists_eq_or_imp, or_assoc]

/-- The order of the masks in a union is no matter. -/
theorem foldl_or_perm (bits : α → BitVec w) (start : BitVec w) {xs ys : List α}
    (h : xs.Perm ys) :
    xs.foldl (fun value x => value ||| bits x) start =
      ys.foldl (fun value x => value ||| bits x) start := by
  apply h.foldl_eq'
  intro x _ y _ value
  rw [BitVec.or_assoc, BitVec.or_comm (bits x), ← BitVec.or_assoc]

/-- What is left of a bit below an overlay. -/
theorem getLsbD_overlay {known value : BitVec w} {bit : ℕ} (deny allow : BitVec w)
    (h : known.getLsbD bit = true ∨ ¬ value.getLsbD bit = true) :
    (value &&& (known &&& ~~~deny) ||| allow).getLsbD bit = true ↔
      allow.getLsbD bit = true ∨ ¬ deny.getLsbD bit = true ∧ value.getLsbD bit = true := by
  by_cases hlt : bit < w
  · simp only [BitVec.getLsbD_or, BitVec.getLsbD_and, BitVec.getLsbD_not, hlt, decide_true,
      Bool.true_and, Bool.or_eq_true, Bool.and_eq_true, Bool.not_eq_true', ← Bool.not_eq_true]
    tauto
  · have hout (mask : BitVec w) : mask.getLsbD bit = false :=
      BitVec.getLsbD_of_ge _ _ (Nat.not_lt.mp hlt)
    simp [hout]

/-! ## Looking for the only element -/

variable {p : α → Bool} {xs ys : List α}

/-- If at most one element is looked for, it is found. -/
theorem find?_eq_some_iff_of_unique (unique : ∀ x ∈ xs, ∀ y ∈ xs, p x → p y → x = y) {x : α} :
    xs.find? p = some x ↔ x ∈ xs ∧ p x = true := by
  constructor
  · intro hfound
    exact ⟨List.mem_of_find?_eq_some hfound, List.find?_some hfound⟩
  · rintro ⟨hmem, hp⟩
    obtain ⟨y, hfound⟩ := Option.isSome_iff_exists.mp
      (List.find?_isSome.mpr ⟨x, hmem, hp⟩)
    rw [hfound, unique y (List.mem_of_find?_eq_some hfound) x hmem (List.find?_some hfound) hp]

/-- If at most one element is looked for, the order of the list is no matter. -/
theorem find?_perm_of_unique (h : xs.Perm ys)
    (unique : ∀ x ∈ xs, ∀ y ∈ xs, p x → p y → x = y) : xs.find? p = ys.find? p := by
  apply Option.ext
  intro x
  rw [find?_eq_some_iff_of_unique unique, find?_eq_some_iff_of_unique, h.mem_iff]
  intro x hx y hy
  exact unique x (h.mem_iff.mpr hx) y (h.mem_iff.mpr hy)

end Masks

end Raydio.Foundation
