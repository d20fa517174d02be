/-
# Numbers written in octets

A binary format writes a number in a fixed count of octets, the low one first or the
high one first, and a record as such numbers one after the other. Reading takes the
widths of the fields; what was written with the same widths is read back.
-/

import Mathlib.Data.Nat.Digits.Defs

namespace Raydio.Foundation

/-- Which octet of a number stands first. -/
inductive ByteOrder
  | little
  | big
  deriving DecidableEq, Repr

namespace ByteOrder

/-- So many octets of a number, from the low one up. -/
def lowFirst : ℕ → ℕ → List UInt8
  | 0, _ => []
  | width + 1, n => UInt8.ofNat n :: lowFirst width (n / 256)

/-- A number written in so many octets. -/
def octets : ByteOrder → ℕ → ℕ → List UInt8
  | little, width, n => lowFirst width n
  | big, width, n => (lowFirst width n).reverse

/-- The number that octets stand for. -/
def number : ByteOrder → List UInt8 → ℕ
  | little, bytes => Nat.ofDigits 256 (bytes.map UInt8.toNat)
  | big, bytes => Nat.ofDigits 256 (bytes.reverse.map UInt8.toNat)

@[simp] theorem length_lowFirst (width n : ℕ) : (lowFirst width n).length = width := by
  induction width generalizing n with
  | zero => rfl
  | succ width ih => rw [lowFirst, List.length_cons, ih]

@[simp] theorem length_octets (order : ByteOrder) (width n : ℕ) :
    (order.octets width n).length = width := by
  cases order with
  | little => exact length_lowFirst width n
  | big => rw [octets, List.length_reverse, length_lowFirst]

/-- A number that fits comes back from its octets. -/
theorem ofDigits_lowFirst {width n : ℕ} (h : n < 256 ^ width) :
    Nat.ofDigits 256 ((lowFirst width n).map UInt8.toNat) = n := by
  induction width generalizing n with
  | zero => exact (Nat.lt_one_iff.mp h).symm
  | succ width ih =>
      have hhigh : n / 256 < 256 ^ width := by
        rw [Nat.div_lt_iff_lt_mul (by decide), ← pow_succ]
        exact h
      rw [lowFirst, List.map_cons, Nat.ofDigits_cons, ih hhigh]
      change n % 256 + 256 * (n / 256) = n
      exact Nat.mod_add_div n 256

theorem number_octets (order : ByteOrder) {width n : ℕ} (h : n < 256 ^ width) :
    order.number (order.octets width n) = n := by
  cases order with
  | little => exact ofDigits_lowFirst h
  | big => rw [octets, number, List.reverse_reverse, ofDigits_lowFirst h]

/-- One number for each of some fields. -/
abbrev Fields : List ℕ → Type
  | [] => Unit
  | _ :: widths => ℕ × Fields widths

/-- Each number fits the width of its field. -/
def Fit : (widths : List ℕ) → Fields widths → Prop
  | [], _ => True
  | width :: widths, fields => fields.1 < 256 ^ width ∧ Fit widths fields.2

/-- Fields of given widths, written one after the other. -/
def pack (order : ByteOrder) : (widths : List ℕ) → Fields widths → List UInt8
  | [], _ => []
  | width :: widths, fields => order.octets width fields.1 ++ order.pack widths fields.2

/-- Fields of given widths, read one after the other. -/
def unpack (order : ByteOrder) : (widths : List ℕ) → List UInt8 → Fields widths
  | [], _ => ()
  | width :: widths, bytes =>
      (order.number (bytes.take width), order.unpack widths (bytes.drop width))

variable (order : ByteOrder)

@[simp] theorem length_pack (widths : List ℕ) (fields : Fields widths) :
    (order.pack widths fields).length = widths.sum := by
  induction widths with
  | nil => rfl
  | cons width widths ih => rw [pack, List.length_append, length_octets, ih, List.sum_cons]

/-- Fields that fit are read back, whatever follows them. -/
theorem unpack_pack {widths : List ℕ} {fields : Fields widths} (h : Fit widths fields)
    (rest : List UInt8) :
    order.unpack widths (order.pack widths fields ++ rest) = fields := by
  induction widths generalizing rest with
  | nil => rfl
  | cons width widths ih =>
      have hlength : (order.octets width fields.1).length = width := length_octets _ _ _
      rw [unpack, pack, List.append_assoc, List.take_left' hlength, List.drop_left' hlength,
        number_octets order h.1, ih h.2]

end ByteOrder

end Raydio.Foundation
