/-
# UTF-16

The code units of a text, for peers that measure lengths in them. A character outside the
basic plane is a pair of surrogates; a text that is cut between characters never parts one.
-/

import Raydio.Foundation.Text

namespace Raydio.Foundation.Text

variable {text rest : List Char} {c : Char}

/-! ## Counting -/

@[simp] theorem utf16Count_nil : utf16Count [] = 0 := rfl

@[simp] theorem utf16Count_cons : utf16Count (c :: text) = lenUtf16 c + utf16Count text := by
  simp [utf16Count]

@[simp] theorem utf16Count_append :
    utf16Count (text ++ rest) = utf16Count text + utf16Count rest := by
  simp [utf16Count]

theorem lenUtf16_pos : 0 < lenUtf16 c := by
  rw [lenUtf16]
  split <;> omega

theorem lenUtf16_le : lenUtf16 c ≤ 2 := by
  rw [lenUtf16]
  split <;> omega

/-- A text has at least as many units as characters. -/
theorem length_le_utf16Count : text.length ≤ utf16Count text := by
  induction text with
  | nil => simp
  | cons c text ih =>
      have hpos : 0 < lenUtf16 c := lenUtf16_pos
      simp only [List.length_cons, utf16Count_cons]
      omega

/-- A text has at most two units for each character. -/
theorem utf16Count_le : utf16Count text ≤ 2 * text.length := by
  induction text with
  | nil => simp
  | cons c text ih =>
      have hle : lenUtf16 c ≤ 2 := lenUtf16_le
      simp only [List.length_cons, utf16Count_cons]
      omega

/-- A text in the basic plane has as many units as characters. -/
theorem utf16Count_eq_length (h : ∀ c ∈ text, c.toNat < 0x10000) :
    utf16Count text = text.length := by
  induction text with
  | nil => rfl
  | cons c text ih =>
      have hone : lenUtf16 c = 1 := if_pos (h c List.mem_cons_self)
      rw [utf16Count_cons, hone, ih fun d hd => h d (List.mem_cons_of_mem _ hd),
        List.length_cons, Nat.add_comm]

theorem utf16Count_eq_zero : utf16Count text = 0 ↔ text = [] := by
  constructor
  · intro h
    have hlength : text.length ≤ utf16Count text := length_le_utf16Count
    exact List.length_eq_zero_iff.mp (by omega)
  · rintro rfl
    rfl

/-- The length of a string in UTF-16. -/
def units (text : String) : ℕ := utf16Count text.toList

@[simp] theorem units_append (first second : String) :
    units (first ++ second) = units first + units second := by
  simp [units]

/-- A number is written with one unit for each digit. -/
theorem units_repr (n : ℕ) : units (Nat.repr n) = (Nat.toDigits 10 n).length := by
  rw [units, Nat.toList_repr]
  apply utf16Count_eq_length
  intro c hc
  have hdigit := Nat.isDigit_of_mem_toDigits (by decide) (by decide) hc
  simp only [Char.isDigit, Bool.and_eq_true, decide_eq_true_eq] at hdigit
  have hle : c.toNat ≤ 57 := hdigit.2
  omega

theorem units_repr_le {n k : ℕ} (hk : 0 < k) (h : n < 10 ^ k) : units (Nat.repr n) ≤ k := by
  rw [units_repr]
  exact (Nat.length_toDigits_le_iff (by decide) hk).mpr h

theorem units_repr_pos (n : ℕ) : 0 < units (Nat.repr n) := by
  rw [units_repr]
  exact Nat.length_toDigits_pos

/-! ## Units -/

/-- `char::encode_utf16`. -/
def encodeUtf16 (c : Char) : List ℕ :=
  if c.toNat < 0x10000 then [c.toNat]
  else [0xd800 + (c.toNat - 0x10000) / 0x400, 0xdc00 + (c.toNat - 0x10000) % 0x400]

/-- `str::encode_utf16`. -/
def utf16 (text : List Char) : List ℕ := text.flatMap encodeUtf16

def IsHigh (unit : ℕ) : Prop := 0xd800 ≤ unit ∧ unit < 0xdc00

def IsLow (unit : ℕ) : Prop := 0xdc00 ≤ unit ∧ unit < 0xe000

/-- Surrogates come in pairs. -/
inductive Paired : List ℕ → Prop
  | nil : Paired []
  | single {unit : ℕ} {units : List ℕ} (high : ¬IsHigh unit) (low : ¬IsLow unit)
      (rest : Paired units) : Paired (unit :: units)
  | pair {first second : ℕ} {units : List ℕ} (high : IsHigh first) (low : IsLow second)
      (rest : Paired units) : Paired (first :: second :: units)

theorem utf16_append : utf16 (text ++ rest) = utf16 text ++ utf16 rest := List.flatMap_append

/-- The units of a text pair their surrogates. -/
theorem paired_utf16 (text : List Char) : Paired (utf16 text) := by
  induction text with
  | nil => exact .nil
  | cons c text ih =>
      rw [utf16, List.flatMap_cons, encodeUtf16]
      have hvalid : c.toNat < 0xd800 ∨ 0xdfff < c.toNat ∧ c.toNat < 0x110000 := c.valid
      split
      · refine .single ?_ ?_ ih
        · rintro ⟨hlow, hhigh⟩
          omega
        · rintro ⟨hlow, hhigh⟩
          omega
      · refine .pair ⟨?_, ?_⟩ ⟨?_, ?_⟩ ih <;> omega

end Raydio.Foundation.Text
