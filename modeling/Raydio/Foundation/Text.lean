/-
# Rust text operations

Strings are handled through their characters. The character classes are the ones
of the Rust standard library: `char::is_control` is the category Cc and
`char::is_whitespace` is the Unicode property White_Space. Lengths that a peer
measures in UTF-16 are counted in UTF-16 units.
-/

import Mathlib

namespace Raydio.Foundation

namespace Text

/-- `char::is_control`. -/
def isControl (c : Char) : Bool :=
  c.toNat < 0x20 || (0x7f ≤ c.toNat && c.toNat < 0xa0)

/-- `char::is_whitespace`. -/
def isWhitespace (c : Char) : Bool :=
  (0x9 ≤ c.toNat && c.toNat ≤ 0xd) || c.toNat == 0x20 || c.toNat == 0x85 || c.toNat == 0xa0 ||
    c.toNat == 0x1680 || (0x2000 ≤ c.toNat && c.toNat ≤ 0x200a) || c.toNat == 0x2028 ||
    c.toNat == 0x2029 || c.toNat == 0x202f || c.toNat == 0x205f || c.toNat == 0x3000

/-- `char::len_utf16`. -/
def lenUtf16 (c : Char) : ℕ := if c.toNat < 0x10000 then 1 else 2

/-- `str::encode_utf16().count()`. -/
def utf16Count (text : List Char) : ℕ := (text.map lenUtf16).sum

/-- `str::trim`. -/
def trim (text : List Char) : List Char :=
  ((text.dropWhile isWhitespace).reverse.dropWhile isWhitespace).reverse

/-- The words of `str::split_whitespace`, reading from a partial word. -/
def words : List Char → List Char → List (List Char)
  | [], [] => []
  | word, [] => [word]
  | word, c :: rest =>
      if isWhitespace c then
        if word.isEmpty then words [] rest else word :: words [] rest
      else words (word ++ [c]) rest

/-- `split_whitespace().collect::<Vec<_>>().join(" ")`. -/
def flatten (text : List Char) : List Char :=
  List.intercalate [' '] (words [] text)

/-- The digits of an unsigned decimal, most significant first. -/
def digits (text : List Char) : ℕ :=
  text.foldl (fun value c => 10 * value + (c.toNat - '0'.toNat)) 0

/-- `str::parse` for an unsigned type with the given largest value: an optional
plus sign and at least one digit, refused on overflow. -/
def parseUnsigned (largest : ℕ) (text : String) : Option ℕ :=
  let body := match text.toList with
    | '+' :: rest => rest
    | chars => chars
  if body.isEmpty || !body.all Char.isDigit then none
  else if digits body ≤ largest then some (digits body) else none

/-- `format!("{n:02}")`. -/
def pad2 (n : ℕ) : String := if n < 10 then s!"0{n}" else s!"{n}"

/-- `format!("{n:016x}")`. -/
def hex16 (n : ℕ) : String :=
  let body := Nat.toDigits 16 n
  String.ofList (List.replicate (16 - body.length) '0' ++ body)

/-! ## Separators -/

/-- What stands before the first separator and what follows it are determined. -/
theorem separated_inj {α : Type*} {separator : α} {first first' rest rest' : List α}
    (h : separator ∉ first) (h' : separator ∉ first') :
    first ++ separator :: rest = first' ++ separator :: rest' ↔ first = first' ∧ rest = rest' := by
  constructor
  · intro heq
    induction first generalizing first' with
    | nil =>
        cases first' with
        | nil => simpa using heq
        | cons c first' =>
            obtain ⟨rfl, -⟩ := List.cons.inj heq
            exact absurd List.mem_cons_self h'
    | cons c first ih =>
        cases first' with
        | nil =>
            obtain ⟨rfl, -⟩ := List.cons.inj heq
            exact absurd List.mem_cons_self h
        | cons d first' =>
            obtain ⟨rfl, htail⟩ := List.cons.inj heq
            obtain ⟨rfl, rfl⟩ := ih (List.not_mem_of_not_mem_cons h)
              (List.not_mem_of_not_mem_cons h') htail
            exact ⟨rfl, rfl⟩
  · rintro ⟨rfl, rfl⟩
    rfl

/-- A number is written with digits only. -/
theorem notMem_repr {c : Char} (hc : c.isDigit = false) (n : ℕ) : c ∉ (Nat.repr n).toList := by
  intro h
  rw [Nat.toList_repr] at h
  have hdigit := Nat.isDigit_of_mem_toDigits (by decide) (by decide) h
  rw [hc] at hdigit
  cases hdigit

end Text

end Raydio.Foundation
