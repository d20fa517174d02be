/-
# Patterns of digits between fixed texts

Regular expressions that are made of groups of digits, each captured, and fixed texts
between them. A group takes as many digits as there are and gives some of them back
where the rest of the pattern does not match; a search gives the match that starts
first. Where every group is followed by a text that starts with no digit, a group takes
the whole run of digits or the pattern does not match there.
-/

import Mathlib.Data.List.Infix

namespace Raydio.Foundation

namespace Pattern

/-- A part of a pattern: a captured group of digits, or a fixed text. -/
inductive Piece
  | digits
  | text (chars : List Char)
  deriving DecidableEq, Repr

/-- What is found with the greatest count from `most` down to one. -/
def greatest {β : Type} (found : ℕ → Option β) : ℕ → Option β
  | 0 => none
  | most + 1 => (found (most + 1)).or (greatest found most)

/-- The groups of the match at the front of a text. -/
def matchAt : List Piece → List Char → Option (List (List Char))
  | [], _ => some []
  | .text chars :: pieces, input =>
      if chars <+: input then matchAt pieces (input.drop chars.length) else none
  | .digits :: pieces, input =>
      greatest (fun count => (matchAt pieces (input.drop count)).map (input.take count :: ·))
        (input.takeWhile Char.isDigit).length

/-- The groups of the first match in a text. -/
def search (pieces : List Piece) : List Char → Option (List (List Char))
  | [] => matchAt pieces []
  | c :: rest => (matchAt pieces (c :: rest)).or (search pieces rest)

theorem greatest_of_some {β : Type} {found : ℕ → Option β} {most : ℕ} {value : β}
    (hpos : 0 < most) (h : found most = some value) : greatest found most = some value := by
  cases most with
  | zero => exact absurd hpos (lt_irrefl 0)
  | succ most => rw [greatest, h, Option.some_or]

theorem greatest_eq_none {β : Type} {found : ℕ → Option β} {most : ℕ}
    (h : ∀ count, 0 < count → count ≤ most → found count = none) :
    greatest found most = none := by
  induction most with
  | zero => rfl
  | succ most ih =>
      rw [greatest, h (most + 1) (Nat.succ_pos most) le_rfl, Option.none_or]
      exact ih fun count hpos hle => h count hpos (hle.trans (Nat.le_succ most))

/-- Characters that are all digits. -/
def Digits (run : List Char) : Prop :=
  ∀ c ∈ run, c.isDigit = true

/-- A text that does not start with a digit. -/
def Stops (rest : List Char) : Prop :=
  ∀ c ∈ rest.head?, c.isDigit = false

/-- A pattern that starts with a fixed text whose first character is no digit. -/
def Guarded (pieces : List Piece) : Prop :=
  ∃ c chars later, c.isDigit = false ∧ pieces = .text (c :: chars) :: later

variable {pieces : List Piece} {run rest chars : List Char} {groups : List (List Char)}

theorem stops_cons {c : Char} (h : c.isDigit = false) (rest : List Char) : Stops (c :: rest) := by
  intro d hd
  cases hd
  exact h

theorem takeWhile_run (hrun : Digits run) (hrest : Stops rest) :
    (run ++ rest).takeWhile Char.isDigit = run := by
  rw [List.takeWhile_append_of_pos hrun]
  cases rest with
  | nil => exact List.append_nil run
  | cons c rest => rw [List.takeWhile_cons_of_neg (by simpa using hrest c rfl), List.append_nil]

theorem matchAt_text (chars rest : List Char) (pieces : List Piece) :
    matchAt (.text chars :: pieces) (chars ++ rest) = matchAt pieces rest := by
  rw [matchAt, if_pos (List.prefix_append chars rest), List.drop_left]

/-- A text with another first character is no match. -/
theorem matchAt_text_of_ne {c d : Char} (h : d ≠ c) (chars rest : List Char)
    (pieces : List Piece) : matchAt (.text (c :: chars) :: pieces) (d :: rest) = none := by
  rw [matchAt, if_neg]
  intro hfront
  exact h (List.cons_prefix_cons.mp hfront).1.symm

theorem Guarded.matchAt_digit (hpieces : Guarded pieces) {d : Char} (hdigit : d.isDigit = true)
    (rest : List Char) : matchAt pieces (d :: rest) = none := by
  obtain ⟨c, chars, later, hc, rfl⟩ := hpieces
  apply matchAt_text_of_ne
  rintro rfl
  rw [hdigit] at hc
  cases hc

/-- A group takes the whole run of digits where the rest matches after it. -/
theorem matchAt_run (hne : run ≠ []) (hrun : Digits run) (hrest : Stops rest)
    (h : matchAt pieces rest = some groups) :
    matchAt (.digits :: pieces) (run ++ rest) = some (run :: groups) := by
  rw [matchAt, takeWhile_run hrun hrest]
  apply greatest_of_some (List.length_pos_of_ne_nil hne)
  rw [List.drop_left, List.take_left, h, Option.map_some]

/-- Giving digits back does not help where the rest starts with no digit. -/
theorem matchAt_run_eq_none (hrun : Digits run) (hrest : Stops rest) (hpieces : Guarded pieces)
    (h : matchAt pieces rest = none) : matchAt (.digits :: pieces) (run ++ rest) = none := by
  rw [matchAt, takeWhile_run hrun hrest]
  apply greatest_eq_none
  intro count _ hle
  rw [Option.map_eq_none_iff, List.drop_append_of_le_length hle]
  cases hgiven : run.drop count with
  | nil => exact h
  | cons d given =>
      have hmem : d ∈ run := List.mem_of_mem_drop (hgiven ▸ List.mem_cons_self)
      exact hpieces.matchAt_digit (hrun d hmem) (given ++ rest)

/-- A group of digits does not match where there is none. -/
theorem matchAt_stops (hrest : Stops rest) : matchAt (.digits :: pieces) rest = none := by
  have hnone := takeWhile_run (show Digits [] by nofun) hrest
  rw [matchAt, ← List.nil_append rest, hnone]
  rfl

theorem search_of_match {input : List Char} (h : matchAt pieces input = some groups) :
    search pieces input = some groups := by
  cases input with
  | nil => exact h
  | cons c rest => rw [search, h, Option.some_or]

/-- A search for digits goes past characters that are none. -/
theorem search_skip (hchars : ∀ c ∈ chars, c.isDigit = false) (rest : List Char) :
    search (.digits :: pieces) (chars ++ rest) = search (.digits :: pieces) rest := by
  induction chars with
  | nil => rfl
  | cons c chars ih =>
      have hstops := stops_cons (hchars c List.mem_cons_self) (chars ++ rest)
      rw [List.cons_append, search, matchAt_stops hstops, Option.none_or]
      exact ih fun d hd => hchars d (List.mem_cons_of_mem c hd)

/-- A search goes past a run of digits after which the rest does not match. -/
theorem search_skip_run (hrun : Digits run) (hrest : Stops rest) (hpieces : Guarded pieces)
    (h : matchAt pieces rest = none) :
    search (.digits :: pieces) (run ++ rest) = search (.digits :: pieces) rest := by
  induction run with
  | nil => rfl
  | cons d run ih =>
      have hfails := matchAt_run_eq_none hrun hrest hpieces h
      rw [List.cons_append] at hfails ⊢
      rw [search, hfails, Option.none_or]
      exact ih fun c hc => hrun c (List.mem_cons_of_mem d hc)

end Pattern

end Raydio.Foundation
