/-
# Escaping

A text in which a mark takes the meaning from the character after it. Reading such a text
tells the characters that keep their meaning from the escaped ones, and fails if the text
ends inside an escape: such a text would take the meaning from whatever is put after it.
What is printed reads back, also in front of another text; and a cut anywhere either
falls between two tokens or leaves a mark, which escapes the first character put after it.
-/

import Mathlib

namespace Raydio.Foundation.Escaping

variable {α : Type*}

/-- A character with its meaning, or an escaped one. -/
inductive Token (α : Type*)
  | plain (a : α)
  | escaped (a : α)
  deriving DecidableEq, Repr

/-- The character of a token. -/
def Token.value : Token α → α
  | .plain a => a
  | .escaped a => a

variable {mark : α} {tokens : List (Token α)} {text : List α}

/-! ## Printing -/

/-- A token as text. -/
def Token.print (mark : α) : Token α → List α
  | .plain a => [a]
  | .escaped a => [mark, a]

/-- Tokens as text. -/
def print (mark : α) (tokens : List (Token α)) : List α := tokens.flatMap (Token.print mark)

/-- Tokens that can be told apart: the mark itself is escaped. -/
def Legible (mark : α) (tokens : List (Token α)) : Prop := Token.plain mark ∉ tokens

@[simp] theorem print_nil : print mark [] = [] := rfl

@[simp] theorem print_plain_cons {a : α} :
    print mark (.plain a :: tokens) = a :: print mark tokens := rfl

@[simp] theorem print_escaped_cons {a : α} :
    print mark (.escaped a :: tokens) = mark :: a :: print mark tokens := rfl

theorem Legible.tail {token : Token α} (h : Legible mark (token :: tokens)) :
    Legible mark tokens := fun hmem => h (List.mem_cons_of_mem _ hmem)

/-- A cut of a printed text that is closed with one more character prints some of the first
tokens and that character. It is escaped if the cut fell inside an escape. -/
theorem exists_tokens_of_prefix (last : α) (h : text <+: print mark tokens) :
    ∃ kept closing, kept <+: tokens ∧ text ++ [last] = print mark (kept ++ [closing]) ∧
      (closing = .plain last ∨ closing = .escaped last) := by
  induction tokens generalizing text with
  | nil =>
      obtain rfl : text = [] := List.prefix_nil.mp h
      exact ⟨[], .plain last, List.prefix_rfl, rfl, .inl rfl⟩
  | cons token tokens ih =>
      cases token with
      | plain a =>
          rw [print_plain_cons] at h
          rcases List.prefix_cons_iff.mp h with rfl | ⟨after, rfl, hafter⟩
          · exact ⟨[], .plain last, List.nil_prefix, rfl, .inl rfl⟩
          · obtain ⟨kept, closing, hkept, hprint, hclosing⟩ := ih hafter
            refine ⟨.plain a :: kept, closing, List.cons_prefix_cons.mpr ⟨rfl, hkept⟩, ?_, hclosing⟩
            rw [List.cons_append, hprint, List.cons_append, print_plain_cons]
      | escaped a =>
          rw [print_escaped_cons] at h
          rcases List.prefix_cons_iff.mp h with rfl | ⟨after, rfl, hafter⟩
          · exact ⟨[], .plain last, List.nil_prefix, rfl, .inl rfl⟩
          · rcases List.prefix_cons_iff.mp hafter with rfl | ⟨rest, rfl, hrest⟩
            · -- only the mark is left, and the closing character follows it
              exact ⟨[], .escaped last, List.nil_prefix, rfl, .inr rfl⟩
            · obtain ⟨kept, closing, hkept, hprint, hclosing⟩ := ih hrest
              refine ⟨.escaped a :: kept, closing, List.cons_prefix_cons.mpr ⟨rfl, hkept⟩, ?_,
                hclosing⟩
              rw [List.cons_append, List.cons_append, hprint, List.cons_append,
                print_escaped_cons]

/-! ## Reading -/

/-- Read a text from left to right. -/
def read [DecidableEq α] (mark : α) : List α → Option (List (Token α))
  | [] => some []
  | a :: rest =>
      if a = mark then
        match rest with
        | [] => none
        | b :: rest => (read mark rest).map (.escaped b :: ·)
      else (read mark rest).map (.plain a :: ·)

variable [DecidableEq α]

/-- What is printed reads back, and what follows it is read as if it stood alone. -/
theorem read_print_append (h : Legible mark tokens) (rest : List α) :
    read mark (print mark tokens ++ rest) = (read mark rest).map (tokens ++ ·) := by
  induction tokens with
  | nil => simp
  | cons token tokens ih =>
      have hrest := ih h.tail
      cases token with
      | plain a =>
          have hne : a ≠ mark := by
            rintro rfl
            exact h List.mem_cons_self
          rw [print_plain_cons, List.cons_append, read.eq_def]
          simp only [if_neg hne, hrest, Option.map_map]
          cases read mark rest <;> simp
      | escaped a =>
          rw [print_escaped_cons, List.cons_append, List.cons_append, read.eq_def]
          simp only [if_true, hrest, Option.map_map]
          cases read mark rest <;> simp

theorem read_print (h : Legible mark tokens) : read mark (print mark tokens) = some tokens := by
  have hread := read_print_append h []
  rwa [List.append_nil, read, Option.map_some, List.append_nil] at hread

end Raydio.Foundation.Escaping
