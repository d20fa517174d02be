/-
# Decoding input that arrives in parts

A decoder looks at the front of its input and finds that it has to wait, that the
input is bad, or how many symbols the next item takes. Where such a finding is not
changed by what arrives later, how the input was cut into parts does not matter: the
parts together decode as their concatenation does.
-/

import Mathlib.Data.List.Basic

namespace Raydio.Foundation

universe u v w z

/-- What the front of some input tells. -/
inductive Verdict (ε : Type u) (σ : Type v) (ω : Type w)
  | more
  | bad (error : ε)
  | item (length : ℕ) (outputs : List ω) (next : σ)

/-- A decoder with a state. Its findings survive more input, and an item takes some
of the input that is there. -/
structure Decoder (ε : Type u) (σ : Type v) (ω : Type w) (α : Type z) where
  look : σ → List α → Verdict ε σ ω
  bounded : ∀ {state input length outputs next},
    look state input = .item length outputs next → 0 < length ∧ length ≤ input.length
  stable : ∀ {state input}, look state input ≠ .more →
    ∀ later, look state (input ++ later) = look state input

namespace Decoder

variable {ε : Type u} {σ : Type v} {ω : Type w} {α : Type z} (decoder : Decoder ε σ ω α)

/-- Outputs that came before those of a result. -/
def after (outputs : List ω) (result : Except ε (List ω × σ × List α)) :
    Except ε (List ω × σ × List α) :=
  result.map fun found => (outputs ++ found.1, found.2)

/-- Take items until the decoder has to wait: what they put out, the state, and the
input that is left. -/
def drain (state : σ) (input : List α) : Except ε (List ω × σ × List α) :=
  match _ : decoder.look state input with
  | .more => .ok ([], state, input)
  | .bad error => .error error
  | .item length outputs next => after outputs (drain next (input.drop length))
termination_by input.length
decreasing_by
  have hbounded := decoder.bounded ‹decoder.look state input = _›
  rw [List.length_drop]
  omega

/-- Drain after every part, keeping the input that is left for the next one. -/
def feedAll (state : σ) (held : List α) : List (List α) → Except ε (List ω × σ × List α)
  | [] => .ok ([], state, held)
  | part :: parts =>
      match decoder.drain state (held ++ part) with
      | .error error => .error error
      | .ok (outputs, next, rest) => after outputs (feedAll next rest parts)

variable {decoder} {state next : σ} {input rest : List α} {outputs : List ω} {error : ε}

@[simp] theorem after_nil (result : Except ε (List ω × σ × List α)) : after [] result = result := by
  cases result <;> rfl

@[simp] theorem after_after (front back : List ω) (result : Except ε (List ω × σ × List α)) :
    after front (after back result) = after (front ++ back) result := by
  cases result with
  | error error => rfl
  | ok found => simp only [after, Except.map, List.append_assoc]

theorem drain_more (h : decoder.look state input = .more) :
    decoder.drain state input = .ok ([], state, input) := by
  rw [drain]
  split <;> simp_all

theorem drain_bad (h : decoder.look state input = .bad error) :
    decoder.drain state input = .error error := by
  rw [drain]
  split <;> simp_all

theorem drain_item {length : ℕ} (h : decoder.look state input = .item length outputs next) :
    decoder.drain state input = after outputs (decoder.drain next (input.drop length)) := by
  rw [drain]
  split <;> simp_all

/-- The decoder waits on what it leaves. -/
theorem look_left (h : decoder.drain state input = .ok (outputs, next, rest)) :
    decoder.look next rest = .more := by
  induction state, input using drain.induct decoder generalizing outputs with
  | case1 state input hlook =>
      rw [drain_more hlook] at h
      cases h
      exact hlook
  | case2 state input error hlook =>
      rw [drain_bad hlook] at h
      cases h
  | case3 state input length first following hlook ih =>
      rw [drain_item hlook] at h
      cases hdrain : decoder.drain following (input.drop length) with
      | error error =>
          rw [hdrain] at h
          cases h
      | ok found =>
          rw [hdrain] at h
          obtain ⟨taken, left⟩ := found
          cases h
          exact ih hdrain

/-- More input is decoded from what was left of the input before it. -/
theorem drain_append (state : σ) (input later : List α) :
    decoder.drain state (input ++ later)
      = match decoder.drain state input with
        | .error error => .error error
        | .ok (outputs, next, rest) => after outputs (decoder.drain next (rest ++ later)) := by
  induction state, input using drain.induct decoder with
  | case1 state input hlook =>
      rw [drain_more hlook]
      exact (after_nil _).symm
  | case2 state input error hlook =>
      have hlater : decoder.look state (input ++ later) = .bad error := by
        rw [decoder.stable (by rw [hlook]; nofun), hlook]
      rw [drain_bad hlook, drain_bad hlater]
  | case3 state input length first following hlook ih =>
      have hlater : decoder.look state (input ++ later) = .item length first following := by
        rw [decoder.stable (by rw [hlook]; nofun), hlook]
      have hle : length ≤ input.length := (decoder.bounded hlook).2
      rw [drain_item hlook, drain_item hlater, List.drop_append_of_le_length hle, ih]
      cases decoder.drain following (input.drop length) with
      | error error => rfl
      | ok found => exact after_after _ _ _

/-- However the input is cut into parts, they decode as the whole does. -/
theorem feedAll_eq (hwaits : decoder.look state input = .more) (parts : List (List α)) :
    decoder.feedAll state input parts = decoder.drain state (input ++ parts.flatten) := by
  induction parts generalizing state input with
  | nil => rw [feedAll, List.flatten_nil, List.append_nil, drain_more hwaits]
  | cons part parts ih =>
      rw [feedAll, List.flatten_cons, ← List.append_assoc,
        drain_append state (input ++ part)]
      cases hdrain : decoder.drain state (input ++ part) with
      | error error => rfl
      | ok found => exact congrArg (after found.1) (ih (look_left hdrain))

end Decoder

end Raydio.Foundation
