/-
# The stretches of a sequence of flags

A scanner sees one flag after the other and notes down every stretch of set flags when it
ends. Whatever it has seen, it has noted down the maximal stretches that have ended, in
their order and no others, and it knows how long the one that goes on is.
-/

import Mathlib

namespace Raydio.Foundation

/-- A maximal stretch of so many set flags ends before a flag. -/
structure StretchEnds (flags : List Bool) (stop length : ℕ) : Prop where
  positive : 0 < length
  le : length ≤ stop
  unset : flags[stop]? = some false
  set : ∀ index, stop - length ≤ index → index < stop → flags[index]? = some true
  maximal : length = stop ∨ flags[stop - length - 1]? = some false

/-- The last so many flags are set, and no more. -/
structure StretchGoesOn (flags : List Bool) (length : ℕ) : Prop where
  le : length ≤ flags.length
  set : ∀ index, flags.length - length ≤ index → index < flags.length →
    flags[index]? = some true
  maximal : length = flags.length ∨ flags[flags.length - length - 1]? = some false

variable {flags : List Bool} {stop length : ℕ}

theorem StretchEnds.lt (h : StretchEnds flags stop length) : stop < flags.length := by
  obtain ⟨hlt, -⟩ := List.getElem?_eq_some_iff.mp h.unset
  exact hlt

/-- What comes later does not change the stretches that have ended. -/
theorem stretchEnds_concat_of_lt (hlt : stop < flags.length) (flag : Bool) :
    StretchEnds (flags ++ [flag]) stop length ↔ StretchEnds flags stop length := by
  have hsame : ∀ index ≤ stop, (flags ++ [flag])[index]? = flags[index]? :=
    fun index hindex => List.getElem?_append_left (by omega)
  constructor
  · intro h
    refine ⟨h.positive, h.le, ?_, ?_, ?_⟩
    · rw [← hsame stop (le_refl stop)]
      exact h.unset
    · intro index hfrom hto
      rw [← hsame index (by omega)]
      exact h.set index hfrom hto
    · rw [← hsame (stop - length - 1) (by omega)]
      exact h.maximal
  · intro h
    refine ⟨h.positive, h.le, ?_, ?_, ?_⟩
    · rw [hsame stop (le_refl stop)]
      exact h.unset
    · intro index hfrom hto
      rw [hsame index (by omega)]
      exact h.set index hfrom hto
    · rw [hsame (stop - length - 1) (by omega)]
      exact h.maximal

/-- The stretch that goes on has one length. -/
theorem StretchGoesOn.unique {first second : ℕ} (h : StretchGoesOn flags first)
    (h' : StretchGoesOn flags second) : first = second := by
  have hle : ∀ {shorter longer : ℕ}, StretchGoesOn flags shorter → StretchGoesOn flags longer →
      ¬shorter < longer := by
    intro shorter longer hshorter hlonger hlt
    have hbound := hlonger.le
    rcases hshorter.maximal with hwhole | hunset
    · omega
    · have hset := hlonger.set (flags.length - shorter - 1) (by omega) (by omega)
      rw [hset] at hunset
      cases hunset
  have := hle h h'
  have := hle h' h
  omega

/-- An unset flag ends the stretch that goes on, if there is one. -/
theorem stretchEnds_concat_length (flag : Bool) :
    StretchEnds (flags ++ [flag]) flags.length length ↔
      flag = false ∧ 0 < length ∧ StretchGoesOn flags length := by
  have hlast : (flags ++ [flag])[flags.length]? = some flag := by
    rw [List.getElem?_append_right (le_refl _), Nat.sub_self]
    rfl
  have hsame : ∀ index < flags.length, (flags ++ [flag])[index]? = flags[index]? :=
    fun index hindex => List.getElem?_append_left hindex
  constructor
  · intro h
    refine ⟨?_, h.positive, h.le, ?_, ?_⟩
    · have hunset := h.unset
      rw [hlast] at hunset
      exact Option.some.inj hunset
    · intro index hfrom hto
      rw [← hsame index hto]
      exact h.set index hfrom hto
    · have hpositive := h.positive
      have hle := h.le
      rcases h.maximal with hwhole | hunset
      · exact Or.inl hwhole
      · rw [hsame _ (by omega)] at hunset
        exact Or.inr hunset
  · rintro ⟨rfl, hpositive, h⟩
    refine ⟨hpositive, h.le, hlast, ?_, ?_⟩
    · intro index hfrom hto
      rw [hsame index hto]
      exact h.set index hfrom hto
    · have hle := h.le
      rcases h.maximal with hwhole | hunset
      · exact Or.inl hwhole
      · rw [hsame _ (by omega)]
        exact Or.inr hunset

theorem StretchGoesOn.set_flag (h : StretchGoesOn flags length) :
    StretchGoesOn (flags ++ [true]) (length + 1) := by
  have hle := h.le
  have hlength : (flags ++ [true]).length = flags.length + 1 := by simp
  refine ⟨by omega, ?_, ?_⟩
  · intro index hfrom hto
    by_cases hlast : index = flags.length
    · rw [hlast, List.getElem?_append_right (le_refl _), Nat.sub_self]
      rfl
    · rw [List.getElem?_append_left (by omega)]
      exact h.set index (by omega) (by omega)
  · rcases h.maximal with hwhole | hunset
    · left
      omega
    · right
      obtain ⟨hlt, -⟩ := List.getElem?_eq_some_iff.mp hunset
      have hindex : (flags ++ [true]).length - (length + 1) - 1 = flags.length - length - 1 := by
        omega
      rw [hindex, List.getElem?_append_left hlt]
      exact hunset

theorem stretchGoesOn_unset (flags : List Bool) : StretchGoesOn (flags ++ [false]) 0 := by
  have hlength : (flags ++ [false]).length = flags.length + 1 := by simp
  refine ⟨Nat.zero_le _, ?_, Or.inr ?_⟩
  · intro index hfrom hto
    omega
  · rw [hlength, List.getElem?_append_right (by omega)]
    simp

/-- A scanner: how many flags it has seen, how long the stretch is that goes on, and the
stretches that have ended, each with the flag that ended it. -/
structure Stretches where
  seen : ℕ
  current : ℕ
  ended : List (ℕ × ℕ)

namespace Stretches

/-- Nothing was seen. -/
def start : Stretches := ⟨0, 0, []⟩

/-- See a flag. -/
def see (self : Stretches) (flag : Bool) : Stretches :=
  if flag then { self with seen := self.seen + 1, current := self.current + 1 }
  else
    { seen := self.seen + 1
      current := 0
      ended := if self.current = 0 then self.ended
        else self.ended ++ [(self.seen, self.current)] }

/-- What a scanner knows. -/
structure Knows (flags : List Bool) (scan : Stretches) : Prop where
  seen : scan.seen = flags.length
  current : StretchGoesOn flags scan.current
  ended : ∀ stop length, (stop, length) ∈ scan.ended ↔ StretchEnds flags stop length
  /-- A stretch begins behind the flag that ended the one before. -/
  apart : scan.ended.Pairwise fun earlier later => earlier.1 + later.2 + 1 ≤ later.1

variable {flags : List Bool} {self : Stretches}

theorem knows_start : Knows [] start where
  seen := rfl
  current := ⟨le_refl 0, fun index _ hto => absurd hto (Nat.not_lt_zero index), Or.inl rfl⟩
  ended := by
    intro stop length
    constructor
    · intro hmem
      cases hmem
    · intro h
      exact absurd h.lt (Nat.not_lt_zero stop)
  apart := List.Pairwise.nil

theorem Knows.see (h : Knows flags self) (flag : Bool) :
    Knows (flags ++ [flag]) (self.see flag) := by
  have hlength : (flags ++ [flag]).length = flags.length + 1 := by simp
  have hends : ∀ stop length, StretchEnds (flags ++ [flag]) stop length ↔
      StretchEnds flags stop length ∨
        (stop = flags.length ∧ flag = false ∧ 0 < length ∧ length = self.current) := by
    intro stop length
    constructor
    · intro hstretch
      have hlt := hstretch.lt
      rcases Nat.lt_or_ge stop flags.length with hold | hnew
      · exact Or.inl ((stretchEnds_concat_of_lt hold flag).mp hstretch)
      · obtain rfl : stop = flags.length := by omega
        obtain ⟨hunset, hpositive, hgoes⟩ := stretchEnds_concat_length flag |>.mp hstretch
        exact Or.inr ⟨rfl, hunset, hpositive, hgoes.unique h.current⟩
    · rintro (hstretch | ⟨rfl, hunset, hpositive, rfl⟩)
      · exact (stretchEnds_concat_of_lt hstretch.lt flag).mpr hstretch
      · exact (stretchEnds_concat_length flag).mpr ⟨hunset, hpositive, h.current⟩
  cases flag with
  | true =>
      refine ⟨?_, h.current.set_flag, ?_, h.apart⟩
      · rw [hlength, ← h.seen]
        rfl
      · intro stop length
        rw [hends]
        constructor
        · intro hmem
          exact Or.inl ((h.ended stop length).mp hmem)
        · rintro (hstretch | ⟨-, habsurd, -, -⟩)
          · exact (h.ended stop length).mpr hstretch
          · cases habsurd
  | false =>
      refine ⟨?_, stretchGoesOn_unset flags, ?_, ?_⟩
      · rw [hlength, ← h.seen]
        rfl
      · intro stop length
        rw [hends]
        show (stop, length) ∈ (if self.current = 0 then self.ended
          else self.ended ++ [(self.seen, self.current)]) ↔ _
        rw [← h.ended, ← h.seen]
        split
        · constructor
          · exact Or.inl
          · rintro (hmem | ⟨-, -, hpositive, rfl⟩)
            · exact hmem
            · omega
        · rw [List.mem_append, List.mem_singleton, Prod.mk.injEq]
          constructor
          · rintro (hmem | ⟨hstop, hcurrent⟩)
            · exact Or.inl hmem
            · exact Or.inr ⟨hstop, rfl, by omega, hcurrent⟩
          · rintro (hmem | ⟨hstop, -, -, hcurrent⟩)
            · exact Or.inl hmem
            · exact Or.inr ⟨hstop, hcurrent⟩
      · show (if self.current = 0 then self.ended
          else self.ended ++ [(self.seen, self.current)]).Pairwise _
        split
        · exact h.apart
        · rw [List.pairwise_append]
          refine ⟨h.apart, List.pairwise_singleton _ _, ?_⟩
          intro earlier hearlier later hlater
          rw [List.mem_singleton.mp hlater]
          have hstretch := (h.ended earlier.1 earlier.2).mp hearlier
          have hlt := hstretch.lt
          have hle := h.current.le
          by_contra hnear
          have hset := h.current.set earlier.1 (by
            rw [← h.seen]
            dsimp only at hnear
            omega) hlt
          have hunset := hstretch.unset
          rw [hset] at hunset
          cases hunset

end Stretches

end Raydio.Foundation
