/-
# Maps in insertion order

A map that lists its entries in the order in which their keys were added. Setting a key
that is there replaces its value in place.
-/

import Mathlib

namespace Raydio.Foundation

universe u v

/-- The entries of a map, oldest key first. -/
structure OrderedMap (κ : Type u) (β : Type v) where
  entries : List (κ × β)
  nodup : (entries.map Prod.fst).Nodup

namespace OrderedMap

variable {κ : Type u} {β : Type v}

/-- The empty map. -/
def empty : OrderedMap κ β := ⟨[], List.nodup_nil⟩

/-- The keys, oldest first. -/
def keys (map : OrderedMap κ β) : List κ := map.entries.map Prod.fst

/-- Change every value. -/
def mapValues (map : OrderedMap κ β) (f : β → β) : OrderedMap κ β where
  entries := map.entries.map fun entry => (entry.1, f entry.2)
  nodup := by
    rw [List.map_map]
    exact map.nodup

@[simp]
theorem keys_mapValues (map : OrderedMap κ β) (f : β → β) : (map.mapValues f).keys = map.keys := by
  simp [keys, mapValues]

theorem nodup_keys (map : OrderedMap κ β) : map.keys.Nodup := map.nodup

variable [DecidableEq κ]

/-- The value under a key. -/
def get (map : OrderedMap κ β) (k : κ) : Option β :=
  (map.entries.find? fun entry => entry.1 = k).map Prod.snd

/-- Remove a key. -/
def delete (map : OrderedMap κ β) (k : κ) : OrderedMap κ β where
  entries := map.entries.filter fun entry => entry.1 ≠ k
  nodup := map.nodup.sublist (List.filter_sublist.map _)

/-- Set the value under a key. -/
def set (map : OrderedMap κ β) (k : κ) (b : β) : OrderedMap κ β :=
  if h : k ∈ map.entries.map Prod.fst then
    { entries := map.entries.map fun entry => if entry.1 = k then (k, b) else entry
      nodup := by
        have hkeys : (map.entries.map fun entry => if entry.1 = k then (k, b) else entry).map
            Prod.fst = map.entries.map Prod.fst := by
          rw [List.map_map]
          apply List.map_congr_left
          intro entry _
          simp only [Function.comp_apply]
          split
          · exact Eq.symm ‹_›
          · rfl
        rw [hkeys]
        exact map.nodup }
  else
    { entries := map.entries ++ [(k, b)]
      nodup := by
        rw [List.map_append, List.nodup_append]
        refine ⟨map.nodup, List.nodup_singleton _, ?_⟩
        intro other hother last hlast
        rw [List.mem_singleton.mp hlast]
        rintro rfl
        exact h hother }

variable {map : OrderedMap κ β} {k k' : κ} {b : β}

/-- The keys are those with a value. -/
theorem mem_keys_iff : k ∈ map.keys ↔ (map.get k).isSome := by
  simp [keys, get, List.find?_isSome]

theorem get_eq_none_iff : map.get k = none ↔ k ∉ map.keys := by
  rw [mem_keys_iff, Bool.not_eq_true, Option.isSome_eq_false_iff, Option.isNone_iff_eq_none]

theorem mem_keys_of_get (h : map.get k = some b) : k ∈ map.keys := by
  rw [mem_keys_iff, h]
  rfl

theorem get_delete : (map.delete k).get k' = if k' = k then none else map.get k' := by
  simp only [get, delete, List.find?_filter]
  by_cases hsame : k' = k
  · subst hsame
    simp
  · simp only [hsame, if_false]
    congr 2
    funext entry
    by_cases hentry : entry.1 = k'
    · simp [hentry, hsame]
    · simp [hentry]

theorem get_set : (map.set k b).get k' = if k' = k then some b else map.get k' := by
  rw [set]
  split
  · rename_i hmem
    obtain ⟨entry, hentry, hkey⟩ := List.mem_map.mp hmem
    have hsome : (map.get k).isSome := mem_keys_iff.mp hmem
    have hfound : ∀ other : κ × β,
        (if other.1 = k then (k, b) else other).1 = k' ↔ other.1 = k' := by
      intro other
      by_cases hother : other.1 = k
      · simp [hother]
      · simp [hother]
    simp only [get, List.find?_map, Function.comp_def, hfound, Option.map_map] at hsome ⊢
    by_cases hsame : k' = k
    · subst hsame
      rw [Option.isSome_map] at hsome
      obtain ⟨other, hother⟩ := Option.isSome_iff_exists.mp hsome
      have hother' : other.1 = k' := by simpa using List.find?_some hother
      simp [hother, hother']
    · cases hfind : map.entries.find? fun other => other.1 = k' with
      | none => simp [hsame]
      | some other =>
          have hother : other.1 = k' := by simpa using List.find?_some hfind
          simp [hsame, hother]
  · rename_i hnone
    have hfind : (map.entries.find? fun entry => entry.1 = k) = none := by
      rw [List.find?_eq_none]
      intro entry hentry
      simpa using fun hkey => hnone (List.mem_map.mpr ⟨entry, hentry, hkey⟩)
    by_cases hsame : k' = k
    · subst hsame
      simp [get, List.find?_append, hfind]
    · simp [get, List.find?_append, hsame, Ne.symm hsame]

theorem keys_delete : (map.delete k).keys = map.keys.filter (· ≠ k) := by
  simp [keys, delete, List.filter_map, Function.comp_def]

/-- Removing a key leaves the others. -/
theorem keys_perm_delete (h : k ∈ map.keys) : map.keys.Perm (k :: (map.delete k).keys) := by
  have hkeys : (map.delete k).keys = map.keys.erase k := by
    rw [keys_delete, map.nodup_keys.erase_eq_filter]
    apply List.filter_congr
    intro other _
    simp [bne, beq_eq_decide]
  rw [hkeys]
  exact List.perm_cons_erase h

theorem keys_set_of_mem (h : k ∈ map.keys) : (map.set k b).keys = map.keys := by
  have hmem : k ∈ map.entries.map Prod.fst := h
  rw [set, dif_pos hmem, keys, keys, List.map_map]
  apply List.map_congr_left
  intro entry _
  simp only [Function.comp_apply]
  split
  · exact Eq.symm ‹_›
  · rfl

theorem keys_set_of_notMem (h : k ∉ map.keys) : (map.set k b).keys = map.keys ++ [k] := by
  have hnone : k ∉ map.entries.map Prod.fst := h
  rw [set, dif_neg hnone]
  simp [keys]

/-- A loop that removes a key at each step leaves the keys that it does not meet. -/
theorem keys_foldl_delete {σ : Type*} {keys : σ → List κ} {operation : σ → κ → σ}
    (h : ∀ state k, keys (operation state k) = (keys state).filter (· ≠ k)) (list : List κ)
    (state : σ) : keys (list.foldl operation state) = (keys state).filter (· ∉ list) := by
  induction list generalizing state with
  | nil => simp
  | cons k list ih =>
      rw [List.foldl_cons, ih, h, List.filter_filter]
      apply List.filter_congr
      intro other _
      simp [Bool.and_comm]

/-- A loop over all the keys removes them all. -/
theorem keys_foldl_keys {σ : Type*} (keys : σ → List κ) {operation : σ → κ → σ}
    (h : ∀ state k, keys (operation state k) = (keys state).filter (· ≠ k)) (state : σ) :
    keys ((keys state).foldl operation state) = [] := by
  rw [keys_foldl_delete h, List.filter_eq_nil_iff]
  intro k hk
  simpa using hk

end OrderedMap

end Raydio.Foundation
