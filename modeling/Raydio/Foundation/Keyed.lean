/-
# Reports that carry a key

Reports about several keys arrive in one list, and for each key the latest one
counts. A map that is maintained from them holds values under the same keys.
-/

import Mathlib

namespace Raydio.Foundation

universe u v

namespace Keyed

variable {α : Type u} {κ : Type v} [DecidableEq κ] {key : α → κ} {k : κ}

/-- The latest report under a key. -/
def latest (key : α → κ) (k : κ) (reports : List α) : Option α :=
  (reports.filter fun report => key report = k).getLast?

@[simp]
theorem latest_nil (key : α → κ) (k : κ) : latest key k [] = none := rfl

/-- Later reports count before earlier ones. -/
theorem latest_append (key : α → κ) (k : κ) (earlier later : List α) :
    latest key k (earlier ++ later) = (latest key k later).or (latest key k earlier) := by
  rw [latest, List.filter_append, List.getLast?_append]
  rfl

/-- One more report counts for its own key only. -/
theorem latest_concat (key : α → κ) (k : κ) (reports : List α) (report : α) :
    latest key k (reports ++ [report]) =
      if key report = k then some report else latest key k reports := by
  rw [latest_append]
  by_cases hkey : key report = k <;> simp [latest, hkey]

end Keyed

namespace Map

variable {κ : Type u} {β : Type v} {cmp : κ → κ → Ordering}

/-- The values of a map, as its entries list them. -/
theorem values_eq_map_toList (map : Std.TreeMap κ β cmp) :
    map.values = map.toList.map Prod.snd := by
  have hvalues : map.values = map.inner.inner.toListModel.map fun entry => entry.2 :=
    Std.DTreeMap.Internal.Impl.values_eq_map_snd
  have hentries : map.toList = map.inner.inner.toListModel.map fun entry => (entry.1, entry.2) :=
    Std.DTreeMap.Internal.Impl.Const.toList_eq_toListModel_map
  rw [hvalues, hentries, List.map_map]
  rfl

/-- The values of a map are what it holds under some key. -/
theorem mem_values [Std.TransCmp cmp] [Std.LawfulEqCmp cmp] {map : Std.TreeMap κ β cmp}
    {value : β} : value ∈ map.values ↔ ∃ k : κ, map[k]? = some value := by
  rw [values_eq_map_toList]
  simp [Std.TreeMap.mem_toList_iff_getElem?_eq_some]

/-- Maps that agree on a part of what they hold under each key list the same parts. -/
theorem values_map_congr {γ : Type v} [Std.TransCmp cmp] [Std.LawfulEqCmp cmp]
    {first second : Std.TreeMap κ β cmp} (part : β → γ)
    (h : ∀ k : κ, (first[k]?).map part = (second[k]?).map part) :
    first.values.map part = second.values.map part := by
  have hparts (map : Std.TreeMap κ β cmp) :
      (map.map fun _ value => part value).values = map.values.map part := by
    rw [values_eq_map_toList, values_eq_map_toList, Std.TreeMap.toList_map, List.map_map,
      List.map_map]
    rfl
  have hsame : (first.map fun _ value => part value).Equiv
      (second.map fun _ value => part value) := by
    apply Std.TreeMap.Equiv.of_forall_constGet?_eq
    intro k
    rw [Std.TreeMap.getElem?_map, Std.TreeMap.getElem?_map]
    exact h k
  rw [← hparts, ← hparts, hsame.values_eq]

end Map

end Raydio.Foundation
