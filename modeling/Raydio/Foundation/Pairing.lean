/-
# Pairing two lists

A relation covers a list if each of its elements has a partner in another list. If partners
share a key and the keys of the covered list are all different, no two of its elements
share a partner; with lists of the same length the partners are then all of the other list,
so that covering in one direction pairs the two lists off.
-/

import Mathlib

namespace Raydio.Foundation

variable {α β κ : Type*} {R : α → β → Prop} {as : List α} {bs : List β}

/-- The lists are paired off: each position of one with a position of the other. -/
def PairedOff (R : α → β → Prop) (as : List α) (bs : List β) : Prop :=
  ∃ partner : Fin bs.length ≃ Fin as.length, ∀ i, R (as.get (partner i)) (bs.get i)

/-- Elements of lists that correspond to each other. -/
theorem exists_of_forall₂ (h : List.Forall₂ R as bs) :
    (∀ a ∈ as, ∃ b ∈ bs, R a b) ∧ ∀ b ∈ bs, ∃ a ∈ as, R a b := by
  induction h with
  | nil => simp
  | cons hhead _ ih =>
      obtain ⟨hforth, hback⟩ := ih
      constructor
      · intro a ha
        rcases List.mem_cons.mp ha with rfl | ha
        · exact ⟨_, List.mem_cons_self, hhead⟩
        · obtain ⟨b, hb, hpair⟩ := hforth a ha
          exact ⟨b, List.mem_cons_of_mem _ hb, hpair⟩
      · intro b hb
        rcases List.mem_cons.mp hb with rfl | hb
        · exact ⟨_, List.mem_cons_self, hhead⟩
        · obtain ⟨a, ha, hpair⟩ := hback b hb
          exact ⟨a, List.mem_cons_of_mem _ ha, hpair⟩

namespace PairedOff

theorem length_eq (h : PairedOff R as bs) : as.length = bs.length := by
  obtain ⟨partner, -⟩ := h
  simpa using (Fintype.card_congr partner).symm

/-- Each element of the second list has a partner. -/
theorem covers (h : PairedOff R as bs) : ∀ b ∈ bs, ∃ a ∈ as, R a b := by
  obtain ⟨partner, hpartner⟩ := h
  intro b hb
  obtain ⟨i, rfl⟩ := List.get_of_mem hb
  exact ⟨as.get (partner i), List.get_mem as (partner i), hpartner i⟩

/-- Each element of the first list has a partner. -/
theorem covered (h : PairedOff R as bs) : ∀ a ∈ as, ∃ b ∈ bs, R a b := by
  obtain ⟨partner, hpartner⟩ := h
  intro a ha
  obtain ⟨i, rfl⟩ := List.get_of_mem ha
  have hpair := hpartner (partner.symm i)
  rw [Equiv.apply_symm_apply] at hpair
  exact ⟨bs.get (partner.symm i), List.get_mem bs (partner.symm i), hpair⟩

end PairedOff

/-- Different keys tell positions apart. -/
theorem eq_of_keys {key : α → κ} (hdistinct : (as.map key).Nodup) {i j : Fin as.length}
    (h : key (as.get i) = key (as.get j)) : i = j := by
  have hinjective := List.nodup_iff_injective_get.mp hdistinct
  have hlength : (as.map key).length = as.length := List.length_map key
  have hsame : i.cast hlength.symm = j.cast hlength.symm := by
    apply hinjective
    simpa using h
  simpa [Fin.ext_iff] using hsame

/-- Lists that are paired off with equal keys have different keys together. -/
theorem PairedOff.nodup {key : α → κ} {key' : β → κ} (hkey : ∀ a b, R a b → key a = key' b)
    (hdistinct : (bs.map key').Nodup) (h : PairedOff R as bs) : (as.map key).Nodup := by
  obtain ⟨partner, hpartner⟩ := h
  rw [List.nodup_iff_injective_get]
  intro i j hsame
  have hlength : (as.map key).length = as.length := List.length_map key
  have hback : partner.symm (i.cast hlength) = partner.symm (j.cast hlength) := by
    apply eq_of_keys hdistinct
    rw [← hkey _ _ (hpartner _), ← hkey _ _ (hpartner _), Equiv.apply_symm_apply,
      Equiv.apply_symm_apply]
    simpa using hsame
  simpa [Fin.ext_iff] using hback

/-- Covering pairs off, if the covered list has different keys and the lengths agree. -/
theorem pairedOff_of_covers {key : α → κ} {key' : β → κ} (hkey : ∀ a b, R a b → key a = key' b)
    (hdistinct : (bs.map key').Nodup) (hlength : as.length = bs.length)
    (hcovers : ∀ b ∈ bs, ∃ a ∈ as, R a b) : PairedOff R as bs := by
  have hpartner : ∀ i : Fin bs.length, ∃ j : Fin as.length, R (as.get j) (bs.get i) := by
    intro i
    obtain ⟨a, ha, hpair⟩ := hcovers (bs.get i) (List.get_mem bs i)
    obtain ⟨j, rfl⟩ := List.get_of_mem ha
    exact ⟨j, hpair⟩
  choose partner hpair using hpartner
  have hinjective : Function.Injective partner := by
    intro i j hsame
    apply eq_of_keys hdistinct
    rw [← hkey _ _ (hpair i), ← hkey _ _ (hpair j), hsame]
  have hbijective : Function.Bijective partner :=
    (Fintype.bijective_iff_injective_and_card partner).mpr ⟨hinjective, by simp [hlength]⟩
  exact ⟨Equiv.ofBijective partner hbijective, hpair⟩

end Raydio.Foundation
