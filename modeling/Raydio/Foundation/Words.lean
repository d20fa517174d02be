/-
# Words

What trimming and flattening keep of a text. The words of a text are its longest parts
without white space, and flattening joins them with single spaces: it adds no character
but the space, and it loses only white space.
-/

import Raydio.Foundation.Text

namespace Raydio.Foundation.Text

variable {text word : List Char} {c : Char}

/-- Nothing is left by trimming exactly if there is only white space. -/
theorem trim_eq_nil_iff : trim text = [] ↔ ∀ c ∈ text, isWhitespace c = true := by
  rw [trim, List.reverse_eq_nil_iff, List.dropWhile_eq_nil_iff]
  constructor
  · intro h
    by_contra hsome
    have hne : text.dropWhile isWhitespace ≠ [] := fun hnil =>
      hsome (List.dropWhile_eq_nil_iff.mp hnil)
    have hhead := h _ (List.mem_reverse.mpr (List.head_mem hne))
    rw [List.head_dropWhile_not isWhitespace hne] at hhead
    cases hhead
  · intro h c hc
    exact h c ((List.dropWhile_sublist isWhitespace).subset (List.mem_reverse.mp hc))

/-! ## Words -/

/-- A word has characters, and none of them is white space. -/
theorem words_sound {part : List Char} (hpart : ∀ c ∈ part, isWhitespace c = false)
    (h : word ∈ words part text) :
    word ≠ [] ∧ ∀ c ∈ word, isWhitespace c = false := by
  fun_induction words part text with
  | case1 => simp at h
  | case2 part hsome =>
      obtain rfl := List.mem_singleton.mp h
      exact ⟨hsome, hpart⟩
  | case3 part c rest hspace hnil ih => exact ih (by simp) h
  | case4 part c rest hspace hsome ih =>
      rcases List.mem_cons.mp h with rfl | h
      · exact ⟨by simpa using hsome, hpart⟩
      · exact ih (by simp) h
  | case5 part c rest hletter ih =>
      refine ih (fun d hd => ?_) h
      rcases List.mem_append.mp hd with hd | hd
      · exact hpart d hd
      · obtain rfl := List.mem_singleton.mp hd
        simpa using hletter

/-- The words have the characters of the text without the white space, in order. -/
theorem flatten_words (part text : List Char) :
    (words part text).flatten = part ++ text.filter fun c => !isWhitespace c := by
  fun_induction words part text with
  | case1 => simp
  | case2 part hsome => simp
  | case3 part c rest hspace hnil ih =>
      rw [ih, List.filter_cons_of_neg (by simpa using hspace), List.isEmpty_iff.mp hnil]
  | case4 part c rest hspace hsome ih =>
      rw [List.flatten_cons, ih, List.filter_cons_of_neg (by simpa using hspace), List.nil_append]
  | case5 part c rest hletter ih =>
      rw [ih, List.filter_cons_of_pos (by simpa using hletter), List.append_assoc,
        List.singleton_append]

/-! ## Flattening -/

/-- What joined lists have for a test that the separator passes. -/
theorem filter_intercalate_of_pos {α : Type*} {p : α → Bool} {separator : α}
    (hseparator : p separator = true) {lists : List (List α)}
    (h : ∀ list ∈ lists, ∀ a ∈ list, p a = false) :
    (List.intercalate [separator] lists).filter p =
      List.replicate (lists.length - 1) separator := by
  induction lists with
  | nil => simp
  | cons list rest ih =>
      have hlist : list.filter p = [] :=
        List.filter_eq_nil_iff.mpr fun a ha => by simp [h list List.mem_cons_self a ha]
      cases rest with
      | nil => simpa using hlist
      | cons next rest =>
          have hrest := ih fun list hmem => h list (List.mem_cons_of_mem _ hmem)
          rw [List.intercalate_cons_cons, List.filter_append, List.filter_append, hlist, hrest]
          simp [hseparator, List.replicate_succ]

/-- What joined lists have for a test that the separator fails. -/
theorem filter_intercalate_of_neg {α : Type*} {p : α → Bool} {separator : α}
    (hseparator : p separator = false) (lists : List (List α)) :
    (List.intercalate [separator] lists).filter p = lists.flatten.filter p := by
  induction lists with
  | nil => simp
  | cons list rest ih =>
      cases rest with
      | nil => simp
      | cons next rest =>
          rw [List.intercalate_cons_cons, List.filter_append, List.filter_append, ih]
          simp [hseparator]

/-- The white space of a flattened text is a space between any two words. -/
theorem filter_isWhitespace_flatten (text : List Char) :
    (flatten text).filter isWhitespace = List.replicate ((words [] text).length - 1) ' ' :=
  filter_intercalate_of_pos (by decide) fun _ hword => (words_sound (by simp) hword).2

/-- A flattened text has the other characters of the text, in order. -/
theorem filter_flatten (text : List Char) :
    ((flatten text).filter fun c => !isWhitespace c) = text.filter fun c => !isWhitespace c := by
  rw [flatten, filter_intercalate_of_neg (by decide), flatten_words, List.nil_append,
    List.filter_filter]
  simp

/-- A flattened text has no white space but spaces. -/
theorem eq_space_of_mem_flatten (hc : c ∈ flatten text) (hspace : isWhitespace c = true) :
    c = ' ' := by
  have hmem : c ∈ (flatten text).filter isWhitespace := List.mem_filter.mpr ⟨hc, hspace⟩
  rw [filter_isWhitespace_flatten] at hmem
  exact List.eq_of_mem_replicate hmem

/-- A space is left exactly if there is one between two words. -/
theorem space_mem_flatten_iff : ' ' ∈ flatten text ↔ 2 ≤ (words [] text).length := by
  have hfilter : ' ' ∈ flatten text ↔ ' ' ∈ (flatten text).filter isWhitespace := by
    rw [List.mem_filter]
    exact ⟨fun h => ⟨h, by decide⟩, And.left⟩
  rw [hfilter, filter_isWhitespace_flatten, List.mem_replicate, and_iff_left rfl]
  omega

/-- The other characters are the ones of the text. -/
theorem mem_flatten_iff (hletter : isWhitespace c = false) : c ∈ flatten text ↔ c ∈ text := by
  have hfilter (text : List Char) : c ∈ text ↔ c ∈ text.filter fun c => !isWhitespace c := by
    simp [List.mem_filter, hletter]
  rw [hfilter, filter_flatten, ← hfilter]

/-- A character that a reader can see: neither white space nor a control character. -/
def isVisible (c : Char) : Bool := !isWhitespace c && !isControl c

/-- What is left of a text that is flattened without a character to see: one space between
any two words. -/
theorem filter_flatten_of_invisible (h : ∀ c ∈ text, isVisible c = false) :
    ((flatten text).filter fun c => !isControl c) =
      List.replicate ((words [] text).length - 1) ' ' := by
  rw [← filter_isWhitespace_flatten]
  apply List.filter_congr
  intro c hc
  cases hspace : isWhitespace c with
  | true =>
      obtain rfl := eq_space_of_mem_flatten hc hspace
      decide
  | false =>
      have hinvisible := h c ((mem_flatten_iff hspace).mp hc)
      simpa [isVisible, hspace] using hinvisible

/-- Something is left of a text that is flattened and rid of control characters exactly if
there is a character to see or a second word. -/
theorem filter_flatten_ne_nil_iff : ((flatten text).filter fun c => !isControl c) ≠ [] ↔
    (∃ c ∈ text, isVisible c = true) ∨ 2 ≤ (words [] text).length := by
  constructor
  · intro h
    by_contra hnone
    obtain ⟨hinvisible, hwords⟩ := not_or.mp hnone
    apply h
    rw [filter_flatten_of_invisible fun c hc => by
      by_contra hvisible
      exact hinvisible ⟨c, hc, by simpa using hvisible⟩]
    simp only [List.replicate_eq_nil_iff]
    omega
  · rintro (⟨c, hc, hvisible⟩ | hwords)
    · simp only [isVisible, Bool.and_eq_true, Bool.not_eq_true'] at hvisible
      exact List.ne_nil_of_mem (List.mem_filter.mpr
        ⟨(mem_flatten_iff hvisible.1).mpr hc, by simpa using hvisible.2⟩)
    · exact List.ne_nil_of_mem
        (List.mem_filter.mpr ⟨space_mem_flatten_iff.mpr hwords, by decide⟩)

end Raydio.Foundation.Text
