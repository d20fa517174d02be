/-
# Untrusted text between Markdown

What cutting and escaping promise of every text. A cut text fits, and loses only whole
characters at its end. An escaped text, cut wherever its length in UTF-16 falls, has no
character that Markdown acts on and does not end inside an escape, so that what is put
after it keeps its meaning.
-/

import Raydio.Foundation.Escaping
import Raydio.Foundation.Utf16
import Raydio.Foundation.Words
import Raydio.Views.View

namespace Raydio.Views

open Raydio.Foundation Raydio.Foundation.Text

variable {text : List Char} {max count : ℕ}

/-! ## Cutting -/

theorem fitting_isPrefix : fitting max count text <+: text := by
  fun_induction fitting max count text with
  | case1 => exact List.prefix_rfl
  | case2 => exact List.nil_prefix
  | case3 count c rest hroom ih => exact List.cons_prefix_cons.mpr ⟨rfl, ih⟩

theorem fitting_lt (h : count < max) : count + utf16Count (fitting max count text) < max := by
  fun_induction fitting max count text with
  | case1 => exact h
  | case2 => exact h
  | case3 count c rest hroom ih =>
      have hrest := ih (by omega)
      rw [utf16Count_cons]
      omega

/-- What is kept is the longest start of the text that leaves room for the ellipsis. -/
theorem prefix_fitting {kept : List Char} (hkept : kept <+: text)
    (hroom : count + utf16Count kept < max) : kept <+: fitting max count text := by
  fun_induction fitting max count text generalizing kept with
  | case1 => exact hkept
  | case2 count c rest hfull =>
      rcases List.prefix_cons_iff.mp hkept with rfl | ⟨kept, rfl, hrest⟩
      · exact List.nil_prefix
      · rw [utf16Count_cons] at hroom
        omega
  | case3 count c rest hsome ih =>
      rcases List.prefix_cons_iff.mp hkept with rfl | ⟨kept, rfl, hrest⟩
      · exact List.nil_prefix
      · rw [utf16Count_cons] at hroom
        exact List.cons_prefix_cons.mpr ⟨rfl, ih hrest (by omega)⟩

theorem truncateChars_of_le (h : utf16Count text ≤ max) : truncateChars text max = text :=
  if_pos h

theorem truncateChars_of_lt (hmax : 0 < max) (h : max < utf16Count text) :
    truncateChars text max = fitting max 0 text ++ ['…'] := by
  rw [truncateChars, if_neg (by omega), if_pos hmax]

/-- A cut text fits. -/
theorem utf16Count_truncateChars : utf16Count (truncateChars text max) ≤ max := by
  rcases Nat.lt_or_ge max (utf16Count text) with hcut | hfits
  · rcases Nat.eq_zero_or_pos max with rfl | hmax
    · have hnone : fitting 0 0 text = [] := by cases text <;> simp [fitting]
      rw [truncateChars, if_neg (by omega), hnone]
      simp
    · have hkept : 0 + utf16Count (fitting max 0 text) < max := fitting_lt hmax
      have hellipsis : utf16Count ['…'] = 1 := by decide
      rw [truncateChars_of_lt hmax hcut, utf16Count_append, hellipsis]
      omega
  · rwa [truncateChars_of_le hfits]

theorem utf16Count_truncate (text : String) (max : ℕ) :
    utf16Count (truncate text max).toList ≤ max := by
  rw [truncate, String.toList_ofList]
  exact utf16Count_truncateChars

theorem utf16Count_safe (text : String) (max : ℕ) : utf16Count (safe text max).toList ≤ max := by
  rw [safe, String.toList_ofList]
  exact utf16Count_truncateChars

/-! ## Escaping -/

/-- A character as it is to be read: escaped if it has a meaning in Markdown. -/
def token (c : Char) : Escaping.Token Char :=
  if markdown.contains c then .escaped c else .plain c

/-- The untrusted text as it is to be read. -/
def shown (text : String) : List Char := (flatten text.toList).filter fun c => !isControl c

theorem value_token (c : Char) : (token c).value = c := by
  rw [token]
  split <;> rfl

/-- No character of Markdown is a control character. -/
theorem isControl_of_mem_markdown {c : Char} (h : markdown.contains c = true) :
    isControl c = false := by
  have hall : (markdown.all fun c => !isControl c) = true := by decide
  simpa using List.all_eq_true.mp hall c (List.contains_iff_mem.mp h)

/-- Escaping writes the characters that are shown, each as it is to be read. -/
theorem escape_eq_print (text : List Char) :
    escape text = Escaping.print '\\' ((text.filter fun c => !isControl c).map token) := by
  induction text with
  | nil => rfl
  | cons c rest ih =>
      rw [escape, List.flatMap_cons, ← escape, ih]
      cases hmark : markdown.contains c with
      | true =>
          have htoken : token c = .escaped c := if_pos hmark
          have hcontrol := isControl_of_mem_markdown hmark
          rw [List.filter_cons_of_pos (by simp [hcontrol]), List.map_cons, htoken,
            Escaping.print_escaped_cons]
          simp [hcontrol]
      | false =>
          have htoken : token c = .plain c := if_neg (by rw [hmark]; exact Bool.false_ne_true)
          cases hcontrol : isControl c with
          | true =>
              rw [List.filter_cons_of_neg (by simp [hcontrol])]
              rfl
          | false =>
              rw [List.filter_cons_of_pos (by simp [hcontrol]), List.map_cons, htoken,
                Escaping.print_plain_cons]
              rfl

theorem plain_token {c d : Char} (h : token c = .plain d) : d ∉ markdown := by
  rw [token] at h
  split at h
  · cases h
  · rename_i hmark
    cases h
    exact fun hmem => hmark (List.contains_iff_mem.mpr hmem)

/-- Tokens that are to be read as they are: no character with a meaning is plain. -/
def Inert (tokens : List (Escaping.Token Char)) : Prop :=
  ∀ c, Escaping.Token.plain c ∈ tokens → c ∉ markdown

theorem inert_map_token (text : List Char) : Inert (text.map token) := by
  intro c hc
  obtain ⟨d, -, hd⟩ := List.mem_map.mp hc
  exact plain_token hd

theorem Inert.legible {tokens : List (Escaping.Token Char)} (h : Inert tokens) :
    Escaping.Legible '\\' tokens := fun hmem => h '\\' hmem (by decide)

theorem Inert.of_prefix {kept tokens : List (Escaping.Token Char)} (h : Inert tokens)
    (hkept : kept <+: tokens) : Inert kept := fun c hc => h c (hkept.subset hc)

theorem Inert.append {first second : List (Escaping.Token Char)} (hfirst : Inert first)
    (hsecond : Inert second) : Inert (first ++ second) := by
  intro c hc
  rcases List.mem_append.mp hc with hc | hc
  · exact hfirst c hc
  · exact hsecond c hc

theorem map_value_token (text : List Char) :
    (text.map token).map Escaping.Token.value = text := by
  rw [List.map_map]
  exact (List.map_congr_left fun c _ => value_token c).trans (List.map_id text)

/-- How long a text is in UTF-16 with a backslash before each character that Markdown acts
on. -/
def escapedCount (text : List Char) : ℕ := utf16Count text + text.countP markdown.contains

theorem utf16Count_print (text : List Char) :
    utf16Count (Escaping.print '\\' (text.map token)) = escapedCount text := by
  induction text with
  | nil => rfl
  | cons c rest ih =>
      rw [escapedCount] at ih ⊢
      rw [List.map_cons, utf16Count_cons, List.countP_cons, token]
      cases hmark : markdown.contains c with
      | true =>
          have hbackslash : lenUtf16 '\\' = 1 := by decide
          rw [if_pos rfl, Escaping.print_escaped_cons, utf16Count_cons, utf16Count_cons, ih,
            hbackslash, if_pos rfl]
          omega
      | false =>
          rw [if_neg Bool.false_ne_true, Escaping.print_plain_cons, utf16Count_cons, ih,
            if_neg Bool.false_ne_true]
          omega

/-- A text that is escaped and then cut prints tokens that are read as they are, of the
whole text or of a start of it and the ellipsis; of the whole text if it fits. -/
theorem exists_tokens_safe (text : String) {max : ℕ} (hmax : 0 < max) :
    ∃ tokens, (safe text max).toList = Escaping.print '\\' tokens ∧ Inert tokens ∧
      (tokens.map Escaping.Token.value = shown text ∨ ∃ kept, kept <+: shown text ∧
        tokens.map Escaping.Token.value = kept ++ ['…']) ∧
      (escapedCount (shown text) ≤ max → tokens.map Escaping.Token.value = shown text) := by
  rw [safe, String.toList_ofList, escape_eq_print, ← shown]
  have hinert := inert_map_token (shown text)
  have hcount := utf16Count_print (shown text)
  rcases Nat.lt_or_ge max (utf16Count (Escaping.print '\\' ((shown text).map token)))
    with hcut | hfits
  · rw [truncateChars_of_lt hmax hcut]
    have hstart : fitting max 0 (Escaping.print '\\' ((shown text).map token)) <+:
        Escaping.print '\\' ((shown text).map token) := fitting_isPrefix
    obtain ⟨kept, closing, hkept, hprint, hclosing⟩ :=
      Escaping.exists_tokens_of_prefix '…' hstart
    have hvalue : closing.value = '…' := by
      rcases hclosing with rfl | rfl <;> rfl
    have hlast : Inert [closing] := by
      intro c hc
      rcases hclosing with rfl | rfl
      · obtain rfl : c = '…' := by simpa using hc
        decide
      · simp at hc
    refine ⟨kept ++ [closing], hprint, (hinert.of_prefix hkept).append hlast, .inr
      ⟨kept.map Escaping.Token.value, ?_, ?_⟩, fun hfits => ?_⟩
    · rw [← map_value_token (shown text)]
      exact hkept.map _
    · rw [List.map_append, List.map_singleton, hvalue]
    · omega
  · rw [truncateChars_of_le hfits]
    exact ⟨_, rfl, hinert, .inl (map_value_token _), fun _ => map_value_token _⟩

/-! ## Characters -/

/-- A character that ends a line. -/
def isLineBreak (c : Char) : Bool :=
  (0xa ≤ c.toNat && c.toNat ≤ 0xd) || c.toNat == 0x85 || c.toNat == 0x2028 || c.toNat == 0x2029

/-- The characters of a shown text are spaces and characters that can be seen. -/
theorem of_mem_shown {text : String} {c : Char} (h : c ∈ shown text) :
    c = ' ' ∨ isVisible c = true := by
  obtain ⟨hmem, hcontrol⟩ := List.mem_filter.mp h
  cases hspace : isWhitespace c with
  | true => exact .inl (eq_space_of_mem_flatten hmem hspace)
  | false => exact .inr (by simpa [isVisible, hspace] using hcontrol)

theorem isLineBreak_of_isVisible {c : Char} (h : isVisible c = true) : isLineBreak c = false := by
  simp only [isVisible, isWhitespace, isControl, isLineBreak, Bool.and_eq_true, Bool.not_eq_true',
    Bool.or_eq_false_iff, Bool.and_eq_false_iff, decide_eq_false_iff_not, beq_eq_false_iff_ne]
    at h ⊢
  omega

/-- Untrusted text between Markdown has no control character and stays on its line. -/
theorem of_mem_safe {text : String} {max : ℕ} {c : Char} (hmax : 0 < max)
    (h : c ∈ (safe text max).toList) : isControl c = false ∧ isLineBreak c = false := by
  obtain ⟨tokens, hprint, -, hvalue, -⟩ := exists_tokens_safe text hmax
  have hmem : c = '\\' ∨ c ∈ tokens.map Escaping.Token.value := by
    rw [hprint, Escaping.print, List.mem_flatMap] at h
    obtain ⟨written, hwritten, hc⟩ := h
    cases written with
    | plain d =>
        obtain rfl := List.mem_singleton.mp hc
        exact .inr (List.mem_map.mpr ⟨_, hwritten, rfl⟩)
    | escaped d =>
        rcases List.mem_cons.mp hc with hc | hc
        · exact .inl hc
        · obtain rfl := List.mem_singleton.mp hc
          exact .inr (List.mem_map.mpr ⟨_, hwritten, rfl⟩)
  have hshown : c = '\\' ∨ c = '…' ∨ c ∈ shown text := by
    rcases hmem with hc | hc
    · exact .inl hc
    · rcases hvalue with hvalue | ⟨kept, hkept, hvalue⟩
      · exact .inr (.inr (hvalue ▸ hc))
      · rw [hvalue] at hc
        rcases List.mem_append.mp hc with hc | hc
        · exact .inr (.inr (hkept.subset hc))
        · exact .inr (.inl (List.mem_singleton.mp hc))
  rcases hshown with rfl | rfl | hc
  · decide
  · decide
  · rcases of_mem_shown hc with rfl | hvisible
    · decide
    · exact ⟨by simpa [isVisible] using (Bool.and_eq_true_iff.mp hvisible).2,
        isLineBreak_of_isVisible hvisible⟩

/-! ## What is promised -/

/-- A text is cut into what is kept and the rest: as much is kept as leaves room for the
ellipsis, and no pair of surrogates is parted. -/
structure Cut (text : List Char) (max : ℕ) (kept rest : List Char) : Prop where
  whole : text = kept ++ rest
  room : utf16Count kept + 1 ≤ max
  longest : ∀ longer, longer <+: text → utf16Count longer + 1 ≤ max → longer <+: kept
  units : utf16 text = utf16 kept ++ utf16 rest
  paired_kept : Paired (utf16 kept)
  paired_rest : Paired (utf16 rest)

/-- A text that does not fit is cut before the ellipsis. -/
theorem exists_cut (hmax : 0 < max) (h : max < utf16Count text) :
    ∃ kept rest, Cut text max kept rest ∧ truncateChars text max = kept ++ ['…'] := by
  obtain ⟨rest, hrest⟩ : fitting max 0 text <+: text := fitting_isPrefix
  refine ⟨fitting max 0 text, rest, ⟨hrest.symm, ?_, ?_, ?_, paired_utf16 _, paired_utf16 _⟩,
    truncateChars_of_lt hmax h⟩
  · have hroom : 0 + utf16Count (fitting max 0 text) < max := fitting_lt hmax
    omega
  · intro longer hlonger hfits
    exact prefix_fitting hlonger (by omega)
  · conv_lhs => rw [← hrest]
    exact utf16_append

/-- Untrusted text fits, has no control character and no line break, and reads without a
character that Markdown acts on, also in front of other text; it shows the text, or a start
of it and the ellipsis, and the text if it fits when it is escaped. Cutting keeps a text that
fits, and else the longest start that leaves room for the ellipsis; cutting again changes
nothing. -/
theorem safe_truncate_spec (text : String) (max : ℕ) (hmax : 1 ≤ max) :
    (utf16Count (safe text max).toList ≤ max ∧
      (∀ c ∈ (safe text max).toList, isControl c = false ∧ isLineBreak c = false) ∧
      ∃ tokens, Escaping.read '\\' (safe text max).toList = some tokens ∧
        (∀ after, Escaping.read '\\' ((safe text max).toList ++ after) =
          (Escaping.read '\\' after).map (tokens ++ ·)) ∧
        (∀ c, Escaping.Token.plain c ∈ tokens → c ∉ markdown) ∧
        (tokens.map Escaping.Token.value = shown text ∨ ∃ kept, kept <+: shown text ∧
          tokens.map Escaping.Token.value = kept ++ ['…']) ∧
        (escapedCount (shown text) ≤ max → tokens.map Escaping.Token.value = shown text)) ∧
    (utf16Count text.toList ≤ max → truncate text max = text) ∧
    (max < utf16Count text.toList → ∃ kept rest, Cut text.toList max kept rest ∧
      (truncate text max).toList = kept ++ ['…']) ∧
    utf16Count (truncate text max).toList ≤ max ∧
    truncate (truncate text max) max = truncate text max := by
  refine ⟨⟨utf16Count_safe text max, fun c => of_mem_safe hmax, ?_⟩, ?_, ?_,
    utf16Count_truncate text max, ?_⟩
  · obtain ⟨tokens, hprint, hinert, hvalue, hwhole⟩ := exists_tokens_safe text hmax
    refine ⟨tokens, ?_, ?_, hinert, hvalue, hwhole⟩
    · rw [hprint, Escaping.read_print hinert.legible]
    · intro after
      rw [hprint, Escaping.read_print_append hinert.legible]
  · intro hfits
    rw [truncate, truncateChars_of_le hfits, String.ofList_toList]
  · intro hcut
    rw [truncate, String.toList_ofList]
    exact exists_cut hmax hcut
  · rw [truncate, truncateChars_of_le (utf16Count_truncate text max), String.ofList_toList]

/-- A cut between a backslash and the bracket that it escapes. -/
theorem safe_truncate_spec_cut : (safe "ab[c]" 4).toList = ['a', 'b', '\\', '…'] ∧
    ∃ tokens, Escaping.read '\\' (safe "ab[c]" 4).toList = some tokens ∧
      ∀ c, Escaping.Token.plain c ∈ tokens → c ∉ markdown := by
  refine ⟨by decide +kernel, ?_⟩
  obtain ⟨tokens, hread, -, hinert, -⟩ := (safe_truncate_spec "ab[c]" 4 (by decide)).1.2.2
  exact ⟨tokens, hread, hinert⟩

end Raydio.Views
