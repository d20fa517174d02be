/-
# What the helper leaves behind

A receiver without a record has its original buffer target, or a failed restoration of it
was counted, as long as every assignment that applies a target leaves the target asked
for, the value before, or the original one. An assignment that silently stores anything
else is taken for a later setting by somebody else, and is left in place uncounted.

The receivers are independent of each other: an operation on one of them keeps what is
known of the others. Records and listeners come and go together.
-/

import Raydio.Receiver.Buffer

namespace Raydio.Receiver

open Raydio.Foundation

universe u v

variable {Peer : Type u} {Receiver : Type v} {browser : Browser Receiver}

/-! ## What is known of a page -/

/-- An assignment that applies a target leaves the target asked for, the value before or
the original one, unless a failed restoration was counted before. -/
def Entry.Tame (browser : Browser Receiver) (earlier : List (Entry Receiver)) :
    Entry Receiver → Prop
  | .applied receiver before requested after =>
      after = requested ∨ after = before ∨ after = browser.initial receiver ∨
        .unrestored receiver ∈ earlier
  | .unrestored _ => True

instance [DecidableEq Receiver] (earlier : List (Entry Receiver)) (entry : Entry Receiver) :
    Decidable (entry.Tame browser earlier) :=
  match entry with
  | .applied receiver before requested after =>
      inferInstanceAs (Decidable (after = requested ∨ after = before ∨
        after = browser.initial receiver ∨ .unrestored receiver ∈ earlier))
  | .unrestored _ => isTrue trivial

/-- The entry tells of a failed restoration. -/
def Entry.isUnrestored : Entry Receiver → Bool
  | .unrestored _ => true
  | .applied _ _ _ _ => false

namespace Page

/-- The receiver has this original value, or a failed restoration of it was counted. -/
def Owed (browser : Browser Receiver) (page : Page Peer Receiver) (receiver : Receiver)
    (target : Target) : Prop :=
  target = browser.initial receiver ∨ .unrestored receiver ∈ page.log

/-- Every record has its listeners, and failed restorations are counted. -/
structure Tidy (page : Page Peer Receiver) : Prop where
  listeners : page.listeners.Perm (page.receivers.keys.map .ended ++
    page.peers.keys.flatMap fun peer => [.track peer, .state peer])
  counted : page.failedRestorations = page.log.countP Entry.isUnrestored

/-- Assignments that apply a target were tame. -/
def Tame (browser : Browser Receiver) (page : Page Peer Receiver) : Prop :=
  Trace.Always (Entry.Tame browser) page.log

variable {first second third page : Page Peer Receiver} {receiver other : Receiver}

instance [DecidableEq Receiver] (page : Page Peer Receiver) : Decidable (page.Tame browser) :=
  inferInstanceAs (Decidable (Trace.Always (Entry.Tame browser) page.log))

theorem tame_of_isPrefix (h : first.log <+: second.log) (htame : second.Tame browser) :
    first.Tame browser := by
  obtain ⟨more, hmore⟩ := h
  rw [Tame, ← hmore] at htame
  exact htame.of_append

/-- What is owed stays owed as the log grows. -/
theorem Owed.mono {target : Target} (h : first.Owed browser receiver target)
    (log : first.log <+: second.log) : second.Owed browser receiver target :=
  h.imp_right fun hmem => log.subset hmem

/-- Neither the listeners nor the records nor the counted failures changed. -/
theorem Tidy.of_eq (h : first.Tidy) (listeners : second.listeners = first.listeners)
    (receivers : second.receivers.keys = first.receivers.keys)
    (peers : second.peers.keys = first.peers.keys)
    (counted : second.failedRestorations = first.failedRestorations)
    (log : second.log.countP Entry.isUnrestored = first.log.countP Entry.isUnrestored) :
    second.Tidy where
  listeners := by
    rw [listeners, receivers, peers]
    exact h.listeners
  counted := by
    rw [counted, log]
    exact h.counted

/-- Two pages that differ in nothing that is known of them. -/
structure Same (first second : Page Peer Receiver) : Prop where
  value : second.value = first.value
  live : second.live = first.live
  receivers : second.receivers = first.receivers
  log : second.log = first.log
  listeners : second.listeners = first.listeners
  peers : second.peers.keys = first.peers.keys
  counted : second.failedRestorations = first.failedRestorations

theorem Same.tidy (h : Same first second) (hfirst : first.Tidy) : second.Tidy :=
  hfirst.of_eq h.listeners (by rw [h.receivers]) h.peers h.counted (by rw [h.log])

variable [DecidableEq Receiver]

/-- What is known of one receiver. -/
structure SoundAt (browser : Browser Receiver) (page : Page Peer Receiver)
    (receiver : Receiver) : Prop where
  held : ∀ record, page.receivers.get receiver = some record →
    page.value receiver = some record.applied ∧ page.Owed browser receiver record.original
  free : page.live receiver = true → page.receivers.get receiver = none →
    page.Owed browser receiver (page.value receiver)

/-- What is known of all receivers. -/
def Sound (browser : Browser Receiver) (page : Page Peer Receiver) : Prop :=
  ∀ receiver, page.SoundAt browser receiver

/-- An operation that leaves a receiver alone keeps what is known of it. -/
theorem SoundAt.frame (h : first.SoundAt browser receiver)
    (value : second.value receiver = first.value receiver)
    (get : second.receivers.get receiver = first.receivers.get receiver)
    (live : second.live receiver = true → first.live receiver = true)
    (log : first.log <+: second.log) : second.SoundAt browser receiver where
  held := by
    intro record hget
    obtain ⟨hvalue, howed⟩ := h.held record (get ▸ hget)
    exact ⟨value.trans hvalue, howed.mono log⟩
  free := by
    intro hlive hnone
    rw [value]
    exact (h.free (live hlive) (get ▸ hnone)).mono log

/-! ## What an operation keeps -/

/-- What an operation keeps. -/
structure Keeps (browser : Browser Receiver) (before after : Page Peer Receiver) : Prop where
  log : before.log <+: after.log
  tidy : before.Tidy → after.Tidy
  sound : after.Tame browser → before.Sound browser → after.Sound browser

theorem Keeps.refl (page : Page Peer Receiver) : page.Keeps browser page :=
  ⟨List.prefix_rfl, fun h => h, fun _ h => h⟩

theorem Keeps.trans (h : first.Keeps browser second) (h' : second.Keeps browser third) :
    first.Keeps browser third where
  log := h.log.trans h'.log
  tidy hfirst := h'.tidy (h.tidy hfirst)
  sound htame hfirst := h'.sound htame (h.sound (tame_of_isPrefix h'.log htame) hfirst)

/-- What every operation of a loop keeps, the loop keeps. -/
theorem keeps_foldl {α : Type*} {operation : Page Peer Receiver → α → Page Peer Receiver}
    (h : ∀ (page : Page Peer Receiver) (a : α), page.Keeps browser (operation page a))
    (list : List α) (page : Page Peer Receiver) :
    page.Keeps browser (list.foldl operation page) := by
  induction list generalizing page with
  | nil => exact .refl page
  | cons a list ih => exact (h page a).trans (ih _)

/-- An operation on one receiver leaves the others alone. -/
structure Touches (receiver : Receiver) (before after : Page Peer Receiver) : Prop where
  value : ∀ other, other ≠ receiver → after.value other = before.value other
  get : ∀ other, other ≠ receiver → after.receivers.get other = before.receivers.get other
  live : ∀ other, other ≠ receiver → after.live other = before.live other
  log : before.log <+: after.log
  tidy : before.Tidy → after.Tidy

theorem Touches.refl (page : Page Peer Receiver) : Touches receiver page page :=
  ⟨fun _ _ => rfl, fun _ _ => rfl, fun _ _ => rfl, List.prefix_rfl, fun h => h⟩

theorem Touches.trans (h : Touches receiver first second) (h' : Touches receiver second third) :
    Touches receiver first third where
  value other hother := (h'.value other hother).trans (h.value other hother)
  get other hother := (h'.get other hother).trans (h.get other hother)
  live other hother := (h'.live other hother).trans (h.live other hother)
  log := h.log.trans h'.log
  tidy hfirst := h'.tidy (h.tidy hfirst)

/-- What is left to say of an operation on one receiver. -/
theorem Touches.keeps (h : Touches receiver first second)
    (hat : second.Tame browser → first.SoundAt browser receiver →
      second.SoundAt browser receiver) : first.Keeps browser second where
  log := h.log
  tidy := h.tidy
  sound := by
    intro htame hfirst other
    by_cases hother : other = receiver
    · subst hother
      exact hat htame (hfirst other)
    · exact (hfirst other).frame (h.value other hother) (h.get other hother)
        (fun hlive => h.live other hother ▸ hlive) h.log

/-- An operation changed nothing of the receivers and the records. -/
theorem Keeps.of_eq (value : second.value = first.value)
    (receivers : second.receivers = first.receivers) (live : second.live = first.live)
    (log : second.log = first.log) (tidy : first.Tidy → second.Tidy) :
    first.Keeps browser second where
  log := log ▸ List.prefix_rfl
  tidy := tidy
  sound _ hfirst other :=
    (hfirst other).frame (congrFun value other) (receivers ▸ rfl) (fun hlive => live ▸ hlive)
      (log ▸ List.prefix_rfl)

/-! ## One receiver -/

theorem Same.touches (h : Same first second) : Touches receiver first second where
  value other _ := congrFun h.value other
  get _ _ := by rw [h.receivers]
  live other _ := congrFun h.live other
  log := h.log ▸ List.prefix_rfl
  tidy := h.tidy

theorem Same.keeps (h : Same first second) : first.Keeps browser second :=
  .of_eq h.value h.receivers h.live h.log h.tidy

/-- An assignment changes the value of its receiver at most. One that throws leaves it. -/
theorem assign_spec (browser : Browser Receiver) (page : Page Peer Receiver)
    (receiver : Receiver) (target : Target) :
    Touches receiver page (page.assign browser receiver target).2 ∧
      (page.assign browser receiver target).2.receivers = page.receivers ∧
      (page.assign browser receiver target).2.peers = page.peers ∧
      (page.assign browser receiver target).2.targetMs = page.targetMs ∧
      ((page.assign browser receiver target).1 = false →
        (page.assign browser receiver target).2.value receiver = page.value receiver) := by
  rw [assign]
  split
  · refine ⟨⟨?_, fun _ _ => rfl, fun _ _ => rfl, List.prefix_rfl, fun h => ?_⟩, rfl, rfl, rfl, ?_⟩
    · intro other hother
      exact Function.update_of_ne hother _ _
    · exact h.of_eq rfl rfl rfl rfl rfl
    · intro habsurd
      cases habsurd
  · exact ⟨Same.touches ⟨rfl, rfl, rfl, rfl, rfl, rfl, rfl⟩, rfl, rfl, rfl, fun _ => rfl⟩

/-- An assignment notes nothing down. -/
theorem log_assign (browser : Browser Receiver) (page : Page Peer Receiver)
    (receiver : Receiver) (target : Target) :
    (page.assign browser receiver target).2.log = page.log := by
  rw [assign]
  split <;> rfl

/-- A tame assignment that the helper takes for refused leaves the value before, or one
that the receiver may keep. -/
theorem kept_of_refused (browser : Browser Receiver) (page : Page Peer Receiver)
    (receiver : Receiver) (target : Target) (earlier : List (Entry Receiver))
    (hrefused : ¬ ((page.assign browser receiver target).1 &&
      (page.assign browser receiver target).2.value receiver == target))
    (h : Entry.Tame browser earlier (.applied receiver (page.value receiver) target
      ((page.assign browser receiver target).2.value receiver))) :
    (page.assign browser receiver target).2.value receiver = page.value receiver ∨
      (page.assign browser receiver target).2.value receiver = browser.initial receiver ∨
      .unrestored receiver ∈ earlier := by
  obtain ⟨-, -, -, -, hthrown⟩ := assign_spec browser page receiver target
  cases hreturned : (page.assign browser receiver target).1 with
  | false => exact .inl (hthrown hreturned)
  | true =>
      have hnot : (page.assign browser receiver target).2.value receiver ≠ target := by
        simpa [hreturned] using hrefused
      rcases h with hasked | hkept
      · exact absurd hasked hnot
      · exact hkept

/-- A failed restoration is noted down and counted. -/
theorem touches_failRestoration (page : Page Peer Receiver) (receiver : Receiver) :
    Touches receiver page (page.failRestoration receiver) where
  value _ _ := rfl
  get _ _ := rfl
  live _ _ := rfl
  log := List.prefix_append _ _
  tidy h := by
    refine ⟨h.listeners, ?_⟩
    show page.failedRestorations + 1 = (page.log ++ [Entry.unrestored receiver]).countP _
    rw [List.countP_append, h.counted]
    rfl

/-- The entry for an application counts nothing. -/
theorem touches_record (page : Page Peer Receiver) (before requested after : Target) :
    Touches receiver page (page.record (.applied receiver before requested after)) where
  value _ _ := rfl
  get _ _ := rfl
  live _ _ := rfl
  log := List.prefix_append _ _
  tidy h := by
    refine h.of_eq rfl rfl rfl rfl ?_
    show (page.log ++ [Entry.applied receiver before requested after]).countP _ = _
    rw [List.countP_append]
    rfl

/-- A receiver whose record has the original target, and which has the value of the record
or one that it may keep. -/
structure Restorable (browser : Browser Receiver) (page : Page Peer Receiver)
    (receiver : Receiver) (record : Record) : Prop where
  get : page.receivers.get receiver = some record
  original : page.Owed browser receiver record.original
  value : page.value receiver = some record.applied ∨
    page.Owed browser receiver (page.value receiver)

/-- A record that is sound can be restored. -/
theorem SoundAt.restorable {record : Record} (h : page.SoundAt browser receiver)
    (hget : page.receivers.get receiver = some record) :
    page.Restorable browser receiver record :=
  ⟨hget, (h.held record hget).2, .inl (h.held record hget).1⟩

theorem touches_remember (page : Page Peer Receiver) (receiver : Receiver) :
    Touches receiver page (page.remember receiver) := by
  rw [remember]
  split
  · exact .refl page
  · rename_i hnone
    refine ⟨fun _ _ => rfl, ?_, fun _ _ => rfl, List.prefix_rfl, ?_⟩
    · intro other hother
      exact OrderedMap.get_set.trans (if_neg hother)
    · intro h
      refine ⟨?_, h.counted⟩
      have hkeys := OrderedMap.keys_set_of_notMem (b := ⟨page.value receiver, page.targetMs⟩)
        (OrderedMap.get_eq_none_iff.mp hnone)
      show List.Perm (page.listeners ++ [.ended receiver]) _
      rw [hkeys, List.map_append, List.append_assoc]
      refine (h.listeners.append_right _).trans ?_
      rw [List.append_assoc]
      exact List.perm_append_comm.append_left _

/-- A live receiver of a sound page has a record that can be restored, once it has one. -/
theorem restorable_remember (h : page.SoundAt browser receiver)
    (hlive : page.live receiver = true) :
    ∃ record, (page.remember receiver).Restorable browser receiver record := by
  cases hget : page.receivers.get receiver with
  | none =>
      refine ⟨⟨page.value receiver, page.targetMs⟩, ?_⟩
      have howed := h.free hlive hget
      simp only [remember, hget]
      exact ⟨OrderedMap.get_set.trans (if_pos rfl), howed, .inr howed⟩
  | some record =>
      refine ⟨record, ?_⟩
      simp only [remember, hget]
      exact h.restorable hget

theorem touches_setApplied (page : Page Peer Receiver) (receiver : Receiver) :
    Touches receiver page (page.setApplied receiver) := by
  rw [setApplied]
  split
  · exact .refl page
  · rename_i record hget
    refine ⟨fun _ _ => rfl, ?_, fun _ _ => rfl, List.prefix_rfl, ?_⟩
    · intro other hother
      exact OrderedMap.get_set.trans (if_neg hother)
    · intro h
      refine h.of_eq rfl ?_ rfl rfl rfl
      exact OrderedMap.keys_set_of_mem (OrderedMap.mem_keys_of_get hget)

/-- A receiver that has the target is sound once its record says so. -/
theorem soundAt_setApplied {record : Record} (hget : page.receivers.get receiver = some record)
    (howed : page.Owed browser receiver record.original)
    (hvalue : page.value receiver = some page.targetMs) :
    (page.setApplied receiver).SoundAt browser receiver := by
  have hset : (page.setApplied receiver).receivers.get receiver =
      some { record with applied := page.targetMs } := by
    simp only [setApplied, hget]
    exact OrderedMap.get_set.trans (if_pos rfl)
  have hsame : (page.setApplied receiver).value = page.value ∧
      (page.setApplied receiver).log = page.log := by
    simp only [setApplied, hget, and_self]
  refine ⟨?_, ?_⟩
  · intro other hother
    rw [hset] at hother
    cases hother
    exact ⟨(congrFun hsame.1 receiver).trans hvalue, howed.mono (hsame.2 ▸ List.prefix_rfl)⟩
  · intro _ hnone
    rw [hset] at hnone
    cases hnone

/-! ## Restoring a receiver -/

variable [DecidableEq Peer]

/-- The record of a receiver and its listener go together. -/
theorem touches_forgetReceiver (page : Page Peer Receiver)
    (receiver : Receiver) : Touches receiver page (page.forgetReceiver receiver) := by
  rw [forgetReceiver]
  cases hget : page.receivers.get receiver with
  | none => exact .refl page
  | some record =>
      refine ⟨fun _ _ => rfl, ?_, fun _ _ => rfl, List.prefix_rfl, ?_⟩
      · intro other hother
        exact OrderedMap.get_delete.trans (if_neg hother)
      · intro h
        refine ⟨?_, h.counted⟩
        have hkeys := OrderedMap.keys_perm_delete (OrderedMap.mem_keys_of_get hget)
        have hlisteners := (h.listeners.trans ((hkeys.map Listener.ended).append_right _)).erase
          (Listener.ended receiver)
        simpa using hlisteners

@[simp]
theorem get_forgetReceiver (page : Page Peer Receiver) (receiver : Receiver) :
    (page.forgetReceiver receiver).receivers.get receiver = none := by
  rw [forgetReceiver]
  split
  · assumption
  · exact OrderedMap.get_delete.trans (if_pos rfl)

@[simp]
theorem live_forgetReceiver (page : Page Peer Receiver) (receiver : Receiver) :
    (page.forgetReceiver receiver).live = page.live := by
  rw [forgetReceiver]
  split <;> rfl

@[simp]
theorem value_forgetReceiver (page : Page Peer Receiver) (receiver : Receiver) :
    (page.forgetReceiver receiver).value = page.value := by
  rw [forgetReceiver]
  split <;> rfl

@[simp]
theorem log_forgetReceiver (page : Page Peer Receiver) (receiver : Receiver) :
    (page.forgetReceiver receiver).log = page.log := by
  rw [forgetReceiver]
  split <;> rfl

/-- The helper restores a receiver or counts a failure, and then forgets its record. -/
theorem restoreReceiver_eq (browser : Browser Receiver) {record : Record}
    (hget : page.receivers.get receiver = some record) :
    ∃ settled : Page Peer Receiver, Touches receiver page settled ∧
      (settled.receivers = page.receivers ∧ settled.peers = page.peers) ∧
      page.restoreReceiver browser receiver = settled.forgetReceiver receiver ∧
      (page.Restorable browser receiver record →
        settled.Owed browser receiver (settled.value receiver)) := by
  simp only [restoreReceiver, hget]
  obtain ⟨htouches, hreceivers, hpeers, -, -⟩ :=
    assign_spec browser page receiver record.original
  refine ⟨_, ?_, ?_, rfl, ?_⟩
  · split
    · split
      · exact htouches
      · exact htouches.trans (touches_failRestoration _ _)
    · exact .refl page
  · split
    · split
      · exact ⟨hreceivers, hpeers⟩
      · exact ⟨hreceivers, hpeers⟩
    · exact ⟨rfl, rfl⟩
  · intro h
    split
    · split
      · rename_i hback
        have hvalue : (page.assign browser receiver record.original).2.value receiver =
            record.original := by
          simpa using (Bool.and_eq_true_iff.mp hback).2
        rw [hvalue]
        exact h.original.mono htouches.log
      · exact Or.inr (List.mem_append_right _ (List.mem_singleton.mpr rfl))
    · rename_i hnot
      exact h.value.resolve_left hnot

theorem touches_restoreReceiver (page : Page Peer Receiver) (receiver : Receiver) :
    Touches receiver page (page.restoreReceiver browser receiver) := by
  cases hget : page.receivers.get receiver with
  | none =>
      simp only [restoreReceiver, hget]
      exact .refl page
  | some record =>
      obtain ⟨settled, htouches, -, heq, -⟩ := restoreReceiver_eq browser hget
      rw [heq]
      exact htouches.trans (touches_forgetReceiver settled receiver)

@[simp]
theorem get_restoreReceiver (page : Page Peer Receiver) (receiver : Receiver) :
    (page.restoreReceiver browser receiver).receivers.get receiver = none := by
  cases hget : page.receivers.get receiver with
  | none => simp only [restoreReceiver, hget]
  | some record =>
      obtain ⟨settled, -, -, heq, -⟩ := restoreReceiver_eq browser hget
      rw [heq, get_forgetReceiver]

/-- After a restoration the receiver has its original value, or a failure was counted. -/
theorem Restorable.soundAt {record : Record} (h : page.Restorable browser receiver record) :
    (page.restoreReceiver browser receiver).SoundAt browser receiver := by
  obtain ⟨settled, -, -, heq, howed⟩ := restoreReceiver_eq browser h.get
  refine ⟨?_, ?_⟩
  · intro other hother
    rw [get_restoreReceiver] at hother
    cases hother
  · intro _ _
    rw [heq, value_forgetReceiver]
    exact (howed h).mono (touches_forgetReceiver settled receiver).log

theorem keeps_restoreReceiver (page : Page Peer Receiver) (receiver : Receiver) :
    page.Keeps browser (page.restoreReceiver browser receiver) := by
  refine (touches_restoreReceiver page receiver).keeps ?_
  intro _ h
  cases hget : page.receivers.get receiver with
  | none => simpa only [restoreReceiver, hget] using h
  | some record => exact (h.restorable hget).soundAt

/-! ## Setting a receiver -/

/-- The helper sets a receiver with a record: if the assignment was tame, the receiver has
the target and its record says so, or the receiver is restored. -/
theorem setTarget_spec (browser : Browser Receiver) (page : Page Peer Receiver)
    (receiver : Receiver) :
    Touches receiver page (page.setTarget browser receiver) ∧
      ∀ record, page.Restorable browser receiver record →
        (page.setTarget browser receiver).Tame browser →
        (page.setTarget browser receiver).SoundAt browser receiver := by
  obtain ⟨htouches, hreceivers, -, htarget, -⟩ :=
    assign_spec browser page receiver (some page.targetMs)
  have hkept := kept_of_refused browser page receiver (some page.targetMs)
  simp only [setTarget]
  split
  · rename_i hsame
    exact ⟨touches_setApplied page receiver, fun record h _ =>
      soundAt_setApplied h.get h.original hsame⟩
  generalize page.assign browser receiver (some page.targetMs) = assigned
    at htouches hreceivers htarget hkept
  have hrecord := htouches.trans (touches_record assigned.2 (page.value receiver)
    (some page.targetMs) (assigned.2.value receiver))
  generalize hlogged : assigned.2.record (.applied receiver (page.value receiver)
    (some page.targetMs) (assigned.2.value receiver)) = logged at hrecord
  have hvalue : logged.value = assigned.2.value := by rw [← hlogged]; rfl
  have hget : logged.receivers = page.receivers := by rw [← hreceivers, ← hlogged]; rfl
  have hms : logged.targetMs = page.targetMs := by rw [← htarget, ← hlogged]; rfl
  split
  · rename_i haccepted
    have hafter : assigned.2.value receiver = some page.targetMs := by
      simpa using (Bool.and_eq_true_iff.mp haccepted).2
    have hcounted : Touches receiver logged
        { logged with changedReceivers := logged.changedReceivers + 1 } :=
      Same.touches ⟨rfl, rfl, rfl, rfl, rfl, rfl, rfl⟩
    refine ⟨(hrecord.trans hcounted).trans (touches_setApplied _ receiver), ?_⟩
    intro record h _
    refine soundAt_setApplied ?_ (h.original.mono hrecord.log) ?_
    · exact (congrArg (fun receivers => receivers.get receiver) hget).trans h.get
    · show logged.value receiver = some logged.targetMs
      rw [hvalue, hms, hafter]
  · rename_i hrefused
    have hfailed : Touches receiver logged
        ({ logged with failedApplications := logged.failedApplications + 1 }.note "apply") :=
      Same.touches ⟨rfl, rfl, rfl, rfl, rfl, rfl, rfl⟩
    refine ⟨(hrecord.trans hfailed).trans (touches_restoreReceiver _ receiver), ?_⟩
    intro record h htame
    have hlog := (hrecord.trans hfailed).log
    have hentry := tame_of_isPrefix (touches_restoreReceiver _ receiver).log htame
      assigned.2.log _ [] (by rw [← hlogged]; rfl)
    refine Restorable.soundAt (?_ : Restorable browser _ receiver record)
    refine ⟨?_, h.original.mono hlog, ?_⟩
    · exact (congrArg (fun receivers => receivers.get receiver) hget).trans h.get
    · show logged.value receiver = _ ∨ logged.Owed browser receiver (logged.value receiver)
      rw [hvalue]
      rcases hkept assigned.2.log hrefused hentry with hbefore | hinitial | hfailure
      · rw [hbefore]
        exact h.value.imp_right fun howed => howed.mono hrecord.log
      · exact .inr (.inl hinitial)
      · exact .inr (.inr (by rw [← hlogged]; exact List.mem_append_left _ hfailure))

/-- An application that is not tame leaves the receiver with what was stored: its record is
gone, it does not have its original value, and nothing was counted. -/
theorem setTarget_untame {record : Record} (hget : page.receivers.get receiver = some record)
    (happlied : page.value receiver = some record.applied ∨ record.applied = page.targetMs)
    (hdiffers : page.value receiver ≠ some page.targetMs)
    (huntame : ¬ Entry.Tame browser page.log (.applied receiver (page.value receiver)
      (some page.targetMs)
      ((page.assign browser receiver (some page.targetMs)).2.value receiver))) :
    (page.setTarget browser receiver).receivers.get receiver = none ∧
      ¬ (page.setTarget browser receiver).Owed browser receiver
        ((page.setTarget browser receiver).value receiver) := by
  obtain ⟨-, hreceivers, -, -, -⟩ := assign_spec browser page receiver (some page.targetMs)
  have hlog := log_assign browser page receiver (some page.targetMs)
  simp only [setTarget, if_neg hdiffers]
  generalize page.assign browser receiver (some page.targetMs) = assigned
    at hreceivers hlog huntame
  simp only [Entry.Tame, not_or] at huntame
  obtain ⟨hasked, hbefore, hinitial, hcounted⟩ := huntame
  rw [if_neg (by simp [hasked])]
  -- The value is not the one that the record has, so it is left in place.
  have hother : assigned.2.value receiver ≠ some record.applied := by
    rcases happlied with hheld | hfresh
    · rw [← hheld]
      exact hbefore
    · rw [hfresh]
      exact hasked
  have hkept : ∀ refused : Page Peer Receiver, refused.receivers = page.receivers →
      refused.value = assigned.2.value →
      refused.log = page.log ++ [.applied receiver (page.value receiver) (some page.targetMs)
        (assigned.2.value receiver)] →
      (refused.restoreReceiver browser receiver).receivers.get receiver = none ∧
        ¬ (refused.restoreReceiver browser receiver).Owed browser receiver
          ((refused.restoreReceiver browser receiver).value receiver) := by
    intro refused hsame hvalue hentries
    refine ⟨get_restoreReceiver _ _, ?_⟩
    rw [← hvalue] at hother
    simp only [restoreReceiver, hsame, hget, if_neg hother]
    rw [Owed, value_forgetReceiver, log_forgetReceiver, hvalue, hentries]
    simp [hinitial, hcounted]
  exact hkept _ hreceivers rfl (congrArg (· ++ _) hlog)

/-- The receivers that cannot be set are only counted. -/
theorem keeps_applyReceiver (page : Page Peer Receiver) (receiver : Receiver) :
    page.Keeps browser (page.applyReceiver browser receiver) := by
  rw [applyReceiver]
  split
  · exact .refl page
  split
  · split
    · exact .refl page
    · exact Same.keeps ⟨rfl, rfl, rfl, rfl, rfl, rfl, rfl⟩
  · rename_i hskipped _
    have hlive : page.live receiver = true := by
      by_contra hdead
      exact hskipped (by simp [hdead])
    obtain ⟨htouches, hset⟩ := setTarget_spec browser (page.remember receiver) receiver
    refine ((touches_remember page receiver).trans htouches).keeps ?_
    intro htame h
    obtain ⟨record, hrecord⟩ := restorable_remember h hlive
    exact hset record hrecord htame

end Page

end Raydio.Receiver
