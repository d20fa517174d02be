/-
# Activating a release

The script makes `current.next` and moves it over `current`. A `current.next` that was
left behind by a command killed between the two is followed by the next `ln`: the new
link ends up in the directory that it points to, and the move installs the old one. So
`activate` switches to whatever `current.next` pointed to when it began, and to its own
release if there was none.

Going back to the release before is not affected by what was left over, which the first
switch of the command has used up. But it is announced before it is done: a command that is
killed on its way back has said that it restores the release before and has not.
-/

import Raydio.Deploy.Switch

namespace Raydio.Deploy

open Raydio.Foundation

variable {setting : Setting Operation} {desk : Desk Root Report} {revision next : String}
  {old : Option String}

/-! ## The switch -/

/-- The script is never killed when it is about to move the link. -/
def Spares (setting : Setting Operation) : Prop := ∀ n, setting.killed n .move = false

/-- What `link_current` does. -/
structure Switched (setting : Setting Operation) (revision : String) (before : Desk Root Report)
    (ending : Ending Unit) (after : Desk Root Report) : Prop where
  reports : after.reports = before.reports
  previous : after.files.previous = before.files.previous
  done : ending = .done () →
    after.files.current = some (before.files.next.getD revision) ∧ after.files.next = none
  failed : before.files.next = none → ending ≠ .failed
  spared : before.files.next = none → Spares setting → after.files.next = none

/-- `ln` leaves the other links alone. Where `current.next` was left behind, it stays as
it was. -/
theorem effect_link {root linked : Root}
    (h : (Operation.link revision).effect root = some linked) :
    linked.previous = root.previous ∧ linked.next = some (root.next.getD revision) := by
  simp only [Operation.effect] at h
  split at h
  · rename_i hnone
    cases h
    exact ⟨rfl, by simp [hnone]⟩
  · rename_i other hother
    split at h
    · cases h
    · split at h
      · cases h
      · cases h
        exact ⟨rfl, by simp [hother]⟩

/-- Without a link left behind, `ln` does not fail. -/
theorem effect_link_of_none {root : Root} (h : root.next = none) :
    (Operation.link revision).effect root = some { root with next := some revision } := by
  simp only [Operation.effect, h]

/-- `mv` moves the link that is there. -/
theorem effect_move {root : Root} {target : String} (h : root.next = some target) :
    Operation.move.effect root = some { root with current := some target, next := none } := by
  simp only [Operation.effect, h]

theorem ends_operate (operation : Operation) :
    (operate operation).Ends setting desk fun ending after =>
      after.reports = desk.reports ∧
        match ending with
        | .done _ => operation.effect desk.files = some after.files
        | .failed => operation.effect desk.files = none ∧ after.files = desk.files
        | .killed =>
            setting.killed desk.operations operation = true ∧ after.files = desk.files :=
  Script.ends_perform _ _

theorem performs_operate (operation : Operation) : (operate operation).Performs 1 :=
  Script.performs_perform _ _

theorem ends_linkCurrent (revision : String) :
    (linkCurrent revision).Ends setting desk (Switched setting revision desk) := by
  refine (ends_operate _).bind ?_ ?_ ?_
  · rintro ⟨⟩ linked ⟨hreports, hlinked⟩
    obtain ⟨hprevious, hnext⟩ := effect_link hlinked
    have hmoved := effect_move hnext
    refine (ends_operate _).mono ?_
    rintro ending after ⟨hreports', hending⟩
    cases ending with
    | done _ =>
        have hafter : after.files = { linked.files with
            current := some (desk.files.next.getD revision), next := none } :=
          Option.some.inj (hending.symm.trans hmoved)
        refine ⟨hreports'.trans hreports, ?_, ?_, fun _ => nofun, fun _ _ => ?_⟩
        · rw [hafter]
          exact hprevious
        · intro _
          rw [hafter]
          exact ⟨rfl, rfl⟩
        · rw [hafter]
    | failed =>
        have habsurd := hending.1.symm.trans hmoved
        cases habsurd
    | killed =>
        obtain ⟨hkilled, hfiles⟩ := hending
        refine ⟨hreports'.trans hreports, ?_, nofun, fun _ => nofun, ?_⟩
        · rw [hfiles]
          exact hprevious
        · intro _ hspared
          rw [hspared] at hkilled
          cases hkilled
  · rintro after ⟨hreports, hfailed, hfiles⟩
    refine ⟨hreports, by rw [hfiles], nofun, ?_, ?_⟩
    · intro hnone
      rw [effect_link_of_none hnone] at hfailed
      cases hfailed
    · intro hnone _
      rw [hfiles, hnone]
  · rintro after ⟨hreports, -, hfiles⟩
    refine ⟨hreports, by rw [hfiles], nofun, fun _ => nofun, ?_⟩
    intro hnone _
    rw [hfiles, hnone]

theorem performs_linkCurrent (revision : String) : (linkCurrent revision).Performs 2 :=
  Script.Performs.bind (performs_operate _) fun _ => performs_operate _

/-- A script that has performed so many operations is killed when it is about to make the
link to the release, or to move it. -/
def Cut (setting : Setting Operation) (count : ℕ) (revision : String) : Bool :=
  setting.killed count (.link revision) || setting.killed (count + 1) .move

/-- Without a link left behind, the switch is made unless the script is killed in it. -/
theorem current_linkCurrent (revision : String) (hnone : desk.files.next = none) :
    (linkCurrent revision).Ends setting desk fun _ after =>
      after.files.current = if Cut setting desk.operations revision then desk.files.current
        else some revision := by
  have hlinked : (Operation.link revision).effect desk.files =
      some { desk.files with next := some revision } := effect_link_of_none hnone
  have hmoved : Operation.move.effect { desk.files with next := some revision } =
      some { desk.files with current := some revision, next := none } := effect_move rfl
  cases hlink : setting.killed desk.operations (.link revision) with
  | true => simp [Script.Ends, linkCurrent, operate, Bind.bind, Script.perform, Cut, hlink]
  | false =>
      cases hmove : setting.killed (desk.operations + 1) .move with
      | true =>
          simp [Script.Ends, linkCurrent, operate, Bind.bind, Script.perform, Cut, hlink, hmove,
            hlinked]
      | false =>
          simp [Script.Ends, linkCurrent, operate, Bind.bind, Script.perform, Cut, hlink, hmove,
            hlinked, hmoved]

/-- Loading the service changes neither the files nor the reports. -/
theorem ends_loadService (revision : String) :
    (loadService revision).Ends setting desk fun _ after =>
      after.files = desk.files ∧ after.reports = desk.reports := by
  refine Script.Ends.seq ?_ ?_
  · refine (ends_operate _).mono ?_
    rintro ending loaded ⟨hreports, hending⟩
    cases ending with
    | done _ => exact ⟨(Option.some.inj hending).symm, hreports⟩
    | failed => exact ⟨hending.2, hreports⟩
    | killed => exact ⟨hending.2, hreports⟩
  · rintro ⟨⟩ loaded ⟨hfiles, hreports⟩
    refine Script.Ends.seq (Script.ends_ask.mono ?_) ?_
    · rintro ending asked ⟨hasked, hreports', -⟩
      exact ⟨hasked.trans hfiles, hreports'.trans hreports⟩
    · intro yes asked hasked
      cases yes
      · exact hasked
      · exact hasked

theorem performs_loadService (revision : String) : (loadService revision).Performs 1 := by
  have hanswered (yes : Bool) : (if yes then pure () else Script.fail : Step Unit).Performs 0 := by
    cases yes
    · exact Script.performs_fail 0
    · exact Script.performs_pure ()
  have hasked := Script.Performs.bind Script.performs_ask hanswered
  exact Script.Performs.bind (performs_operate (.unit revision)) fun _ => hasked

/-! ## Activating a release -/

/-- What `activate` does after the service has come up. -/
theorem ends_keepPrevious (next : String) (old : Option String) :
    (keepPrevious next old).Ends setting desk fun ending after =>
      after.reports = desk.reports ∧ after.files.current = desk.files.current ∧
        after.files.next = desk.files.next ∧
        ((∀ a, ending ≠ .done a) → after.files.previous = desk.files.previous) := by
  cases old with
  | none => exact ⟨rfl, rfl, rfl, fun _ => rfl⟩
  | some old =>
      rw [keepPrevious]
      split
      · exact ⟨rfl, rfl, rfl, fun _ => rfl⟩
      · refine (ends_operate _).mono ?_
        rintro ending after ⟨hreports, hending⟩
        cases ending with
        | done a =>
            have hafter := Option.some.inj hending
            refine ⟨hreports, by rw [← hafter], by rw [← hafter], ?_⟩
            intro habsurd
            exact absurd rfl (habsurd a)
        | failed =>
            rw [hending.2]
            exact ⟨hreports, rfl, rfl, fun _ => rfl⟩
        | killed =>
            rw [hending.2]
            exact ⟨hreports, rfl, rfl, fun _ => rfl⟩

/-- What `activate` does after the service has not come up: it goes back, unless it is
killed on the way. -/
structure Restored (setting : Setting Operation) (old : Option String)
    (before after : Desk Root Report) : Prop where
  previous : after.files.previous = before.files.previous
  quiet : ∀ revision, .ready revision ∉ after.reports
  restoring : .restoring ∈ after.reports → ∃ revision, old = some revision ∧
    after.files.current =
      if Cut setting before.operations revision then before.files.current else some revision
  spared : Spares setting → after.files.next = none

/-- The files are as they were, and at most this line was reported. -/
structure Reported (line : Report) (before after : Desk Root Report) : Prop where
  files : after.files = before.files
  lines : ∀ other ∈ after.reports, other ∈ before.reports ∨ other = line

theorem Reported.of_eq {line : Report} {before after : Desk Root Report}
    (files : after.files = before.files) (reports : after.reports = before.reports) :
    Reported line before after :=
  ⟨files, fun _ hother => .inl (reports ▸ hother)⟩

/-- The line is reported. -/
theorem Reported.report {line : Report} {before after : Desk Root Report}
    (h : Reported line before after) :
    Reported line before { after with reports := after.reports ++ [line] } := by
  refine ⟨h.files, ?_⟩
  intro other hother
  rcases List.mem_append.mp hother with hother | hother
  · exact h.lines other hother
  · exact .inr (List.mem_singleton.mp hother)

/-- The end of the way back: only the answers differ, and a last report. -/
theorem ends_restarted (old : String) :
    (loadService old >>= fun _ => Script.ask >>= fun yes =>
      if yes then pure () else Script.report .previousFailed : Step Unit).Ends setting desk
      fun _ after => Reported .previousFailed desk after := by
  refine Script.Ends.seq ((ends_loadService old).mono ?_) ?_
  · rintro _ loaded ⟨hfiles, hreports⟩
    exact .of_eq hfiles hreports
  · rintro ⟨⟩ loaded hloaded
    refine Script.Ends.seq (Script.ends_ask.mono ?_) ?_
    · rintro _ asked ⟨hasked, hreports, -⟩
      exact ⟨hasked.trans hloaded.files, hreports ▸ hloaded.lines⟩
    · rintro yes asked hasked
      cases yes
      · exact hasked.report
      · exact hasked

/-- With nothing left over, the switch back does not fail. -/
theorem ends_restore (old : Option String) (hreports : desk.reports = [])
    (hnext : desk.files.next = none) :
    (restore old).Ends setting desk fun _ after => Restored setting old desk after := by
  cases old with
  | none =>
      rw [restore, Script.ends_pure]
      exact ⟨rfl, by simp [hreports], by simp [hreports], fun _ => hnext⟩
  | some old =>
      rw [restore, Script.ends_report_bind]
      refine ((ends_linkCurrent old).and (current_linkCurrent old (by exact hnext))).bind ?_ ?_ ?_
      · rintro ⟨⟩ linked ⟨hlinked, hcurrent⟩
        refine (ends_restarted old).mono ?_
        rintro ending after ⟨hfiles, hlines⟩
        refine ⟨by rw [hfiles, hlinked.previous], ?_, ?_, ?_⟩
        · intro revision hready
          rcases hlines _ hready with hready | habsurd
          · rw [hlinked.reports, hreports] at hready
            simp at hready
          · cases habsurd
        · intro _
          rw [hfiles]
          exact ⟨old, rfl, hcurrent⟩
        · intro _
          rw [hfiles, (hlinked.done rfl).2]
      · rintro after ⟨hlinked, -⟩
        exact absurd rfl (hlinked.failed hnext)
      · rintro after ⟨hlinked, hcurrent⟩
        refine ⟨hlinked.previous, ?_, ?_, fun hspared => hlinked.spared hnext hspared⟩
        · intro revision hready
          rw [hlinked.reports, hreports] at hready
          simp at hready
        · intro _
          exact ⟨old, rfl, hcurrent⟩

/-- Giving up after the way back. -/
theorem ends_fallBack (old : Option String) (text : String) (hreports : desk.reports = [])
    (hnext : desk.files.next = none) :
    (restore old >>= fun _ => refuse text : Step Unit).Ends setting desk fun _ after =>
      Restored setting old desk after := by
  refine (ends_restore old hreports hnext).bind ?_ (fun _ h => ?_) (fun _ h => h)
  · rintro ⟨⟩ restored h
    rw [refuse, Script.ends_report_bind, Script.ends_fail]
    refine ⟨h.previous, ?_, ?_, h.spared⟩
    · intro revision hready
      exact h.quiet revision (by simpa using hready)
    · intro hrestoring
      exact h.restoring (by simpa using hrestoring)
  · exact h

/-- What `activate` does. The way back begins after the three operations of the switch and
of loading the service. -/
structure Activated (setting : Setting Operation) (next : String) (old : Option String)
    (before after : Desk Root Report) : Prop where
  ready : ∀ revision, .ready revision ∈ after.reports →
    revision = next ∧ after.files.current = some (before.files.next.getD next)
  restoring : .restoring ∈ after.reports → ∃ revision, old = some revision ∧
    after.files.current =
      if Cut setting (before.operations + 3) revision then some (before.files.next.getD next)
      else some revision
  previous : (∀ revision, .ready revision ∉ after.reports) →
    after.files.previous = before.files.previous
  spared : before.files.next = none → Spares setting → after.files.next = none

/-- `activate` has not come to a report. -/
theorem Activated.of_silent {before after : Desk Root Report} (hreports : after.reports = [])
    (hprevious : after.files.previous = before.files.previous)
    (hspared : before.files.next = none → Spares setting → after.files.next = none) :
    Activated setting next old before after :=
  ⟨by simp [hreports], by simp [hreports], fun _ => hprevious, hspared⟩

/-- The end of `activate` once the service manager has answered. -/
theorem ends_answered {before linked : Desk Root Report} {text : String}
    (hlinked : Switched setting next before (.done ()) linked) (hreports : before.reports = [])
    (hdesk : desk.files = linked.files) (hlines : desk.reports = linked.reports)
    (hcount : desk.operations = before.operations + 3) (yes : Bool) :
    (if yes then keepPrevious next old >>= fun _ => Script.report (.ready next)
      else restore old >>= fun _ => refuse text : Step Unit).Ends setting desk fun _ after =>
      Activated setting next old before after := by
  obtain ⟨hcurrent, hnone⟩ := hlinked.done rfl
  have hsilent : desk.reports = [] := (hlines.trans hlinked.reports).trans hreports
  have hprevious : desk.files.previous = before.files.previous := by
    rw [hdesk, hlinked.previous]
  cases yes with
  | true =>
      refine (ends_keepPrevious next old).bind ?_ ?_ ?_
      · rintro ⟨⟩ kept ⟨hkept, hcurrent', hnext, -⟩
        rw [Script.ends_report, hkept, hsilent]
        refine ⟨?_, by simp, ?_, ?_⟩
        · intro revision hready
          refine ⟨by simpa using hready, ?_⟩
          rw [hcurrent', hdesk, hcurrent]
        · intro habsurd
          exact absurd (by simp) (habsurd next)
        · intro _ _
          rw [hnext, hdesk, hnone]
      · rintro after ⟨hkept, -, hnext, hprevious'⟩
        refine .of_silent (hkept.trans hsilent) ((hprevious' nofun).trans hprevious) ?_
        intro _ _
        rw [hnext, hdesk, hnone]
      · rintro after ⟨hkept, -, hnext, hprevious'⟩
        refine .of_silent (hkept.trans hsilent) ((hprevious' nofun).trans hprevious) ?_
        intro _ _
        rw [hnext, hdesk, hnone]
  | false =>
      refine (ends_fallBack old text hsilent (by rw [hdesk, hnone])).mono ?_
      intro ending after h
      refine ⟨?_, ?_, fun _ => h.previous.trans hprevious, fun _ => h.spared⟩
      · intro revision hready
        exact absurd hready (h.quiet revision)
      · intro hrestoring
        rw [← hcount, ← hcurrent, ← hdesk]
        exact h.restoring hrestoring

theorem ends_activate (next : String) (old : Option String) (hreports : desk.reports = []) :
    (activate next old).Ends setting desk fun _ after =>
      Activated setting next old desk after := by
  refine ((ends_linkCurrent next).and (performs_linkCurrent next setting desk)).bind ?_ ?_ ?_
  · rintro ⟨⟩ linked ⟨hlinked, hswitched⟩
    obtain ⟨hcurrent, hnone⟩ := hlinked.done rfl
    -- Until the service has answered, nothing has changed since the switch.
    have hstopped : ∀ after : Desk Root Report, after.files = linked.files →
        after.reports = linked.reports → Activated setting next old desk after := by
      intro after hfiles hlines
      refine .of_silent ((hlines.trans hlinked.reports).trans hreports) ?_ ?_
      · rw [hfiles, hlinked.previous]
      · intro _ _
        rw [hfiles, hnone]
    refine ((ends_loadService next).and (performs_loadService next setting linked)).bind ?_ ?_ ?_
    · rintro ⟨⟩ loaded ⟨⟨hloaded, hlines⟩, hcounted⟩
      refine (Script.ends_ask.and (Script.performs_ask setting loaded)).bind ?_ ?_ ?_
      · rintro yes asked ⟨⟨hasked, hlines', -⟩, hwaited⟩
        have hcount : asked.operations = desk.operations + 3 := by
          rw [hwaited yes rfl, hcounted () rfl, hswitched () rfl]
        exact ends_answered hlinked hreports (hasked.trans hloaded) (hlines'.trans hlines) hcount
          yes
      · rintro after ⟨⟨hasked, hlines', -⟩, -⟩
        exact hstopped after (hasked.trans hloaded) (hlines'.trans hlines)
      · rintro after ⟨⟨hasked, hlines', -⟩, -⟩
        exact hstopped after (hasked.trans hloaded) (hlines'.trans hlines)
    · rintro after ⟨⟨hfiles, hlines⟩, -⟩
      exact hstopped after hfiles hlines
    · rintro after ⟨⟨hfiles, hlines⟩, -⟩
      exact hstopped after hfiles hlines
  · rintro after ⟨hlinked, -⟩
    exact .of_silent (hlinked.reports.trans hreports) hlinked.previous hlinked.spared
  · rintro after ⟨hlinked, -⟩
    exact .of_silent (hlinked.reports.trans hreports) hlinked.previous hlinked.spared

end Raydio.Deploy
