/-
# What the deployment script reports

Whatever comes before the switch leaves the links alone. A command that began without a
link of another release left behind in `current.next`, and that is not killed on its way
back to the release before, reports nothing that is not so; and nothing is left behind
unless a command is killed between the two halves of a switch.
-/

import Raydio.Deploy.Activation

namespace Raydio.Deploy

open Raydio.Foundation

variable {setting : Setting Operation} {desk : Desk Root Report}

/-! ## Before the switch -/

/-- The links are as they were, and nothing but refusals was reported. -/
structure Calm (before after : Desk Root Report) : Prop where
  current : after.files.current = before.files.current
  previous : after.files.previous = before.files.previous
  next : after.files.next = before.files.next
  reports : ∀ line ∈ after.reports, line ∈ before.reports ∨ ∃ text, line = .refused text

theorem Calm.refl (desk : Desk Root Report) : Calm desk desk :=
  ⟨rfl, rfl, rfl, fun _ => .inl⟩

/-- Giving up. -/
theorem ends_refuse {α : Type} (text : String) {post : Ending α → Desk Root Report → Prop}
    (h : ∀ after, Calm desk after → post .failed after) :
    (refuse text : Step α).Ends setting desk post := by
  rw [refuse, Script.ends_report_bind, Script.ends_fail]
  apply h
  refine ⟨rfl, rfl, rfl, ?_⟩
  intro line hline
  rcases List.mem_append.mp hline with hline | hline
  · exact .inl hline
  · exact .inr ⟨text, List.mem_singleton.mp hline⟩

/-- How many operations it takes to provide the release of a package: its script is
installed, and it is put in its directory unless it is there. -/
def Root.providing (root : Root) (fetched : Option Package) : ℕ :=
  if (fetched.bind fun package => root.releases package.revision).isSome then 1 else 2

/-- What comes before the switch: the release of the package is provided, or not. -/
structure Provided (fetched : Option Package) (before : Desk Root Report) (ending : Ending String)
    (after : Desk Root Report) : Prop where
  calm : Calm before after
  done : ∀ revision, ending = .done revision →
    after.reports = before.reports ∧ fetched.map Package.revision = some revision ∧
      after.operations = before.operations + before.files.providing fetched

theorem Provided.of_calm {fetched : Option Package} {before after : Desk Root Report}
    {ending : Ending String} (h : Calm before after)
    (hending : ∀ revision, ending ≠ .done revision) :
    Provided fetched before ending after :=
  ⟨h, fun revision hdone => absurd hdone (hending revision)⟩

/-- An operation on other files. -/
theorem ends_operate_calm {operation : Operation}
    (h : ∀ root after, operation.effect root = some after →
      after.current = root.current ∧ after.previous = root.previous ∧ after.next = root.next) :
    (operate operation).Ends setting desk fun _ after =>
      Calm desk after ∧ after.reports = desk.reports := by
  refine (ends_operate _).mono ?_
  rintro ending after ⟨hreports, hending⟩
  have hlines : ∀ line ∈ after.reports, line ∈ desk.reports ∨ ∃ text, line = .refused text :=
    fun line hline => .inl (hreports ▸ hline)
  cases ending with
  | done _ =>
      obtain ⟨hcurrent, hprevious, hnext⟩ := h _ _ hending
      exact ⟨⟨hcurrent, hprevious, hnext, hlines⟩, hreports⟩
  | failed => exact ⟨⟨by rw [hending.2], by rw [hending.2], by rw [hending.2], hlines⟩, hreports⟩
  | killed => exact ⟨⟨by rw [hending.2], by rw [hending.2], by rw [hending.2], hlines⟩, hreports⟩

theorem Calm.trans {first second third : Desk Root Report} (h : Calm first second)
    (h' : Calm second third) : Calm first third where
  current := h'.current.trans h.current
  previous := h'.previous.trans h.previous
  next := h'.next.trans h.next
  reports line hline := by
    rcases h'.reports line hline with hline | hrefused
    · exact h.reports line hline
    · exact .inr hrefused

theorem ends_place (package : Package) :
    (place package).Ends setting desk fun ending after =>
      Calm desk after ∧ (ending = .done () → after.reports = desk.reports ∧
        after.operations + 1 = desk.operations + desk.files.providing (some package)) := by
  rw [place, Script.ends_files_bind]
  split
  · rename_i habsent
    have hcount : desk.files.providing (some package) = 2 := by
      simp [Root.providing, habsent]
    have hplaced : (operate (.place package)).Ends setting desk fun _ after =>
        Calm desk after ∧ after.reports = desk.reports := by
      refine ends_operate_calm ?_
      intro root after heffect
      cases heffect
      exact ⟨rfl, rfl, rfl⟩
    refine (hplaced.and (performs_operate (.place package) setting desk)).mono ?_
    rintro ending after ⟨⟨hcalm, hreports⟩, hperformed⟩
    refine ⟨hcalm, fun hdone => ⟨hreports, ?_⟩⟩
    rw [hperformed () hdone, hcount]
  · rename_i directory hdirectory
    have hcount : desk.files.providing (some package) = 1 := by
      simp [Root.providing, hdirectory]
    split
    · rw [hcount]
      exact ⟨.refl desk, fun _ => ⟨rfl, rfl⟩⟩
    · exact ends_refuse _ fun after h => ⟨h, nofun⟩

theorem ends_provide (fetched : Option Package) :
    (provide fetched).Ends setting desk (Provided fetched desk) := by
  cases fetched with
  | none => exact .of_calm (.refl desk) nofun
  | some package =>
      rw [provide, accept]
      split
      · refine (ends_place package).bind ?_ ?_ ?_
        · rintro ⟨⟩ placed ⟨hplaced, hending⟩
          obtain ⟨hreports, hcount⟩ := hending rfl
          refine ((ends_operate_calm ?_).and (performs_operate _ _ _)).bind ?_ ?_ ?_
          · intro root after heffect
            cases heffect
            exact ⟨rfl, rfl, rfl⟩
          · rintro ⟨⟩ after ⟨⟨hcalm, hreports'⟩, hperformed⟩
            rw [Script.ends_pure]
            refine ⟨hplaced.trans hcalm, ?_⟩
            intro revision hrevision
            cases hrevision
            exact ⟨hreports'.trans hreports, rfl, (hperformed () rfl).trans hcount⟩
          · rintro after ⟨⟨hcalm, -⟩, -⟩
            exact .of_calm (hplaced.trans hcalm) nofun
          · rintro after ⟨⟨hcalm, -⟩, -⟩
            exact .of_calm (hplaced.trans hcalm) nofun
        · rintro after ⟨hcalm, -⟩
          exact .of_calm hcalm nofun
        · rintro after ⟨hcalm, -⟩
          exact .of_calm hcalm nofun
      · exact ends_refuse _ fun after h => .of_calm h nofun

/-! ## Commands -/

/-- The release that a command switches to. -/
def Call.requested (call : Call) (root : Root) : Option String :=
  match call.command with
  | .install fetched | .update fetched => fetched.map Package.revision
  | .rollback => root.previous

/-- How many operations a command performs before it switches to a release. -/
def Call.before (call : Call) (root : Root) : ℕ :=
  match call.command with
  | .install fetched | .update fetched => root.providing fetched
  | .rollback => 0

/-- What a command reports is so: a release that it reports ready is the one asked for and
the current one; when it has reported that it restores the release before, this is the
current one; and `previous` only changes with a report. -/
structure Correct (root : Root) (call : Call) : Prop where
  ready : ∀ revision, .ready revision ∈ (call.outcome root).2.reports →
    call.requested root = some revision ∧ (step root call).current = some revision
  restoring : .restoring ∈ (call.outcome root).2.reports →
    (step root call).current = root.current
  previous : (∀ revision, .ready revision ∉ (call.outcome root).2.reports) →
    (step root call).previous = root.previous

/-- No other release is in `current.next` when a command starts that activates one. -/
def Clear (root : Root) (call : Call) : Prop :=
  match call.command with
  | .install _ => True
  | .update _ | .rollback => root.next = none ∨ root.next = call.requested root

instance (root : Root) (call : Call) : Decidable (Clear root call) := by
  unfold Clear
  split <;> infer_instance

/-- A command that activates a release is not killed where its way back to the current one
would make the link to it and move it: three operations after it began to switch, unless the
switch changes nothing. -/
def Returns (root : Root) (call : Call) : Prop :=
  match call.command with
  | .install _ => True
  | .update _ | .rollback =>
      ∀ revision ∈ call.requested root, ∀ old ∈ root.current, root.next.getD revision = old ∨
        Cut call.setting (call.before root + 3) old = false

instance (root : Root) (call : Call) : Decidable (Returns root call) := by
  unfold Returns
  split <;> infer_instance

/-- What a command does. -/
structure Called (root : Root) (call : Call) (after : Desk Root Report) : Prop where
  ready : ∀ revision, .ready revision ∈ after.reports → call.requested root = some revision ∧
    after.files.current = some (root.next.getD revision) ∧
    ∀ fetched, call.command ≠ .install fetched
  restoring : .restoring ∈ after.reports → ∃ revision old, call.requested root = some revision ∧
    root.current = some old ∧
    (after.files.current = if Cut call.setting (call.before root + 3) old then
      some (root.next.getD revision) else some old) ∧
    ∀ fetched, call.command ≠ .install fetched
  previous : (∀ revision, .ready revision ∉ after.reports) → after.files.previous = root.previous
  spared : root.next = none → Spares call.setting → after.files.next = none

/-- A command that has only given up. -/
theorem Called.of_calm {root : Root} {call : Call} {before after : Desk Root Report}
    (h : Calm before after) (hfiles : before.files = root) (hreports : before.reports = []) :
    Called root call after := by
  have hlines : ∀ line ∈ after.reports, ∃ text, line = .refused text := by
    intro line hline
    rcases h.reports line hline with hline | hrefused
    · rw [hreports] at hline
      cases hline
    · exact hrefused
  refine ⟨?_, ?_, fun _ => by rw [h.previous, hfiles], fun hnone _ => by rw [h.next, hfiles, hnone]⟩
  · intro revision hready
    obtain ⟨text, habsurd⟩ := hlines _ hready
    cases habsurd
  · intro hrestoring
    obtain ⟨text, habsurd⟩ := hlines _ hrestoring
    cases habsurd

/-- A command that has only reported an installation. -/
theorem Called.of_installed {root : Root} {call : Call} {after : Desk Root Report}
    (hlines : ∀ line ∈ after.reports, line = .installed)
    (hprevious : after.files.previous = root.previous)
    (hspared : root.next = none → Spares call.setting → after.files.next = none) :
    Called root call after := by
  refine ⟨?_, ?_, fun _ => hprevious, hspared⟩
  · intro revision hready
    cases hlines _ hready
  · intro hrestoring
    cases hlines _ hrestoring

/-- The end of an installation. -/
theorem ends_installed (next : String) :
    (loadService next >>= fun _ => Script.report .installed : Step Unit).Ends setting desk
      fun _ after => Reported .installed desk after := by
  refine Script.Ends.seq ((ends_loadService next).mono ?_) ?_
  · rintro _ loaded ⟨hfiles, hreports⟩
    exact .of_eq hfiles hreports
  · rintro ⟨⟩ loaded hloaded
    exact hloaded.report

theorem ends_install (root : Root) (call : Call) (fetched : Option Package) :
    (install fetched).Ends call.setting root.start fun _ after => Called root call after := by
  refine (ends_provide fetched).bind ?_ ?_ ?_
  · intro next provided hprovided
    obtain ⟨hreports, -⟩ := hprovided.done next rfl
    have hstopped : ∀ (ending : Ending Unit) (linked : Desk Root Report),
        Switched call.setting next provided ending linked → Called root call linked := by
      intro ending linked hlinked
      refine .of_installed ?_ ?_ ?_
      · intro line hline
        rw [hlinked.reports, hreports] at hline
        cases hline
      · rw [hlinked.previous, hprovided.calm.previous]
        rfl
      · intro hnone hspared
        exact hlinked.spared (hprovided.calm.next.trans hnone) hspared
    refine (ends_linkCurrent next).bind ?_ (fun _ h => hstopped _ _ h) (fun _ h => hstopped _ _ h)
    rintro ⟨⟩ linked hlinked
    refine (ends_installed next).mono ?_
    rintro ending after ⟨hfiles, hlines⟩
    refine .of_installed ?_ ?_ ?_
    · intro line hline
      rcases hlines line hline with hline | hinstalled
      · rw [hlinked.reports, hreports] at hline
        cases hline
      · exact hinstalled
    · rw [hfiles, hlinked.previous, hprovided.calm.previous]
      rfl
    · intro _ _
      rw [hfiles, (hlinked.done rfl).2]
  · intro after h
    exact .of_calm h.calm rfl rfl
  · intro after h
    exact .of_calm h.calm rfl rfl

theorem ends_update (root : Root) (call : Call) (fetched : Option Package)
    (hcall : call.command = .update fetched) :
    (update fetched).Ends call.setting root.start fun _ after => Called root call after := by
  refine (ends_provide fetched).bind ?_ ?_ ?_
  · intro next provided hprovided
    obtain ⟨hreports, hnext, hcount⟩ := hprovided.done next rfl
    have hinstall : ∀ other, call.command ≠ .install other := by
      rw [hcall]
      nofun
    have hrequested : call.requested root = some next := by
      rw [Call.requested, hcall]
      exact hnext
    have hbefore : provided.operations = call.before root := by
      rw [hcount, Call.before, hcall]
      exact Nat.zero_add _
    rw [Script.ends_files_bind]
    refine (ends_activate next _ hreports).mono ?_
    intro ending after h
    refine ⟨?_, ?_, ?_, ?_⟩
    · intro revision hready
      obtain ⟨rfl, hcurrent⟩ := h.ready revision hready
      refine ⟨hrequested, ?_, hinstall⟩
      rw [hcurrent, hprovided.calm.next]
      rfl
    · intro hrestoring
      obtain ⟨old, hold, hcurrent⟩ := h.restoring hrestoring
      rw [hbefore, hprovided.calm.next] at hcurrent
      exact ⟨next, old, hrequested, hprovided.calm.current.symm.trans hold, hcurrent, hinstall⟩
    · intro hquiet
      rw [h.previous hquiet, hprovided.calm.previous]
      rfl
    · intro hnone hspared
      exact h.spared (hprovided.calm.next.trans hnone) hspared
  · intro after h
    exact .of_calm h.calm rfl rfl
  · intro after h
    exact .of_calm h.calm rfl rfl

theorem ends_rollback (root : Root) (call : Call) (hcall : call.command = .rollback)
    {previous current : String} (hprevious : root.previous = some previous)
    (hcurrent : root.current = some current) :
    (activate previous (some current)).Ends call.setting root.start fun _ after =>
      Called root call after := by
  have hinstall : ∀ fetched, call.command ≠ .install fetched := by
    rw [hcall]
    nofun
  have hrequested : call.requested root = some previous := by
    rw [Call.requested, hcall]
    exact hprevious
  have hbefore : call.before root = 0 := by
    rw [Call.before, hcall]
  refine (ends_activate previous (some current) rfl).mono ?_
  intro ending after h
  refine ⟨?_, ?_, h.previous, h.spared⟩
  · intro revision hready
    obtain ⟨rfl, hafter⟩ := h.ready revision hready
    exact ⟨hrequested, hafter, hinstall⟩
  · intro hrestoring
    obtain ⟨old, hold, hafter⟩ := h.restoring hrestoring
    rw [hbefore]
    exact ⟨previous, old, hrequested, hcurrent.trans hold, hafter, hinstall⟩

/-- What every command does. -/
theorem ends_raydioctl (root : Root) (call : Call) :
    (raydioctl call.command).Ends call.setting root.start fun _ after =>
      Called root call after := by
  cases hcall : call.command with
  | install fetched =>
      rw [raydioctl, Script.ends_files_bind]
      split
      · exact ends_refuse _ fun after h => .of_calm h rfl rfl
      · exact ends_install root call fetched
  | update fetched =>
      rw [raydioctl, Script.ends_files_bind]
      split
      · exact ends_update root call fetched hcall
      · exact ends_refuse _ fun after h => .of_calm h rfl rfl
  | rollback =>
      rw [raydioctl, Script.ends_files_bind]
      split
      · rename_i hprevious hcurrent
        exact ends_rollback root call hcall hprevious hcurrent
      · exact ends_refuse _ fun after h => .of_calm h rfl rfl

theorem called (root : Root) (call : Call) : Called root call (call.outcome root).2 :=
  ends_raydioctl root call

/-- What it takes for a command that activates a release to begin clear. -/
theorem clear_iff {root : Root} {call : Call} {revision : String}
    (hcommand : ∀ fetched, call.command ≠ .install fetched)
    (hrequested : call.requested root = some revision) :
    Clear root call ↔ root.next.getD revision = revision := by
  have hclear : Clear root call ↔ root.next = none ∨ root.next = call.requested root := by
    cases hcall : call.command with
    | install fetched => exact absurd hcall (hcommand fetched)
    | update fetched => simp only [Clear, hcall]
    | rollback => simp only [Clear, hcall]
  rw [hclear, hrequested]
  cases root.next with
  | none => simp
  | some other => simp

/-- What it takes for a command that activates a release to come back from it. -/
theorem returns_iff {root : Root} {call : Call} {revision old : String}
    (hcommand : ∀ fetched, call.command ≠ .install fetched)
    (hrequested : call.requested root = some revision) (hold : root.current = some old) :
    Returns root call ↔
      (if Cut call.setting (call.before root + 3) old then some (root.next.getD revision)
        else some old) = some old := by
  have hreturns : Returns root call ↔ root.next.getD revision = old ∨
      Cut call.setting (call.before root + 3) old = false := by
    cases hcall : call.command with
    | install fetched => exact absurd hcall (hcommand fetched)
    | update fetched =>
        simp only [Returns, hcall, hrequested, hold, Option.mem_some_iff, forall_eq']
    | rollback => simp only [Returns, hcall, hrequested, hold, Option.mem_some_iff, forall_eq']
  rw [hreturns]
  cases Cut call.setting (call.before root + 3) old with
  | true => simp
  | false => simp

/-- A command is correct exactly if it began clear or reports no release ready, and comes
back or reports no restoration. -/
theorem correct_iff (root : Root) (call : Call) :
    Correct root call ↔
      (∀ revision, .ready revision ∈ (call.outcome root).2.reports → Clear root call) ∧
        (.restoring ∈ (call.outcome root).2.reports → Returns root call) := by
  have h := called root call
  constructor
  · intro hcorrect
    constructor
    · intro revision hready
      obtain ⟨hrequested, hcurrent, hcommand⟩ := h.ready revision hready
      rw [clear_iff hcommand hrequested]
      exact Option.some.inj (hcurrent.symm.trans (hcorrect.ready revision hready).2)
    · intro hrestoring
      obtain ⟨revision, old, hrequested, hold, hcurrent, hcommand⟩ := h.restoring hrestoring
      rw [returns_iff hcommand hrequested hold, ← hcurrent, ← hold]
      exact hcorrect.restoring hrestoring
  · rintro ⟨hclear, hreturns⟩
    refine ⟨?_, ?_, h.previous⟩
    · intro revision hready
      obtain ⟨hrequested, hcurrent, hcommand⟩ := h.ready revision hready
      have hsame := (clear_iff hcommand hrequested).mp (hclear revision hready)
      exact ⟨hrequested, hcurrent.trans (congrArg some hsame)⟩
    · intro hrestoring
      obtain ⟨revision, old, hrequested, hold, hcurrent, hcommand⟩ := h.restoring hrestoring
      have hback := (returns_iff hcommand hrequested hold).mp (hreturns hrestoring)
      exact (hcurrent.trans hback).trans hold.symm

/-! ## Runs -/

/-- In a run whose commands all begin clear and come back, every command is correct. -/
theorem run_correct {calls : List Call}
    (h : Runs.Along step (fun root call => Clear root call ∧ Returns root call) .fresh calls) :
    Runs.Along step Correct .fresh calls := by
  intro before call after hsplit
  obtain ⟨hclear, hreturns⟩ := h before call after hsplit
  rw [correct_iff]
  exact ⟨fun _ _ => hclear, fun _ => hreturns⟩

/-- Nothing is left over in a run without a command that is killed between the two halves
of a switch, so every command begins clear. -/
theorem run_clear {calls : List Call}
    (h : Runs.Along step (fun _ call => Spares call.setting) .fresh calls) :
    Runs.Along step Clear .fresh calls := by
  intro before call after hsplit
  have hnone : (Runs.run step .fresh before).next = none := by
    have hbefore : Runs.Along step (fun _ call => Spares call.setting) .fresh before := by
      intro first other rest hfirst
      exact h first other (rest ++ call :: after) (by rw [hsplit, hfirst]; simp)
    refine hbefore.invariant (fun root : Root => root.next = none) ?_ rfl
    intro root other hspared hnone
    exact (called root other).spared hnone hspared
  rw [Clear]
  split
  · trivial
  · exact .inl hnone
  · exact .inl hnone

/-! ## Three releases -/

/-- A package with this revision. -/
def packageOf (revision : String) : Option Package := some ⟨revision, "", []⟩

def one : String := "1111111111111111111111111111111111111111"
def two : String := "2222222222222222222222222222222222222222"
def three : String := "3333333333333333333333333333333333333333"

/-- Nothing happens to a command, and the service manager does what it is asked for. -/
def undisturbed : Setting Operation where
  killed _ _ := false
  answer _ := some true

/-- A command is killed when it is about to move the link. -/
def killedAtMove : Setting Operation where
  killed _ operation :=
    match operation with
    | .move => true
    | _ => false
  answer _ := some true

/-- The first release is installed, and a command is killed that updates to the second. -/
def interrupted : List Call :=
  [⟨.install (packageOf one), undisturbed⟩, ⟨.update (packageOf two), killedAtMove⟩]

/-- Two updates that nothing happens to, and a rollback. -/
def updated : List Call :=
  [⟨.install (packageOf one), undisturbed⟩, ⟨.update (packageOf two), undisturbed⟩,
    ⟨.rollback, undisturbed⟩]

/-- A rollback after an update reports the first release ready. -/
theorem run_correct_updated :
    Runs.Along step (fun root call => Clear root call ∧ Returns root call) .fresh updated ∧
      Runs.Along step Correct .fresh updated := by
  have hclear : Runs.Along step (fun root call => Clear root call ∧ Returns root call) .fresh
      updated := by
    decide +kernel
  exact ⟨hclear, run_correct hclear⟩

/-- After the killed update, one to the third release reports it ready and has switched to
the second. -/
theorem interrupted_misreported : ¬ ∀ calls : List Call, Runs.Along step Correct .fresh calls := by
  intro h
  have hcorrect := h (interrupted ++ [⟨.update (packageOf three), undisturbed⟩]) interrupted
    ⟨.update (packageOf three), undisturbed⟩ [] rfl
  have hready : .ready three ∈
      ((⟨.update (packageOf three), undisturbed⟩ : Call).outcome (run interrupted)).2.reports := by
    decide +kernel
  have hcurrent : (step (run interrupted) ⟨.update (packageOf three), undisturbed⟩).current =
      some two := by
    decide +kernel
  have habsurd := (hcorrect.ready three hready).2
  rw [run] at hcurrent
  rw [hcurrent] at habsurd
  exact absurd habsurd (by decide)

end Raydio.Deploy
