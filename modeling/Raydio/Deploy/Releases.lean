/-
# The releases on disk

Whichever commands are called and wherever they are killed, a release that was put in its
directory stays there with the sums it was checked against, and none of its names is
taken away; a link that is left in a directory by mistake is all that is ever added. The
links `current`, `previous` and `current.next` never dangle, so that there is something
to start, to go back to and to move.
-/

import Raydio.Deploy.Reporting

namespace Raydio.Deploy

open Raydio.Foundation

/-- The release is in its directory. -/
def Root.Holds (root : Root) (revision : String) : Prop := (root.releases revision).isSome

/-- Every release is still there as it was, but for names that were added. -/
def Kept (before after : Root) : Prop :=
  ∀ revision directory, before.releases revision = some directory →
    ∃ kept, after.releases revision = some kept ∧ kept.sums = directory.sums ∧
      directory.names <+: kept.names

/-- No link dangles. -/
structure Standing (root : Root) : Prop where
  current : ∀ revision, root.current = some revision → root.Holds revision
  previous : ∀ revision, root.previous = some revision → root.Holds revision
  next : ∀ revision, root.next = some revision → root.Holds revision

theorem Kept.refl (root : Root) : Kept root root :=
  fun _ directory h => ⟨directory, h, rfl, List.prefix_refl _⟩

theorem Kept.trans {first second third : Root} (h : Kept first second) (h' : Kept second third) :
    Kept first third := by
  intro revision directory hdirectory
  obtain ⟨middle, hmiddle, hsums, hnames⟩ := h revision directory hdirectory
  obtain ⟨last, hlast, hsums', hnames'⟩ := h' revision middle hmiddle
  exact ⟨last, hlast, hsums'.trans hsums, hnames.trans hnames'⟩

theorem Kept.holds {before after : Root} (h : Kept before after) {revision : String}
    (hbefore : before.Holds revision) : after.Holds revision := by
  obtain ⟨directory, hdirectory⟩ := Option.isSome_iff_exists.mp hbefore
  obtain ⟨kept, hkept, -, -⟩ := h revision directory hdirectory
  rw [Root.Holds, hkept]
  rfl

/-! ## Operations -/

/-- What an operation needs: a place of its own for a release, a release for a link. -/
def Operation.Safe (root : Root) : Operation → Prop
  | .place package => root.releases package.revision = none
  | .link revision | .keep revision => root.Holds revision
  | .tool _ | .move | .unit _ => True

/-- A directory that is new, or was extended. -/
theorem kept_update (root : Root) (revision : String) (directory : Directory)
    (h : ∀ old, root.releases revision = some old →
      directory.sums = old.sums ∧ old.names <+: directory.names) :
    Kept root { root with
      releases := Function.update root.releases revision (some directory) } := by
  intro other old hold
  by_cases hother : other = revision
  · subst hother
    exact ⟨directory, Function.update_self _ _ _, h old hold⟩
  · exact ⟨old, (Function.update_of_ne hother _ _).trans hold, rfl, List.prefix_refl _⟩

theorem Standing.of_kept {before after : Root} (h : Standing before) (hkept : Kept before after)
    (hcurrent : after.current = before.current) (hprevious : after.previous = before.previous)
    (hnext : after.next = before.next) : Standing after where
  current revision hrevision := hkept.holds (h.current revision (hcurrent ▸ hrevision))
  previous revision hrevision := hkept.holds (h.previous revision (hprevious ▸ hrevision))
  next revision hrevision := hkept.holds (h.next revision (hnext ▸ hrevision))

/-- A safe operation keeps the releases, and lets no link dangle. -/
theorem effect_standing {root after : Root} {operation : Operation}
    (heffect : operation.effect root = some after) (hsafe : operation.Safe root)
    (h : Standing root) : Kept root after ∧ Standing after := by
  cases operation with
  | place package =>
      cases heffect
      have hkept := kept_update root package.revision ⟨package.sums, package.names⟩
        fun old hold => by
          rw [Operation.Safe] at hsafe
          rw [hsafe] at hold
          cases hold
      exact ⟨hkept, h.of_kept hkept rfl rfl rfl⟩
  | tool revision =>
      cases heffect
      exact ⟨.refl root, h⟩
  | unit revision =>
      cases heffect
      exact ⟨.refl root, h⟩
  | keep revision =>
      cases heffect
      refine ⟨.refl root, h.current, ?_, h.next⟩
      intro other hother
      cases hother
      exact hsafe
  | move =>
      simp only [Operation.effect] at heffect
      split at heffect
      · cases heffect
      · rename_i revision hnext
        cases heffect
        refine ⟨.refl root, ?_, h.previous, fun _ hnone => by cases hnone⟩
        intro other hother
        cases hother
        exact h.next revision hnext
  | link revision =>
      simp only [Operation.effect] at heffect
      split at heffect
      · cases heffect
        refine ⟨.refl root, h.current, h.previous, ?_⟩
        intro other hother
        cases hother
        exact hsafe
      · rename_i other hother
        split at heffect
        · cases heffect
        · rename_i directory hdirectory
          split at heffect
          · cases heffect
          · cases heffect
            have hkept := kept_update root other
              { directory with names := directory.names ++ [revision] } fun old hold => by
                rw [hdirectory] at hold
                cases hold
                exact ⟨rfl, List.prefix_append _ _⟩
            exact ⟨hkept, h.of_kept hkept rfl rfl rfl⟩

/-! ## Scripts -/

/-- What every part of a script keeps that found this root. -/
structure Guards (root : Root) (desk : Desk Root Report) : Prop where
  kept : Kept root desk.files
  standing : Standing desk.files

variable {root : Root} {setting : Setting Operation} {desk : Desk Root Report}

theorem Guards.of_files {after : Desk Root Report} (h : Guards root desk)
    (hfiles : after.files = desk.files) : Guards root after :=
  ⟨hfiles ▸ h.kept, hfiles ▸ h.standing⟩

theorem guards_operate {operation : Operation} (h : Guards root desk)
    (hsafe : operation.Safe desk.files) :
    (operate operation).Ends setting desk fun _ after => Guards root after := by
  refine (ends_operate operation).mono ?_
  rintro ending after ⟨-, hending⟩
  cases ending with
  | done _ =>
      obtain ⟨hkept, hstanding⟩ := effect_standing hending hsafe h.standing
      exact ⟨h.kept.trans hkept, hstanding⟩
  | failed => exact h.of_files hending.2
  | killed => exact h.of_files hending.2

theorem guards_refuse {α : Type} (h : Guards root desk) (text : String) :
    (refuse text : Step α).Ends setting desk fun _ after => Guards root after := by
  rw [refuse, Script.ends_report_bind, Script.ends_fail]
  exact h.of_files rfl

theorem guards_ask (h : Guards root desk) {rest : Bool → Step Unit}
    (hrest : ∀ yes after, Guards root after →
      (rest yes).Ends setting after fun _ after => Guards root after) :
    (Script.ask >>= rest).Ends setting desk fun _ after => Guards root after :=
  Script.Ends.seq (Script.ends_ask.mono fun _ _ hasked => h.of_files hasked.1) hrest

theorem guards_linkCurrent {revision : String} (h : Guards root desk)
    (hholds : desk.files.Holds revision) :
    (linkCurrent revision).Ends setting desk fun _ after => Guards root after :=
  Script.Ends.seq (guards_operate h hholds) fun _ _ hlinked => guards_operate hlinked trivial

theorem guards_loadService (revision : String) (h : Guards root desk) :
    (loadService revision).Ends setting desk fun _ after => Guards root after := by
  refine Script.Ends.seq (guards_operate h trivial) fun _ loaded hloaded => ?_
  refine guards_ask hloaded fun yes after hafter => ?_
  cases yes with
  | true => exact hafter
  | false => exact hafter

theorem guards_keepPrevious (next : String) {old : Option String} (h : Guards root desk)
    (hold : ∀ revision, old = some revision → desk.files.Holds revision) :
    (keepPrevious next old).Ends setting desk fun _ after => Guards root after := by
  cases old with
  | none => exact h
  | some old =>
      rw [keepPrevious]
      split
      · exact h
      · exact guards_operate h (hold old rfl)

theorem guards_restore {old : Option String} (h : Guards root desk)
    (hold : ∀ revision, old = some revision → root.Holds revision) :
    (restore old).Ends setting desk fun _ after => Guards root after := by
  cases old with
  | none => exact h
  | some old =>
      rw [restore, Script.ends_report_bind]
      have hreported : Guards root { desk with reports := desk.reports ++ [.restoring] } :=
        h.of_files rfl
      refine Script.Ends.seq (guards_linkCurrent hreported (h.kept.holds (hold old rfl)))
        fun _ linked hlinked => ?_
      refine Script.Ends.seq (guards_loadService old hlinked) fun _ loaded hloaded => ?_
      refine guards_ask hloaded fun yes after hafter => ?_
      cases yes with
      | true => exact hafter
      | false => exact hafter.of_files rfl

/-- Activating a release that is there, with an old one that is there. -/
theorem guards_activate {next : String} {old : Option String} (h : Guards root desk)
    (hnext : desk.files.Holds next)
    (hold : ∀ revision, old = some revision → root.Holds revision) :
    (activate next old).Ends setting desk fun _ after => Guards root after := by
  refine Script.Ends.seq (guards_linkCurrent h hnext) fun _ linked hlinked => ?_
  refine Script.Ends.seq (guards_loadService next hlinked) fun _ loaded hloaded => ?_
  refine guards_ask hloaded fun yes asked hasked => ?_
  cases yes with
  | true =>
      refine Script.Ends.seq (guards_keepPrevious next hasked fun revision hrevision =>
        hasked.kept.holds (hold revision hrevision)) fun _ kept hkept => ?_
      exact hkept.of_files rfl
  | false =>
      exact Script.Ends.seq (guards_restore hasked hold) fun _ restored hrestored =>
        guards_refuse hrestored _

/-- A release that was put in its directory is there. -/
theorem guards_place (package : Package) (h : Guards root desk) :
    (place package).Ends setting desk fun ending after =>
      Guards root after ∧ (ending = .done () → after.files.Holds package.revision) := by
  rw [place, Script.ends_files_bind]
  split
  · rename_i hnone
    refine (ends_operate (.place package)).mono ?_
    rintro ending after ⟨-, hending⟩
    cases ending with
    | done _ =>
        obtain ⟨hkept, hstanding⟩ := effect_standing hending hnone h.standing
        refine ⟨⟨h.kept.trans hkept, hstanding⟩, fun _ => ?_⟩
        rw [← Option.some.inj hending, Root.Holds]
        dsimp only
        rw [Function.update_self]
        rfl
    | failed => exact ⟨h.of_files hending.2, fun hdone => by cases hdone⟩
    | killed => exact ⟨h.of_files hending.2, fun hdone => by cases hdone⟩
  · rename_i directory hdirectory
    split
    · rw [Script.ends_pure]
      refine ⟨h, fun _ => ?_⟩
      rw [Root.Holds, hdirectory]
      rfl
    · rw [refuse, Script.ends_report_bind, Script.ends_fail]
      exact ⟨h.of_files rfl, fun hdone => by cases hdone⟩

/-- So is one that was provided. -/
theorem guards_provide (fetched : Option Package) (h : Guards root desk) :
    (provide fetched).Ends setting desk fun ending after =>
      Guards root after ∧ ∀ revision, ending = .done revision → after.files.Holds revision := by
  cases fetched with
  | none => exact ⟨h, fun _ hdone => by cases hdone⟩
  | some package =>
      rw [provide, accept]
      split
      · refine (guards_place package h).bind ?_ ?_ ?_
        · rintro ⟨⟩ placed ⟨hplaced, hholds⟩
          refine (ends_operate (.tool package.revision)).bind ?_ ?_ ?_
          · rintro ⟨⟩ after ⟨-, hfiles⟩
            have hsame : after.files = placed.files := (Option.some.inj hfiles).symm
            rw [Script.ends_pure]
            refine ⟨hplaced.of_files hsame, ?_⟩
            intro revision hrevision
            cases hrevision
            rw [hsame]
            exact hholds rfl
          · rintro after ⟨-, hfiles⟩
            exact ⟨hplaced.of_files hfiles.2, fun _ hdone => by cases hdone⟩
          · rintro after ⟨-, hfiles⟩
            exact ⟨hplaced.of_files hfiles.2, fun _ hdone => by cases hdone⟩
        · rintro after ⟨hafter, -⟩
          exact ⟨hafter, fun _ hdone => by cases hdone⟩
        · rintro after ⟨hafter, -⟩
          exact ⟨hafter, fun _ hdone => by cases hdone⟩
      · rw [refuse]
        exact ⟨h.of_files rfl, fun _ hdone => by cases hdone⟩

theorem guards_install (fetched : Option Package) (h : Guards root desk) :
    (install fetched).Ends setting desk fun _ after => Guards root after := by
  refine (guards_provide fetched h).bind ?_ (fun _ hafter => hafter.1) (fun _ hafter => hafter.1)
  rintro next provided ⟨hprovided, hholds⟩
  refine Script.Ends.seq (guards_linkCurrent hprovided (hholds next rfl))
    fun _ linked hlinked => ?_
  exact Script.Ends.seq (guards_loadService next hlinked) fun _ loaded hloaded =>
    hloaded.of_files rfl

theorem guards_update (fetched : Option Package) (h : Guards root desk) :
    (update fetched).Ends setting desk fun _ after => Guards root after := by
  refine (guards_provide fetched h).bind ?_ (fun _ hafter => hafter.1) (fun _ hafter => hafter.1)
  rintro next provided ⟨hprovided, hholds⟩
  rw [Script.ends_files_bind]
  have hfrom : Guards provided.files provided := ⟨.refl _, hprovided.standing⟩
  refine (guards_activate hfrom (hholds next rfl) hprovided.standing.current).mono ?_
  intro ending after hafter
  exact ⟨hprovided.kept.trans hafter.kept, hafter.standing⟩

/-- Every command keeps the releases, and lets no link dangle. -/
theorem guards_raydioctl (command : Command) (h : Guards root desk) :
    (raydioctl command).Ends setting desk fun _ after => Guards root after := by
  cases command with
  | install fetched =>
      rw [raydioctl, Script.ends_files_bind]
      split
      · exact guards_refuse h _
      · exact guards_install fetched h
  | update fetched =>
      rw [raydioctl, Script.ends_files_bind]
      split
      · exact guards_update fetched h
      · exact guards_refuse h _
  | rollback =>
      rw [raydioctl, Script.ends_files_bind]
      have hfrom : Guards desk.files desk := ⟨.refl _, h.standing⟩
      split
      · rename_i previous current hprevious hcurrent
        refine (guards_activate hfrom (h.standing.previous previous hprevious) ?_).mono ?_
        · intro revision hrevision
          cases hrevision
          exact h.standing.current current hcurrent
        · intro ending after hafter
          exact ⟨h.kept.trans hafter.kept, hafter.standing⟩
      · exact guards_refuse h _

/-! ## Runs -/

theorem guards_step (h : Standing root) (call : Call) :
    Kept root (step root call) ∧ Standing (step root call) := by
  have hstart : Guards root root.start := ⟨.refl root, h⟩
  have hafter : Guards root (call.outcome root).2 := guards_raydioctl call.command hstart
  exact ⟨hafter.kept, hafter.standing⟩

/-- Before anything is installed there are no links. -/
theorem standing_fresh : Standing .fresh where
  current _ h := by cases h
  previous _ h := by cases h
  next _ h := by cases h

theorem standing_run (calls : List Call) : Standing (run calls) :=
  Runs.run_invariant Standing (fun _ call h => (guards_step h call).2) standing_fresh

/-- Whichever commands are called and wherever they are killed, every link points to a
release that is there, and whatever is called later, every release stays as it was
checked. -/
theorem run_releases (calls later : List Call) :
    Standing (run calls) ∧ Kept (run calls) (run (calls ++ later)) := by
  refine ⟨standing_run calls, ?_⟩
  induction later using List.reverseRecOn with
  | nil =>
      rw [List.append_nil]
      exact .refl _
  | append_singleton later call ih =>
      have hstep : run (calls ++ (later ++ [call])) = step (run (calls ++ later)) call := by
        rw [← List.append_assoc, run, Runs.run_concat]
        rfl
      rw [hstep]
      exact ih.trans (guards_step (standing_run _) call).1

end Raydio.Deploy
