/-
# What the outside does while a session waits

`Later` relates two shared states of one run. `Drifts` adds that the backend's
player is the same, unless the backend ended its track and emitted the terminal
event. Every call that does not steer the player drifts; an accepted update is a
drift on either side of its effect.
-/

import Raydio.Session.Run

namespace Raydio.Session

open Raydio.Foundation Raydio.Playback Raydio.Voice Raydio.Views Raydio.Discord Raydio.Node

/-- The node stays ready and refuses at most updates that start a track. -/
structure Moment.Steady (moment : Moment) : Prop where
  ready : ∀ health ∈ moment.health, health.ready = true
  refusal : moment.refusal ≠ .everything

theorem Moment.steady_quiet : Moment.quiet.Steady :=
  ⟨(fun _ h => by cases h), (fun h => by cases h)⟩

namespace Shared

/-- The node is ready, and stays so along the script. -/
structure Steady (shared : Shared) : Prop where
  ready : shared.health.ready = true
  script : ∀ moment ∈ shared.script, moment.Steady

/-- `after` follows `before` in a run. -/
structure Later (before after : Shared) : Prop where
  config : after.config = before.config
  script : after.script <:+ before.script
  steady : before.Steady → after.Steady

theorem Later.refl (self : Shared) : Later self self := ⟨rfl, List.suffix_rfl, id⟩

theorem Later.trans {first second third : Shared} (h : Later first second)
    (h' : Later second third) : Later first third :=
  ⟨h'.config.trans h.config, h'.script.trans h.script, fun hs => h'.steady (h.steady hs)⟩

/-- The backend left its player alone, or ended the player's track with one of the
terminal events that were emitted meanwhile. -/
def PlayerDrifts (before after : Option Player) (emitted : List Value) : Prop :=
  after = before ∨ ∃ encoded generation paused volume payload,
    before = some ⟨some (encoded, generation), paused, volume⟩ ∧
      after = some ⟨none, paused, volume⟩ ∧ payload ∈ emitted ∧
        endsGeneration payload generation = true

/-- Nothing but the outside moved. -/
structure Drifts (before after : Shared) : Prop extends Later before after where
  player : ∃ emitted, after.endings = before.endings ++ emitted ∧
    after.unhandled = before.unhandled ++ emitted ∧
      PlayerDrifts before.player after.player emitted

/-- A shared state with the same configuration, script, health, player and endings. -/
theorem Drifts.of_eq {before after : Shared} (config : after.config = before.config)
    (script : after.script = before.script) (health : after.health = before.health)
    (player : after.player = before.player) (endings : after.endings = before.endings)
    (unhandled : after.unhandled = before.unhandled) : Drifts before after where
  config := config
  script := script ▸ List.suffix_rfl
  steady := fun h => ⟨health ▸ h.ready, script ▸ h.script⟩
  player := ⟨[], by simp [endings], by simp [unhandled], Or.inl player⟩

theorem Drifts.refl (self : Shared) : Drifts self self :=
  .of_eq rfl rfl rfl rfl rfl rfl

theorem Drifts.trans {first second third : Shared} (h : Drifts first second)
    (h' : Drifts second third) : Drifts first third := by
  obtain ⟨emitted, hendings, hunhandled, hplayer⟩ := h.player
  obtain ⟨emitted', hendings', hunhandled', hplayer'⟩ := h'.player
  refine ⟨h.toLater.trans h'.toLater, emitted ++ emitted', ?_, ?_, ?_⟩
  · rw [hendings', hendings, List.append_assoc]
  · rw [hunhandled', hunhandled, List.append_assoc]
  · rcases hplayer with heq | ⟨encoded, generation, paused, volume, payload, hb, ha, hmem, hends⟩
    · rcases hplayer' with heq' | ⟨encoded, generation, paused, volume, payload, hb, ha, hmem,
        hends⟩
      · exact Or.inl (heq'.trans heq)
      · exact Or.inr ⟨encoded, generation, paused, volume, payload, heq ▸ hb, ha,
          List.mem_append_right _ hmem, hends⟩
    · rcases hplayer' with heq' | ⟨_, _, _, _, _, hb', -⟩
      · exact Or.inr ⟨encoded, generation, paused, volume, payload, hb, heq'.trans ha,
          List.mem_append_left _ hmem, hends⟩
      · rw [ha] at hb'
        cases hb'

/-! ## Moments -/

theorem drifts_endTrack (self : Shared) (ending : Option Value) :
    Drifts self (self.endTrack ending) := by
  unfold endTrack
  split
  · rename_i payload encoded generation paused volume hplayer
    split
    · rename_i hends
      exact ⟨⟨rfl, List.suffix_rfl, fun h => ⟨h.ready, h.script⟩⟩, [payload], rfl, rfl,
        Or.inr ⟨encoded, generation, paused, volume, payload, hplayer, rfl, by simp, hends⟩⟩
    · exact Drifts.refl self
  · exact Drifts.refl self

/-- A steady moment keeps the node ready. -/
theorem Steady.pass {self : Shared} {moment : Moment} (h : self.Steady) (hm : moment.Steady) :
    (self.pass moment).Steady := by
  have hafter := (self.drifts_endTrack moment.ending).steady h
  refine ⟨?_, hafter.script⟩
  show (moment.health.getD self.health).ready = true
  cases hhealth : moment.health with
  | none => exact h.ready
  | some health => exact hm.ready health hhealth

theorem drifts_pass {self : Shared} {moment : Moment} (h : self.Steady → moment.Steady) :
    Drifts self (self.pass moment) :=
  have hend := self.drifts_endTrack moment.ending
  ⟨⟨hend.config, hend.script, fun hs => hs.pass (h hs)⟩, hend.player⟩

/-- The first moment of a script passes. -/
theorem drifts_pop {self : Shared} {moment : Moment} {rest : List Moment}
    (h : self.script = moment :: rest) :
    Drifts self (({ self with script := rest } : Shared).pass moment) := by
  have hend := ({ self with script := rest } : Shared).drifts_endTrack moment.ending
  refine ⟨⟨hend.config, ?_, ?_⟩, hend.player⟩
  · have hrest : rest <:+ self.script := h ▸ List.suffix_cons moment rest
    exact hend.script.trans hrest
  · intro hsteady
    have hpopped : ({ self with script := rest } : Shared).Steady :=
      ⟨hsteady.ready, fun m hm => hsteady.script m (h ▸ List.mem_cons_of_mem moment hm)⟩
    exact hpopped.pass (hsteady.script moment (h ▸ List.mem_cons_self))

theorem drifts_suspend (self : Shared) : Drifts self self.suspend.2 := by
  rw [suspend]
  split
  · exact Drifts.refl self
  · rename_i hscript
    exact drifts_pop hscript

/-- A suspension returns a moment of the script, or a quiet one. -/
theorem suspend_moment (self : Shared) :
    self.suspend.1 ∈ self.script ∨ self.suspend.1 = .quiet := by
  rw [suspend]
  split
  · exact Or.inr rfl
  · rename_i hscript
    exact Or.inl (hscript ▸ List.mem_cons_self)

/-- What a steady node refuses is a track to start. -/
theorem Steady.refuses {self : Shared} (h : self.Steady) {startsTrack : Bool}
    (hrefuses : self.suspend.1.refusal.refuses startsTrack = true) : startsTrack = true := by
  have hmoment : self.suspend.1.refusal ≠ .everything := by
    rcases self.suspend_moment with hmem | hquiet
    · exact (h.script _ hmem).refusal
    · rw [hquiet]
      exact Moment.steady_quiet.refusal
  cases hr : self.suspend.1.refusal with
  | nothing => simp [hr, Refusal.refuses] at hrefuses
  | trackStarts => simpa [hr, Refusal.refuses] using hrefuses
  | everything => exact absurd hr hmoment

/-! ## Calls that do not steer the player -/

theorem drifts_record (self : Shared) (call : Call) : Drifts self (self.record call) :=
  .of_eq rfl rfl rfl rfl rfl rfl

theorem drifts_record_suspend (self : Shared) (call : Call) :
    Drifts self (self.record call).suspend.2 :=
  (self.drifts_record call).trans (drifts_suspend _)

theorem drifts_getPlayer (self : Shared) : Drifts self self.getPlayer.2 :=
  self.drifts_record_suspend _

theorem drifts_respond (self : Shared) (request : Request) (view : View) :
    Drifts self (self.respond request view).2 :=
  self.drifts_record_suspend _

theorem drifts_respondNoModel (self : Shared) (request : Request) (view : View) :
    Drifts self (self.respondNoModel request view).2 := by
  rw [respondNoModel]
  split
  · exact Drifts.refl self
  · exact self.drifts_record_suspend _

theorem drifts_error (self : Shared) (request : Request) (text : String) :
    Drifts self (self.error request text) := by
  have hfirst := self.drifts_respond request (View.text text)
  rw [error]
  split
  · exact self.drifts_record_suspend _
  · dsimp only
    split
    · exact hfirst.trans (drifts_respond _ _ _)
    · exact hfirst

theorem drifts_createMessage (self : Shared) (channel : ℕ) (text : String) :
    Drifts self (self.createMessage channel text) :=
  self.drifts_record_suspend _

theorem drifts_command (self : Shared) (channel : Option ℕ) :
    Drifts self (self.command channel).2 := by
  rw [command]
  split
  · exact self.drifts_record _
  · exact Drifts.refl self

/-- The cache is not looked at. -/
theorem drifts_cache (self : Shared) (cache : Cache) :
    Drifts self { self with cache := cache } :=
  .of_eq rfl rfl rfl rfl rfl rfl

theorem drifts_random (self : Shared) (random : List ℕ) :
    Drifts self { self with random := random } :=
  .of_eq rfl rfl rfl rfl rfl rfl

theorem drifts_ensureBotMembership (self : Shared) (guild : ℕ) :
    Drifts self (self.ensureBotMembership guild) := by
  rw [ensureBotMembership]
  split
  · dsimp only
    split
    · exact (self.drifts_record_suspend .member).trans (drifts_cache _ _)
    · exact self.drifts_record_suspend .member
  · exact Drifts.refl self

theorem script_pass (self : Shared) (moment : Moment) :
    (self.pass moment).script = self.script := by
  show (self.endTrack moment.ending).script = self.script
  unfold endTrack
  split
  · split <;> rfl
  · rfl

/-- Waiting for the voice handshake only lets time pass. -/
theorem drifts_awaitCredentials (guild channel : ℕ) (script : List Moment) (self : Shared)
    (h : self.script = script) :
    Drifts self (awaitCredentials guild channel script self).2 := by
  induction script generalizing self with
  | nil => exact Drifts.refl self
  | cons moment rest ih =>
      have hpop := drifts_pop h
      rw [awaitCredentials]
      split
      · exact Drifts.refl self
      · dsimp only
        split
        · exact hpop
        · exact hpop.trans (ih _ (script_pass _ moment))

/-! ## Steering the player -/

/-- The backend carried out an update. -/
def Applies (patch : Patch) (before after : Shared) : Prop :=
  ∃ session middle, Drifts before middle ∧ Drifts (middle.receive session patch true) after

/-- The backend carried out a deletion, unless the node was not ready or refused it. -/
def Destroys (before after : Shared) : Prop :=
  ∃ middle accepted, Drifts before middle ∧ (before.Steady → accepted = true) ∧
    Drifts (if accepted then { middle with player := none } else middle) after

theorem later_receive (self : Shared) (session : String) (patch : Patch) (accepted : Bool) :
    Later self (self.receive session patch accepted) :=
  ⟨rfl, List.suffix_rfl, fun h => ⟨h.ready, h.script⟩⟩

theorem Applies.later {patch : Patch} {before after : Shared} (h : Applies patch before after) :
    Later before after := by
  obtain ⟨session, middle, hbefore, hafter⟩ := h
  exact (hbefore.toLater.trans (middle.later_receive session patch true)).trans hafter.toLater

theorem Destroys.later {before after : Shared} (h : Destroys before after) :
    Later before after := by
  obtain ⟨middle, accepted, hbefore, -, hafter⟩ := h
  refine hbefore.toLater.trans (Later.trans ?_ hafter.toLater)
  cases accepted
  · exact Later.refl middle
  · exact ⟨rfl, List.suffix_rfl, fun h => ⟨h.ready, h.script⟩⟩

/-- An accepted update was carried out. -/
theorem applies_update {self : Shared} {patch : Patch} (h : (self.update patch).1 = true) :
    Applies patch self (self.update patch).2 := by
  rw [update] at h ⊢
  split at h
  · cases h
  · rename_i hready
    rw [if_neg hready]
    dsimp only at h ⊢
    rw [h]
    exact ⟨_, _, self.drifts_suspend, drifts_suspend _⟩

/-- A refused update had no effect. -/
theorem drifts_update {self : Shared} {patch : Patch} (h : (self.update patch).1 = false) :
    Drifts self (self.update patch).2 := by
  rw [update] at h ⊢
  split at h
  · rename_i hready
    rw [if_pos hready]
    exact Drifts.refl self
  · rename_i hready
    rw [if_neg hready]
    dsimp only at h ⊢
    rw [h]
    have hreceive : Drifts self.suspend.2
        (self.suspend.2.receive self.health.session patch false) :=
      .of_eq rfl rfl rfl rfl rfl rfl
    exact (self.drifts_suspend.trans hreceive).trans (drifts_suspend _)

/-- A steady node accepts every update that does not start a track. -/
theorem Steady.update {self : Shared} (h : self.Steady) {patch : Patch}
    (hpatch : patch.startsTrack = false) : (self.update patch).1 = true := by
  rw [Shared.update]
  rw [h.ready]
  simp only [Bool.not_true, Bool.false_eq_true, if_false, Bool.not_eq_true', hpatch]
  by_contra hrefused
  have := h.refuses (Bool.of_not_eq_false hrefused)
  cases this

theorem destroys_destroy (self : Shared) : Destroys self self.destroy := by
  rw [destroy]
  split
  · rename_i hready
    refine ⟨self, false, Drifts.refl self, ?_, Drifts.refl self⟩
    intro hsteady
    rw [hsteady.ready] at hready
    cases hready
  · refine ⟨self.suspend.2, !(self.suspend.1.refusal.refuses false), self.drifts_suspend, ?_, ?_⟩
    · intro hsteady
      by_contra hrefused
      have := hsteady.refuses (by simpa using hrefused)
      cases this
    · dsimp only
      refine Drifts.trans ?_ (drifts_suspend _)
      split
      · rename_i haccepted
        exact .of_eq rfl rfl rfl (by simp [receiveDestroy, haccepted]) rfl rfl
      · rename_i hrefused
        exact .of_eq rfl rfl rfl (by simp [receiveDestroy, hrefused]) rfl rfl

end Shared

end Raydio.Session
