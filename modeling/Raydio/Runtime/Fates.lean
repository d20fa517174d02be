/-
# Whether interactions are served

An interaction is served unless its worker leaves while it waits, or had left when it
came. The moves that end the service of an interaction are named first; every other move
keeps it served, and brings it forward in its mailbox or leaves it where it is.
-/

import Raydio.Runtime.Mailboxes

namespace Raydio.Runtime

open Raydio.Foundation

variable {loop : Loop} {actor : Actor} {channel index : ℕ} {message : Message}
  {first second third : Loop} {ticket : Ticket}

/-! ## Moves -/

/-- The move does not end the service of the interaction: its worker does not leave while
it waits, and had not left when it came. -/
def Sheltered (index : ℕ) (self : Tracked) (move : Move) : Prop :=
  match move with
  | .loop (.leave position) => self.loop.ending = none →
      ∀ actor, self.loop.actors[position]? = some actor → self.leaves actor = true →
        ∀ ticket, self.tickets[index]? = some ticket → ¬ ticket.waitsAt actor.channel
  | .loop (.gateway (some (some event))) => self.loop.ending = none →
      self.tickets.length = index → ∀ ticket, self.loop.accepted event = some ticket →
        ∀ actor, self.loop.worker ticket.channel = some actor → actor.phase = .running
  | _ => True

/-- The loop is sound, and the accepted interactions are where they should be. -/
structure Orderly (tracked : Tracked) : Prop where
  sound : Sound tracked.loop
  housed : ∀ ticket ∈ tracked.tickets, Housed tracked.loop ticket

/-- The interaction is served, if it was accepted. -/
def Tracked.Serves (self : Tracked) (index : ℕ) : Prop :=
  ∀ ticket, self.tickets[index]? = some ticket → Served self.loop ticket

variable {self : Tracked}

/-- What is to be shown of a move: the interactions are where they should be, and one is
served exactly if it was and the move shelters it. -/
structure Settled (tracked : Tracked) (move : Move) : Prop where
  housed : ∀ ticket ∈ (tracked.step move).tickets, Housed (tracked.step move).loop ticket
  serves : ∀ index, (tracked.step move).Serves index ↔
    tracked.Serves index ∧ Sheltered index tracked move

/-- A move that changes each ticket on its own. -/
theorem Settled.of_map {move : Move} (change : ℕ → Ticket → Ticket)
    (hsheltered : ∀ index, Sheltered index self move)
    (htickets : ∀ index : ℕ, (self.step move).tickets[index]? =
      (self.tickets[index]?).map (change index))
    (hchange : ∀ index, ∀ ticket ∈ self.tickets,
      Housed (self.step move).loop (change index ticket) ∧
        (Served (self.step move).loop (change index ticket) ↔ Served self.loop ticket)) :
    Settled self move where
  housed := by
    intro ticket hmem
    obtain ⟨index, hindex⟩ := List.mem_iff_getElem?.mp hmem
    rw [htickets] at hindex
    obtain ⟨before, hbefore, rfl⟩ := Option.map_eq_some_iff.mp hindex
    exact (hchange index before (List.mem_of_getElem? hbefore)).1
  serves := by
    intro index
    rw [and_iff_left (hsheltered index), Tracked.Serves, Tracked.Serves, htickets]
    simp only [Option.map_eq_some_iff]
    constructor
    · intro h ticket hticket
      exact (hchange index ticket (List.mem_of_getElem? hticket)).2.mp (h _ ⟨ticket, hticket, rfl⟩)
    · rintro h _ ⟨ticket, hticket, rfl⟩
      exact (hchange index ticket (List.mem_of_getElem? hticket)).2.mpr (h ticket hticket)

/-- A move that changes nothing about the workers that are not over. -/
theorem Settled.of_keeps {move : Move} (h : Orderly self)
    (hsheltered : ∀ index, Sheltered index self move)
    (htickets : (self.step move).tickets = self.tickets)
    (hkeeps : Keeps self.loop (self.step move).loop) : Settled self move := by
  apply Settled.of_map (fun _ ticket => ticket) hsheltered
  · intro index
    rw [htickets, Option.map_id']
  · intro _ ticket hmem
    exact ⟨hkeeps.housed (h.housed ticket hmem), hkeeps.served_iff (h.housed ticket hmem)⟩

theorem Settled.of_eq {move : Move} (h : Orderly self)
    (hsheltered : ∀ index, Sheltered index self move) (heq : self.step move = self) :
    Settled self move := by
  apply Settled.of_keeps h hsheltered
  · rw [heq]
  · rw [heq]
    exact (Grows.of_eq rfl).keeps

/-- A move that changes all tickets in one way. -/
theorem Settled.of_each {move : Move} {loop : Loop} (change : Ticket → Ticket)
    (hsheltered : ∀ index, Sheltered index self move)
    (hstep : self.step move = ⟨loop, self.tickets.map change⟩)
    (hchange : ∀ ticket ∈ self.tickets, Housed loop (change ticket) ∧
      (Served loop (change ticket) ↔ Served self.loop ticket)) : Settled self move := by
  apply Settled.of_map (fun _ => change) hsheltered
  · intro index
    rw [hstep]
    exact List.getElem?_map
  · intro _ ticket hmem
    rw [hstep]
    exact hchange ticket hmem

/-- A move that changes one ticket, of the fate that it had. -/
theorem Settled.of_modify {move : Move} (h : Orderly self) (index : ℕ)
    (change : Ticket → Ticket) (hsheltered : ∀ index, Sheltered index self move)
    (hstep : self.step move = { self with tickets := self.tickets.modify index change })
    (hsame : ∀ ticket ∈ self.tickets, Housed self.loop (change ticket) ∧
      (Served self.loop (change ticket) ↔ Served self.loop ticket)) : Settled self move := by
  apply Settled.of_map (fun position ticket =>
    if index = position then change ticket else ticket) hsheltered
  · intro position
    rw [hstep]
    exact List.getElem?_modify _ _ _ _
  · intro position ticket hmem
    rw [hstep]
    split
    · exact hsame ticket hmem
    · exact ⟨h.housed ticket hmem, Iff.rfl⟩

/-- A move of the worker at a place, which changes all tickets in one way if it happens. -/
theorem Settled.of_worker {move : Move} {loop : Loop} {position : ℕ} {moves : Actor → Prop}
    [DecidablePred moves] (h : Orderly self) (change : Actor → Ticket → Ticket)
    (hstep : self.step move =
      match self.loop.actors[position]? with
      | some actor => if moves actor then ⟨loop, self.tickets.map (change actor)⟩ else self
      | none => self)
    (hsheltered : ∀ index, Sheltered index self move)
    (hchange : ∀ actor, self.loop.actors[position]? = some actor → moves actor →
      ∀ ticket ∈ self.tickets, Housed loop (change actor ticket) ∧
        (Served loop (change actor ticket) ↔ Served self.loop ticket)) : Settled self move := by
  cases hat : self.loop.actors[position]? with
  | none =>
      rw [hat] at hstep
      exact .of_eq h hsheltered hstep
  | some actor =>
      rw [hat] at hstep
      dsimp only at hstep
      split at hstep
      · rename_i hmoves
        exact .of_each (change actor) hsheltered hstep (hchange actor hat hmoves)
      · exact .of_eq h hsheltered hstep

theorem Orderly.acknowledge (h : Orderly self) (index : ℕ) (confirmed : Bool) :
    Settled self (.acknowledge index confirmed) := by
  have hsame : ∀ ticket ∈ self.tickets, Housed self.loop (ticket.acknowledge confirmed) ∧
      (Served self.loop (ticket.acknowledge confirmed) ↔ Served self.loop ticket) := by
    intro ticket hmem
    have hhoused := h.housed ticket hmem
    rw [Ticket.acknowledge]
    split
    · rename_i hopen
      unfold Housed at hhoused
      unfold Housed Served
      cases hfate : ticket.fate with
      | discarded =>
          rw [hfate, hopen] at hhoused
          cases hhoused
      | waiting position => simpa [hfate] using hhoused
      | taken => simpa [hfate] using hhoused
      | handled => simp
      | lost => simp
    · exact ⟨hhoused, Iff.rfl⟩
  exact .of_modify h index _ (fun _ => trivial) rfl hsame

theorem Orderly.settle (h : Orderly self) (index : ℕ) : Settled self (.settle index) := by
  have hsame : ∀ ticket ∈ self.tickets, Housed self.loop ticket.settle ∧
      (Served self.loop ticket.settle ↔ Served self.loop ticket) := by
    intro ticket hmem
    have hhoused := h.housed ticket hmem
    rw [Ticket.settle]
    split
    · rename_i hfate _
      unfold Housed at hhoused
      rw [hfate] at hhoused
      unfold Housed Served
      simpa [hfate] using hhoused
    · rename_i hfate hrefused
      unfold Housed at hhoused
      rw [hfate] at hhoused
      unfold Housed Served
      simpa [hfate, hrefused] using hhoused
    · exact ⟨hhoused, Iff.rfl⟩
  exact .of_modify h index _ (fun _ => trivial) rfl hsame

theorem Tracked.step_running (hrunning : self.loop.ending = none) (event : Event) :
    self.step (.loop event) = self.advance event := by
  simp [step, hrunning]

theorem Orderly.receive (h : Orderly self) (hrunning : self.loop.ending = none) (position : ℕ) :
    Settled self (.loop (.receive position)) := by
  have hloop : self.loop.step (.receive position) = self.loop.receive position := by
    simp [Loop.step, hrunning]
  apply Settled.of_worker h (fun actor ticket => ticket.advance actor.channel)
    (Tracked.step_running hrunning (.receive position)) (fun _ => trivial)
  intro actor hat hreceives ticket hmem
  have hphase : actor.phase = .running := by
    simp only [Tracked.receives, Bool.and_eq_true, decide_eq_true_eq] at hreceives
    exact hreceives.1.1
  rw [hloop]
  exact (h.sound hrunning).ticket_received hat hphase (h.housed ticket hmem)

theorem Orderly.leave (h : Orderly self) (hrunning : self.loop.ending = none) (position : ℕ) :
    Settled self (.loop (.leave position)) := by
  have hstep := Tracked.step_running hrunning (.leave position)
  have hloop : self.loop.step (.leave position) = self.loop.leave position := by
    simp [Loop.step, hrunning]
  unfold Tracked.advance at hstep
  dsimp only at hstep
  cases hat : self.loop.actors[position]? with
  | none =>
      rw [hat] at hstep
      apply Settled.of_eq h _ hstep
      intro index _ actor hactor
      rw [hat] at hactor
      cases hactor
  | some actor =>
      rw [hat, hloop] at hstep
      dsimp only at hstep
      split at hstep
      · rename_i hleaves
        have hparts := hleaves
        simp only [Tracked.leaves, Bool.and_eq_true, Bool.not_eq_true', decide_eq_true_eq] at hparts
        obtain ⟨⟨hphase, hfree⟩, hgone⟩ := hparts
        have hleft : (actor.phase = .running &&
            (self.loop.cancelled || !self.loop.cached actor.guild)) = true := by
          simp [hphase, hgone]
        have hidle : ∀ ticket ∈ self.tickets, ticket.channel = actor.channel →
            ticket.fate ≠ .taken := by
          intro ticket hmem hchannel htaken
          have hnone := List.any_eq_false.mp hfree ticket hmem
          simp [hchannel, htaken] at hnone
        have hticket : ∀ ticket ∈ self.tickets, _ := fun ticket hmem =>
          (h.sound hrunning).ticket_left hat hleft (hidle ticket hmem) (h.housed ticket hmem)
        constructor
        · intro ticket hmem
          rw [hstep] at hmem ⊢
          exact (hticket ticket hmem).1
        · intro index
          rw [hstep]
          constructor
          · intro hserves
            constructor
            · intro ticket hindex
              exact ((hticket ticket (List.mem_of_getElem? hindex)).2.mp (hserves ticket hindex)).1
            · intro _ other hother _ ticket hindex
              rw [hat, Option.some_inj] at hother
              subst hother
              exact ((hticket ticket (List.mem_of_getElem? hindex)).2.mp (hserves ticket hindex)).2
          · rintro ⟨hserves, hsheltered⟩ ticket hindex
            exact (hticket ticket (List.mem_of_getElem? hindex)).2.mpr
              ⟨hserves ticket hindex, hsheltered hrunning actor hat hleaves ticket hindex⟩
      · rename_i hstays
        apply Settled.of_eq h _ hstep
        intro index _ other hother hleaves
        rw [hat, Option.some_inj] at hother
        subst hother
        exact absurd hleaves hstays

theorem Orderly.exit (h : Orderly self) (hrunning : self.loop.ending = none) (position : ℕ) :
    Settled self (.loop (.exit position)) := by
  have hloop : self.loop.step (.exit position) = self.loop.exit position := by
    simp [Loop.step, hrunning]
  apply Settled.of_worker h (fun actor ticket => ticket.drop actor.channel)
    (Tracked.step_running hrunning (.exit position)) (fun _ => trivial)
  intro actor hat hphase ticket hmem
  rw [hloop]
  exact (h.sound hrunning).ticket_exited hat hphase (h.housed ticket hmem)

theorem Orderly.gateway (h : Orderly self) (hrunning : self.loop.ending = none)
    (event : GatewayEvent) : Settled self (.loop (.gateway (some (some event)))) := by
  have hstep := Tracked.step_running hrunning (.gateway (some (some event)))
  have hloop : self.loop.step (.gateway (some (some event))) = self.loop.gatewayEvent event := by
    simp [Loop.step, hrunning]
  unfold Tracked.advance at hstep
  dsimp only at hstep
  rw [hloop] at hstep
  have hkeeps := (grows_gatewayEvent self.loop event).keeps
  have hticket : ∀ ticket, self.loop.accepted event = some ticket → _ :=
    fun ticket haccepted => (h.sound hrunning).ticket_accepted event haccepted
  constructor
  · intro ticket hmem
    rw [hstep] at hmem ⊢
    rcases List.mem_append.mp hmem with hold | hnew
    · exact hkeeps.housed (h.housed ticket hold)
    · exact (hticket ticket (Option.mem_toList.mp hnew)).1
  · intro index
    rw [hstep]
    by_cases hknown : index < self.tickets.length
    · have hold : ∀ ticket, self.tickets[index]? = some ticket →
          (Served (self.loop.gatewayEvent event) ticket ↔ Served self.loop ticket) :=
        fun ticket hindex => hkeeps.served_iff (h.housed ticket (List.mem_of_getElem? hindex))
      unfold Tracked.Serves
      rw [List.getElem?_append_left hknown]
      constructor
      · intro hserves
        constructor
        · intro ticket hindex
          exact (hold ticket hindex).mp (hserves ticket hindex)
        · intro _ hlength
          omega
      · rintro ⟨hserves, -⟩ ticket hindex
        exact (hold ticket hindex).mpr (hserves ticket hindex)
    · have hbefore : self.Serves index := by
        intro ticket hindex
        rw [List.getElem?_eq_none (Nat.le_of_not_lt hknown)] at hindex
        cases hindex
      rw [and_iff_right hbefore]
      unfold Tracked.Serves
      rw [List.getElem?_append_right (Nat.le_of_not_lt hknown)]
      constructor
      · intro hserves _ hlength ticket haccepted
        apply (hticket ticket haccepted).2.mp
        apply hserves
        simp [haccepted, hlength]
      · intro hsheltered ticket hindex
        cases haccepted : self.loop.accepted event with
        | none => simp [haccepted] at hindex
        | some fresh =>
            rw [haccepted, Option.toList_some, List.getElem?_singleton] at hindex
            split at hindex
            · rename_i hzero
              cases hindex
              exact (hticket ticket haccepted).2.mpr
                (hsheltered hrunning (by omega) ticket haccepted)
            · cases hindex

/-- An event of the loop that no ticket notices. -/
theorem Orderly.plain (h : Orderly self) (hrunning : self.loop.ending = none) {event : Event}
    (hadvance : self.advance event = ⟨self.loop.step event, self.tickets⟩)
    (hsheltered : ∀ index, Sheltered index self (.loop event))
    (hkeeps : Keeps self.loop (self.loop.step event)) : Settled self (.loop event) := by
  have hstep := (Tracked.step_running hrunning event).trans hadvance
  apply Settled.of_keeps h hsheltered
  · rw [hstep]
  · rw [hstep]
    exact hkeeps

/-- A node event moves no worker. -/
theorem grows_nodeEvent (loop : Loop) (event : NodeEvent) : Grows loop (loop.nodeEvent event) := by
  cases event with
  | invalidated => exact grows_dispatch _ _ _ _
  | connected => exact grows_dispatch _ _ _ _
  | payload payload => exact grows_dispatch _ _ _ _

/-- Every event of a loop that runs, without a panic, settles the interactions. -/
theorem Orderly.event (h : Orderly self) (hrunning : self.loop.ending = none) (event : Event)
    (hcalm : ∀ index, event ≠ .crash index) : Settled self (.loop event) := by
  have hsame : ∀ event, (self.loop.step event).actors = self.loop.actors →
      Keeps self.loop (self.loop.step event) := fun event heq => (Grows.of_eq heq).keeps
  cases event with
  | receive position => exact h.receive hrunning position
  | leave position => exact h.leave hrunning position
  | exit position => exact h.exit hrunning position
  | crash position => exact absurd rfl (hcalm position)
  | shutdown =>
      exact h.plain hrunning rfl (fun _ => trivial) (hsame _ (by simp [Loop.step, hrunning]))
  | cancelled =>
      have hactors : (self.loop.step .cancelled).actors = self.loop.actors := by
        simp only [Loop.step, hrunning]
        split_ifs <;> rfl
      exact h.plain hrunning rfl (fun _ => trivial) (hsame _ hactors)
  | joinJob =>
      exact h.plain hrunning rfl (fun _ => trivial) (hsame _ (by simp [Loop.step, hrunning]))
  | joinRejection =>
      exact h.plain hrunning rfl (fun _ => trivial) (hsame _ (by simp [Loop.step, hrunning]))
  | reap position =>
      have hloop : self.loop.step (.reap position) = self.loop.reap position := by
        simp [Loop.step, hrunning]
      have hkeeps : Keeps self.loop (self.loop.step (.reap position)) := by
        rw [hloop]
        intro channel actor hworker hlistening
        exact ⟨actor, (h.sound hrunning).worker_reap position hworker hlistening, .refl actor⟩
      exact h.plain hrunning rfl (fun _ => trivial) hkeeps
  | node event =>
      cases event with
      | none =>
          exact h.plain hrunning rfl (fun _ => trivial)
            (hsame _ (by simp [Loop.step, hrunning, Loop.finish]))
      | some event =>
          have hkeeps : Keeps self.loop (self.loop.step (.node (some event))) := by
            have hloop : self.loop.step (.node (some event)) = self.loop.nodeEvent event := by
              simp [Loop.step, hrunning]
            rw [hloop]
            exact (grows_nodeEvent self.loop event).keeps
          exact h.plain hrunning rfl (fun _ => trivial) hkeeps
  | gateway event =>
      rcases event with _ | _ | event
      · exact h.plain hrunning rfl (fun _ => trivial)
          (hsame _ (by simp [Loop.step, hrunning, Loop.finish]))
      · exact h.plain hrunning rfl (fun _ => trivial) (hsame _ (by simp [Loop.step, hrunning]))
      · exact h.gateway hrunning event

/-- Every move of a run without panics settles the interactions. -/
theorem Orderly.settled (h : Orderly self) (move : Move)
    (hcalm : ∀ index, move ≠ .loop (.crash index)) : Settled self move := by
  cases move with
  | acknowledge index confirmed => exact h.acknowledge index confirmed
  | settle index => exact h.settle index
  | loop event =>
      cases hending : self.loop.ending with
      | some ending =>
          have hsame : self.step (.loop event) = self := by simp [Tracked.step, hending]
          apply Settled.of_eq h _ hsame
          intro index
          unfold Sheltered
          split
          · rename_i heq
            intro hrunning
            rw [hending] at hrunning
            cases hrunning
          · rename_i heq
            intro hrunning
            rw [hending] at hrunning
            cases hrunning
          · trivial
      | none =>
          apply h.event hending
          rintro index rfl
          exact hcalm index rfl

/-- The loop makes its step, or a worker is not free to. -/
theorem Tracked.advance_loop (self : Tracked) (event : Event) :
    (self.advance event).loop = self.loop ∨
      (self.advance event).loop = self.loop.step event := by
  unfold advance
  split
  case h_5 => exact .inr rfl
  case h_6 => exact .inr rfl
  all_goals
    split
    · split
      · exact .inr rfl
      · exact .inl rfl
    · exact .inl rfl

theorem Tracked.step_loop (self : Tracked) (move : Move) :
    (self.step move).loop = self.loop ∨ ∃ event, (self.step move).loop = self.loop.step event := by
  cases move with
  | acknowledge index confirmed => exact .inl rfl
  | settle index => exact .inl rfl
  | loop event =>
      rw [step]
      split
      · exact .inl rfl
      · exact (self.advance_loop event).imp_right fun heq => ⟨event, heq⟩

theorem Orderly.step (h : Orderly self) (move : Move)
    (hcalm : ∀ index, move ≠ .loop (.crash index)) : Orderly (self.step move) where
  sound := by
    rcases self.step_loop move with hloop | ⟨event, hloop⟩
    · rw [hloop]
      exact h.sound
    · rw [hloop]
      exact h.sound.step event
  housed := (h.settled move hcalm).housed

theorem orderly_start : Orderly .start where
  sound := fun _ => linked_start
  housed := by
    intro ticket hmem
    cases hmem

/-! ## How interactions come forward -/

namespace Tracked

/-- In this move the worker at the end of the channel takes a message. -/
def takes (self : Tracked) (channel : ℕ) : Move → Bool
  | .loop (.receive index) => self.loop.ending.isNone && (self.loop.actors[index]?).any fun actor =>
      actor.channel = channel && self.receives actor
  | _ => false

/-- How many messages the worker at the end of the channel takes. -/
def receipts (channel : ℕ) : Tracked → List Move → ℕ
  | _, [] => 0
  | self, move :: rest =>
      (if self.takes channel move then 1 else 0) + receipts channel (self.step move) rest

/-- A ticket that waits after a move was as far back before it as the worker came. -/
def Forward (taken : Bool) (before after : Ticket) : Prop :=
  after.channel = before.channel ∧ ∀ position, after.fate = .waiting position →
    before.fate = .waiting (position + if taken then 1 else 0)

theorem forward_refl (ticket : Ticket) : Forward false ticket ticket :=
  ⟨rfl, fun _ hfate => by simpa using hfate⟩

theorem forward_acknowledge (ticket : Ticket) (confirmed : Bool) :
    Forward false ticket (ticket.acknowledge confirmed) := by
  rw [Ticket.acknowledge]
  split
  · exact ⟨rfl, fun _ hfate => by simpa using hfate⟩
  · exact forward_refl ticket

theorem forward_settle (ticket : Ticket) : Forward false ticket ticket.settle := by
  rw [Ticket.settle]
  split
  · exact ⟨rfl, fun _ hfate => by cases hfate⟩
  · exact ⟨rfl, fun _ hfate => by cases hfate⟩
  · exact forward_refl ticket

theorem forward_drop (ticket : Ticket) (channel : ℕ) :
    Forward false ticket (ticket.drop channel) := by
  rw [Ticket.drop]
  split
  · split
    · exact ⟨rfl, fun _ hfate => by cases hfate⟩
    · exact ⟨rfl, fun _ hfate => by cases hfate⟩
    · exact forward_refl ticket
  · exact forward_refl ticket

theorem forward_advance (ticket : Ticket) (channel : ℕ) :
    Forward (decide (channel = ticket.channel)) ticket (ticket.advance channel) := by
  rw [Ticket.advance]
  by_cases hchannel : ticket.channel = channel
  · rw [if_pos hchannel, decide_eq_true hchannel.symm]
    split
    · exact ⟨rfl, fun _ hfate => by cases hfate⟩
    · rename_i position hfate
      refine ⟨rfl, fun other hother => ?_⟩
      cases hother
      exact hfate
    · rename_i hzero hsucc
      refine ⟨rfl, fun other hother => ?_⟩
      cases other with
      | zero => exact absurd hother hzero
      | succ other => exact absurd hother (hsucc other)
  · rw [if_neg hchannel, decide_eq_false fun heq => hchannel heq.symm]
    exact forward_refl ticket

theorem forward_receive (hrunning : self.loop.ending = none) (position : ℕ)
    (hticket : self.tickets[index]? = some ticket) :
    ∃ after, (self.advance (.receive position)).tickets[index]? = some after ∧
      Forward (self.takes ticket.channel (.loop (.receive position))) ticket after := by
  rw [takes, hrunning]
  unfold advance
  dsimp only
  cases self.loop.actors[position]? with
  | none => exact ⟨ticket, hticket, forward_refl ticket⟩
  | some actor =>
      dsimp only
      by_cases hreceives : self.receives actor = true
      · rw [if_pos hreceives, List.getElem?_map, hticket]
        refine ⟨_, rfl, ?_⟩
        simpa [hreceives] using forward_advance ticket actor.channel
      · rw [if_neg hreceives]
        refine ⟨ticket, hticket, ?_⟩
        simpa [hreceives] using forward_refl ticket

/-- An event of the loop brings a ticket forward by the message its worker takes. -/
theorem forward_event (hrunning : self.loop.ending = none) (event : Event)
    (hticket : self.tickets[index]? = some ticket) :
    ∃ after, (self.advance event).tickets[index]? = some after ∧
      Forward (self.takes ticket.channel (.loop event)) ticket after := by
  have hdrop : ∀ channel, ∃ after, (self.tickets.map fun ticket => ticket.drop channel)[index]? =
      some after ∧ Forward false ticket after := by
    intro channel
    rw [List.getElem?_map, hticket]
    exact ⟨_, rfl, forward_drop ticket channel⟩
  have hkept : ∃ after, self.tickets[index]? = some after ∧ Forward false ticket after :=
    ⟨ticket, hticket, forward_refl ticket⟩
  cases event with
  | receive position => exact forward_receive hrunning position hticket
  | leave position =>
      unfold advance
      dsimp only
      split
      · split <;> exact hkept
      · exact hkept
  | exit position =>
      unfold advance
      dsimp only
      split
      · split
        · exact hdrop _
        · exact hkept
      · exact hkept
  | crash position =>
      unfold advance
      dsimp only
      split
      · split
        · exact hdrop _
        · exact hkept
      · exact hkept
  | gateway event =>
      rcases event with _ | _ | event
      · exact hkept
      · exact hkept
      · refine ⟨ticket, ?_, forward_refl ticket⟩
        show (self.tickets ++ _)[index]? = some ticket
        rw [List.getElem?_append_left (List.getElem?_eq_some_iff.mp hticket).1, hticket]
  | _ => exact hkept

/-- Every move brings a ticket forward by the message its worker takes. -/
theorem forward_step (move : Move) (hticket : self.tickets[index]? = some ticket) :
    ∃ after, (self.step move).tickets[index]? = some after ∧
      Forward (self.takes ticket.channel move) ticket after := by
  have hmodify : ∀ position (change : Ticket → Ticket),
      (∀ ticket, Forward false ticket (change ticket)) →
      ∃ after, (self.tickets.modify position change)[index]? = some after ∧
        Forward false ticket after := by
    intro position change hchange
    rw [List.getElem?_modify, hticket]
    refine ⟨_, rfl, ?_⟩
    split
    · exact hchange ticket
    · exact forward_refl ticket
  cases move with
  | acknowledge position confirmed => exact hmodify _ _ fun t => forward_acknowledge t confirmed
  | settle position => exact hmodify _ _ forward_settle
  | loop event =>
      cases hending : self.loop.ending with
      | some ending =>
          have hstopped : self.takes ticket.channel (.loop event) = false := by
            unfold takes
            split
            · simp [hending]
            · rfl
          have hsame : self.step (.loop event) = self := by simp [step, hending]
          rw [hstopped, hsame]
          exact ⟨ticket, hticket, forward_refl ticket⟩
      | none =>
          rw [step_running hending]
          exact forward_event hending event hticket

/-- The same for several moves. -/
theorem position_run (moves : List Move) (hticket : self.tickets[index]? = some ticket) :
    ∃ after, (Runs.run step self moves).tickets[index]? = some after ∧
      after.channel = ticket.channel ∧ ∀ position, after.fate = .waiting position →
        ticket.fate = .waiting (position + receipts ticket.channel self moves) := by
  induction moves generalizing self ticket with
  | nil => exact ⟨ticket, hticket, rfl, fun _ h => h⟩
  | cons move rest ih =>
      obtain ⟨middle, hmiddle, hchannel, hfirst⟩ := forward_step move hticket
      obtain ⟨after, hafter, hchannel', hrest⟩ := ih hmiddle
      refine ⟨after, hafter, hchannel'.trans hchannel, ?_⟩
      intro position hfate
      have hbefore := hfirst _ (hrest position hfate)
      rw [hbefore, receipts, hchannel]
      congr 1
      omega

end Tracked

/-! ## Runs -/

open Runs

variable {moves : List Move}

theorem orderly_run (hcalm : ∀ index, Move.loop (.crash index) ∉ moves) :
    Orderly (run Tracked.step .start moves) := by
  induction moves using List.reverseRecOn with
  | nil => exact orderly_start
  | append_singleton moves move ih =>
      rw [run_concat]
      apply Orderly.step
      · exact ih fun index hmem => hcalm index (List.mem_append_left _ hmem)
      · rintro index rfl
        exact hcalm index (by simp)

/-- In a run without panics an accepted interaction is served exactly if every move
shelters it. -/
theorem serves_iff (index : ℕ) (hcalm : ∀ index, Move.loop (.crash index) ∉ moves) :
    (run Tracked.step .start moves).Serves index ↔
      Along Tracked.step (Sheltered index) .start moves := by
  induction moves using List.reverseRecOn with
  | nil =>
      constructor
      · intro _
        exact along_nil _ _ _
      · intro _ ticket hticket
        cases hticket
  | append_singleton moves move ih =>
      have hbefore : ∀ index, Move.loop (.crash index) ∉ moves := fun index hmem =>
        hcalm index (List.mem_append_left _ hmem)
      have hmove : ∀ index, move ≠ .loop (.crash index) := by
        rintro index rfl
        exact hcalm index (by simp)
      rw [run_concat, ((orderly_run hbefore).settled move hmove).serves, ih hbefore, along_concat]

/-- An accepted interaction is taken care of in a run: it is served, and whenever it waited,
it was out of the mailbox once the worker had taken more messages than were before it. -/
structure CaredFor (moves : List Move) (index : ℕ) : Prop where
  serves : (run Tracked.step .start moves).Serves index
  taken : ∀ before more, moves = before ++ more → ∀ ticket position,
    (run Tracked.step .start before).tickets[index]? = some ticket →
    ticket.fate = .waiting position →
    position < Tracked.receipts ticket.channel (run Tracked.step .start before) more →
    ∀ after, (run Tracked.step .start moves).tickets[index]? = some after →
      ∀ position, after.fate ≠ .waiting position

theorem caredFor_iff (index : ℕ) (hcalm : ∀ index, Move.loop (.crash index) ∉ moves) :
    CaredFor moves index ↔ Along Tracked.step (Sheltered index) .start moves := by
  rw [← serves_iff index hcalm]
  constructor
  · exact CaredFor.serves
  · intro hserves
    refine ⟨hserves, ?_⟩
    rintro before more rfl ticket position hticket hfate hmany after hafter other hwaits
    have hsplit : run Tracked.step .start (before ++ more) =
        run Tracked.step (run Tracked.step .start before) more := List.foldl_append
    obtain ⟨same, hsame, -, hforward⟩ := Tracked.position_run more hticket
    rw [hsplit, hsame, Option.some_inj] at hafter
    subst hafter
    have hposition := hforward other hwaits
    rw [hfate, Fate.waiting.injEq] at hposition
    omega

/-- In a run without panics the interactions with a confirmed acknowledgement are taken care
of exactly if every move shelters them. -/
theorem run_cares_iff (moves : List Move) (hcalm : ∀ index, Move.loop (.crash index) ∉ moves) :
    (∀ index ticket, (run Tracked.step .start moves).tickets[index]? = some ticket →
        ticket.acknowledged = some true → CaredFor moves index) ↔
      ∀ index ticket, (run Tracked.step .start moves).tickets[index]? = some ticket →
        ticket.acknowledged = some true →
        Along Tracked.step (Sheltered index) .start moves := by
  apply forall₄_congr
  intro index _ _ _
  exact caredFor_iff index hcalm

/-- A guild uses the bot: its interaction is taken, acknowledged and handled. -/
def visit : List Move :=
  [.loop (.gateway (some (some ⟨[(1, true)], none, some ⟨some 1, .handled, false⟩⟩))),
    .loop (.receive 0), .acknowledge 0 true, .settle 0]

theorem visit_cares_iff :
    (∀ index ticket, (run Tracked.step .start visit).tickets[index]? = some ticket →
        ticket.acknowledged = some true → CaredFor visit index) ↔
      ∀ index ticket, (run Tracked.step .start visit).tickets[index]? = some ticket →
        ticket.acknowledged = some true → Along Tracked.step (Sheltered index) .start visit :=
  run_cares_iff visit (by simp [visit])

/-- The guild is removed; while its worker cleans up, the guild is created again and uses
the bot. -/
def recreation : List Move :=
  visit ++ [.loop (.gateway (some (some ⟨[], some 1, none⟩))), .loop (.receive 0),
    .loop (.leave 0), .loop (.gateway (some (some ⟨[(1, true)], some 1, none⟩))),
    .loop (.gateway (some (some ⟨[(1, true)], none, some ⟨some 1, .handled, false⟩⟩))),
    .acknowledge 1 true, .loop (.exit 0)]

/-- The second interaction is accepted and acknowledged, and lost. -/
theorem recreation_not_cared :
    ¬ ∀ moves : List Move, (∀ index, Move.loop (.crash index) ∉ moves) →
      Move.loop .shutdown ∉ moves → ∀ index ticket,
        (run Tracked.step .start moves).tickets[index]? = some ticket →
        ticket.acknowledged = some true → CaredFor moves index := by
  intro h
  have hticket : (run Tracked.step .start recreation).tickets[1]? =
      some ⟨0, some true, .lost⟩ := by decide +kernel
  have hcared := h recreation (by simp [recreation, visit]) (by simp [recreation, visit]) 1 _
    hticket rfl
  exact hcared.serves _ hticket

end Raydio.Runtime
