/-
# Isolation of suggestions

Suggestions are scoped: a call returns what was resolved for its own guild, channel and
query, and only if its own access check let the caller use that channel. What a turn of a
call can do is stated once, for calls before and after their access check; the run
invariant follows from it event by event.
-/

import Raydio.Runtime.Autocomplete

namespace Raydio.Runtime.Autocomplete

open Raydio.Foundation Raydio.Discord Raydio.Resolver Raydio.Views Raydio.Voice
open Raydio.Foundation.Runs

/-! ## What a turn did -/

/-- It is the turn of a call's access check. -/
def Checks (index : ℕ) (state : State) (event : Event) : Prop :=
  ∃ call turn, event = .turn index turn ∧ state.calls[index]? = some call ∧
    call.access = none ∧ call.phase = .checking

/-- The cached guild lets the user use the channel. -/
structure Admission (setting : Setting) (user : ℕ) (cached : Guild) (guild channel : ℕ) :
    Prop where
  available : cached.available = true
  queue : cached.activity.queueCount < setting.limits.queue
  pending : cached.activity.pending < setting.pending
  access : cached.access setting.all guild user setting.bot none = .ok (.ok channel)
  active : cached.activity.channel = none ∨ cached.activity.channel = some channel

/-- The guild, as it is cached, lets the user use the channel. -/
def Admits (setting : Setting) (user guild channel : ℕ) (state : State) : Prop :=
  ∃ cached, state.cache.guilds[guild]? = some cached ∧
    Admission setting user cached guild channel

/-- It is the turn in which the node's answer to a call became a list of choices. -/
structure Resolves (setting : Setting) (index guild channel : ℕ) (query : String)
    (choices : List Choice) (time : ℕ) (state : State) (event : Event) : Prop where
  time : state.now = time
  call : ∃ call, state.calls[index]? = some call ∧ call.phase = .resolving ∧
    call.access = some (guild, channel) ∧ call.query = query
  resolved : ∃ answer pick resolution, event = .turn index (.answer answer pick) ∧
    resolve setting.crate setting.limits answer query 10 10 = .ok (.ok resolution) ∧
    choices = searchChoices resolution.tracks

section

variable {setting : Setting} {state : State}

theorem access_spec {call : Call} {guild channel : ℕ}
    (h : state.access setting call = some (guild, channel)) :
    call.guild = some guild ∧ Admits setting call.user guild channel state := by
  unfold State.access at h
  split at h
  · cases h
  · rename_i id hguild
    split at h
    · cases h
    · rename_i cached hcached
      split_ifs at h with hrefused
      simp only [Bool.or_eq_true, Bool.not_eq_true', decide_eq_true_eq, not_or, not_le,
        Bool.not_eq_false] at hrefused
      obtain ⟨⟨havailable, hqueue⟩, hpending⟩ := hrefused
      split at h
      · cases h
      · rename_i other haccess
        split_ifs at h with hactive
        cases h
        obtain ⟨result, hresult⟩ := cached.access_returns setting.all guild call.user setting.bot
          none
        rw [Checked.value_eq hresult] at haccess
        refine ⟨hguild, cached, hcached, havailable, hqueue, hpending, ?_, ?_⟩
        · rw [hresult, haccess]
        · cases hchannel : cached.activity.channel with
          | none => exact .inl rfl
          | some active =>
              right
              simpa [hchannel] using hactive

/-- What the turn of a call that was not granted access makes of the call. -/
inductive Approaches (setting : Setting) (state : State) (index : ℕ) (call : Call) : Call → Prop
  | waits (phase : Phase) (hbefore : call.phase = .hydrating ∨ call.phase = .fetching)
      (hafter : phase = .fetching ∨ phase = .checking) :
      Approaches setting state index call { call with phase := phase }
  | ends (phase : Phase) (hafter : phase = .dropped ∨ phase = .returned [] state.now) :
      Approaches setting state index call { call with phase := phase }
  | admitted (guild channel : ℕ) (hphase : call.phase = .checking)
      (hguild : call.guild = some guild) (hadmits : Admits setting call.user guild channel state) :
      Approaches setting state index call
        { call with access := some (guild, channel), phase := .looking }

/-- What the turn of a call that was granted access makes of the call. -/
inductive Serves (setting : Setting) (state : State) (index : ℕ) (call : Call)
    (guild channel : ℕ) (turn : Turn) : Call → Prop
  | searches (hphase : call.phase = .looking) :
      Serves setting state index call guild channel turn { call with phase := .resolving }
  | ends (phase : Phase) (hafter : phase = .dropped ∨ phase = .returned [] state.now) :
      Serves setting state index call guild channel turn { call with phase := phase }
  | hits (choices : List Choice)
      (hcached : state.cached (setting.cacheKey guild channel call.query) = some choices) :
      Serves setting state index call guild channel turn
        { call with phase := .returned choices state.now }
  | resolves (choices : List Choice)
      (hresolves : Resolves setting index guild channel call.query choices state.now state
        (.turn index turn)) :
      Serves setting state index call guild channel turn
        { call with phase := .returned choices state.now }

/-- The turn of a call that was not granted access leaves the cached lists alone. -/
theorem approach_spec (setting : Setting) (state : State) (index : ℕ) (call : Call)
    (turn : Turn) :
    (state.approach setting index call turn).autocomplete = state.autocomplete ∧
      (state.approach setting index call turn).now = state.now ∧
      ((state.approach setting index call turn).calls = state.calls ∧ call.phase ≠ .checking ∨
        ∃ next, Approaches setting state index call next ∧
          (state.approach setting index call turn).calls = state.calls.set index next) := by
  unfold State.approach
  split
  · rename_i hphase
    unfold State.hydrate
    split
    · exact ⟨rfl, rfl, .inr ⟨_, .waits .fetching (.inl hphase) (.inl rfl), rfl⟩⟩
    · exact ⟨rfl, rfl, .inr ⟨_, .waits .checking (.inl hphase) (.inr rfl), rfl⟩⟩
  · rename_i roles hphase
    unfold State.fetched
    split
    · exact ⟨rfl, rfl, .inr ⟨_, .waits .checking (.inr hphase) (.inr rfl), rfl⟩⟩
    · exact ⟨rfl, rfl, .inr ⟨_, .ends _ (.inr rfl), rfl⟩⟩
  · exact ⟨rfl, rfl, .inr ⟨_, .ends .dropped (.inl rfl), rfl⟩⟩
  · rename_i hphase
    unfold State.check
    split
    · exact ⟨rfl, rfl, .inr ⟨_, .ends _ (.inr rfl), rfl⟩⟩
    · rename_i access haccess
      obtain ⟨hguild, hadmits⟩ := access_spec haccess
      exact ⟨rfl, rfl, .inr ⟨_, .admitted access.1 access.2 hphase hguild hadmits, rfl⟩⟩
  · have hphase : call.phase ≠ .checking := by assumption
    exact ⟨rfl, rfl, .inl ⟨rfl, hphase⟩⟩

/-- The turn of a call that was granted access caches a list at most when it resolved it. -/
theorem serve_spec (setting : Setting) {index : ℕ} {call : Call} {guild channel : ℕ}
    (hcall : state.calls[index]? = some call) (haccess : call.access = some (guild, channel))
    (turn : Turn) :
    (state.serve setting index call guild channel turn).now = state.now ∧
      ((state.serve setting index call guild channel turn).autocomplete = state.autocomplete ∨
        ∃ choices pick, Resolves setting index guild channel call.query choices state.now state
            (.turn index turn) ∧
          (state.serve setting index call guild channel turn).autocomplete =
            (state.store (setting.cacheKey guild channel call.query) choices pick).autocomplete) ∧
      ((state.serve setting index call guild channel turn).calls = state.calls ∨
        ∃ next, Serves setting state index call guild channel turn next ∧
          (state.serve setting index call guild channel turn).calls =
            state.calls.set index next) := by
  unfold State.serve
  dsimp only
  split
  · rename_i hphase
    unfold State.look
    split
    · rename_i choices hcached
      exact ⟨rfl, .inl rfl, .inr ⟨_, .hits choices hcached, rfl⟩⟩
    · split
      · exact ⟨rfl, .inl rfl, .inr ⟨_, .ends _ (.inr rfl), rfl⟩⟩
      · exact ⟨rfl, .inl rfl, .inr ⟨_, .searches hphase, rfl⟩⟩
  · rename_i answer pick hphase
    unfold State.resolved
    split
    · exact ⟨rfl, .inl rfl, .inr ⟨_, .ends .dropped (.inl rfl), rfl⟩⟩
    · exact ⟨rfl, .inl rfl, .inr ⟨_, .ends _ (.inr rfl), rfl⟩⟩
    · rename_i resolution hresolution
      have hresolves : Resolves setting index guild channel call.query
          (searchChoices resolution.tracks) state.now state (.turn index (.answer answer pick)) :=
        ⟨rfl, ⟨call, hcall, hphase, haccess, rfl⟩,
          ⟨answer, pick, resolution, rfl, hresolution, rfl⟩⟩
      exact ⟨rfl, .inr ⟨_, pick, hresolves, rfl⟩, .inr ⟨_, .resolves _ hresolves, rfl⟩⟩
  · exact ⟨rfl, .inl rfl, .inr ⟨_, .ends .dropped (.inl rfl), rfl⟩⟩
  · exact ⟨rfl, .inl rfl, .inl rfl⟩

/-! ## The cached lists -/

/-- The cache key is injective up to case. -/
theorem cacheKey_inj {guild channel guild' channel' : ℕ} {query query' : String} :
    setting.cacheKey guild channel query = setting.cacheKey guild' channel' query' ↔
      guild = guild' ∧ channel = channel' ∧
        setting.toLowercase query = setting.toLowercase query' := by
  constructor
  · intro h
    have hchars := congrArg String.toList h
    simp only [Setting.cacheKey, String.toList_append, List.append_assoc] at hchars
    obtain ⟨hguild, hrest⟩ := (Text.separated_inj (Text.notMem_repr (by decide) guild)
      (Text.notMem_repr (by decide) guild')).mp hchars
    obtain ⟨hchannel, hquery⟩ := (Text.separated_inj (Text.notMem_repr (by decide) channel)
      (Text.notMem_repr (by decide) channel')).mp hrest
    exact ⟨Nat.repr_injective (String.toList_injective hguild),
      Nat.repr_injective (String.toList_injective hchannel), String.toList_injective hquery⟩
  · rintro ⟨rfl, rfl, hquery⟩
    rw [Setting.cacheKey, Setting.cacheKey, hquery]

theorem oldest_ne_nil {entries : Entries} (h : 0 < entries.size) : oldest entries ≠ [] := by
  rw [← Std.TreeMap.length_toList, List.length_pos_iff] at h
  cases hleast : entries.toList.argmin fun entry => entry.2.1 with
  | none => exact absurd (List.argmin_eq_none.mp hleast) h
  | some entry =>
      have hmem : entry ∈ entries.toList.filter fun entry =>
          entries.toList.all fun other => decide (entry.2.1 ≤ other.2.1) := by
        rw [List.mem_filter, List.all_eq_true]
        refine ⟨List.argmin_mem hleast, ?_⟩
        intro other hother
        have hle : entry.2.1 ≤ other.2.1 :=
          List.le_of_mem_argmin (f := fun e : String × ℕ × List Choice => e.2.1) hother hleast
        exact decide_eq_true hle
      exact List.ne_nil_of_mem (List.mem_map_of_mem hmem)

/-- There is room for one more entry. -/
theorem size_makeRoom {entries : Entries} (h : entries.size ≤ 500) (pick : ℕ) :
    (makeRoom entries pick).size < 500 := by
  unfold makeRoom
  split_ifs with hfull
  · have hsome : 0 < (oldest entries).length :=
      List.length_pos_iff.mpr (oldest_ne_nil (by omega))
    have hlt : pick % (oldest entries).length < (oldest entries).length := Nat.mod_lt pick hsome
    rw [List.getElem?_eq_getElem hlt]
    dsimp only
    obtain ⟨entry, hentry, hkey⟩ := List.mem_map.mp (List.getElem_mem hlt)
    rw [← hkey]
    have hheld : entries[entry.1]? = some entry.2 :=
      Std.TreeMap.mem_toList_iff_getElem?_eq_some.mp (List.mem_of_mem_filter hentry)
    have hcontains : entries.contains entry.1 = true := by
      rw [Std.TreeMap.contains_eq_isSome_getElem?, hheld]
      rfl
    rw [Std.TreeMap.size_erase, if_pos hcontains]
    omega
  · omega

theorem getElem?_makeRoom {entries : Entries} {pick : ℕ} {key : String} {entry : ℕ × List Choice}
    (h : (makeRoom entries pick)[key]? = some entry) : entries[key]? = some entry := by
  unfold makeRoom at h
  split_ifs at h
  · split at h
    · rw [Std.TreeMap.getElem?_erase] at h
      split_ifs at h
      exact h
    · exact h
  · exact h

theorem size_store (h : state.autocomplete.size ≤ 500) (key : String) (choices : List Choice)
    (pick : ℕ) : (state.store key choices pick).autocomplete.size ≤ 500 := by
  have hfresh :
      (state.autocomplete.filter fun _ entry => state.now - entry.1 < lifetime).size ≤ 500 :=
    Std.TreeMap.size_filter_le_size.trans h
  have hroom := size_makeRoom hfresh pick
  exact Std.TreeMap.size_insert_le.trans hroom

/-- What is cached after a list was, is that list or was cached before. -/
theorem getElem?_store {key other : String} {choices : List Choice} {pick : ℕ}
    {entry : ℕ × List Choice}
    (h : (state.store key choices pick).autocomplete[other]? = some entry) :
    (other = key ∧ entry = (state.now, choices)) ∨ state.autocomplete[other]? = some entry := by
  unfold State.store at h
  dsimp only at h
  rw [Std.TreeMap.getElem?_insert] at h
  split_ifs at h with hkey
  · rw [Std.LawfulEqCmp.compare_eq_iff_eq] at hkey
    exact .inl ⟨hkey.symm, (Option.some.inj h).symm⟩
  · have hheld := getElem?_makeRoom h
    rw [Std.TreeMap.getElem?_filter', Option.filter_eq_some_iff] at hheld
    exact .inr hheld.1

end

/-! ## Runs -/

section

/-- The access check is still to come. -/
def Phase.early (phase : Phase) : Bool :=
  phase = .hydrating || phase = .fetching || phase = .checking

variable (setting : Setting) (origin : State) (events : List Event)

/-- The choices were resolved for the guild, the channel and the query up to case, by the
call itself or not long before. -/
def Resolved (index guild channel : ℕ) (query : String) (choices : List Choice) (time : ℕ) :
    Prop :=
  ∃ other asked earlier,
    Sometime (State.step setting) (Resolves setting other guild channel asked choices earlier)
      origin events ∧
    setting.toLowercase asked = setting.toLowercase query ∧ earlier ≤ time ∧
    (other = index ∨ time < earlier + lifetime)

/-- What holds of a call after a run. -/
structure Call.Scoped (call : Call) (index : ℕ) : Prop where
  unchecked : call.access = none → call.phase.early = true →
    Along (State.step setting) (fun state event => ¬ Checks index state event) origin events
  checked : ∀ guild channel, call.access = some (guild, channel) → call.guild = some guild ∧
    Sometime (State.step setting) (Checks index) origin events ∧
    Along (State.step setting)
      (fun state event => Checks index state event → Admits setting call.user guild channel state)
      origin events
  returned : ∀ choices time, call.phase = .returned choices time → choices ≠ [] →
    ∃ guild channel, call.access = some (guild, channel) ∧
      Resolved setting origin events index guild channel call.query choices time

/-- What holds after a run. -/
structure Isolated : Prop where
  size : (run (State.step setting) origin events).autocomplete.size ≤ 500
  cached : ∀ (key : String) (time : ℕ) (choices : List Choice),
    (run (State.step setting) origin events).autocomplete[key]? = some (time, choices) →
    time ≤ (run (State.step setting) origin events).now ∧ ∃ other guild channel query,
      Sometime (State.step setting) (Resolves setting other guild channel query choices time)
        origin events ∧ key = setting.cacheKey guild channel query
  fresh : ∀ index, (run (State.step setting) origin events).calls.length ≤ index →
    Along (State.step setting) (fun state event => ¬ Checks index state event) origin events
  calls : ∀ (index : ℕ) (call : Call),
    (run (State.step setting) origin events).calls[index]? = some call →
    call.Scoped setting origin events index

variable {setting origin events} {state : State} {event : Event} {index guild channel : ℕ}
  {call next : Call}

theorem Resolved.concat {query : String} {choices : List Choice} {time : ℕ}
    (h : Resolved setting origin events index guild channel query choices time) (event : Event) :
    Resolved setting origin (events ++ [event]) index guild channel query choices time := by
  obtain ⟨other, asked, earlier, hresolves, hrest⟩ := h
  exact ⟨other, asked, earlier, hresolves.concat event, hrest⟩

theorem not_checks_of_ne (h : ∀ turn, event ≠ .turn index turn) : ¬ Checks index state event := by
  rintro ⟨call, turn, hevent, -⟩
  exact h turn hevent

theorem not_checks_of_none (h : state.calls[index]? = none) : ¬ Checks index state event := by
  rintro ⟨call, -, -, hcall, -⟩
  rw [h] at hcall
  cases hcall

/-- Only a call before its access check is checked. -/
theorem Checks.call_eq (hchecks : Checks index state event)
    (h : state.calls[index]? = some call) : call.access = none ∧ call.phase = .checking := by
  obtain ⟨other, -, -, hother, hnone, hphase⟩ := hchecks
  rw [h] at hother
  cases hother
  exact ⟨hnone, hphase⟩

theorem not_checks_of_phase (h : state.calls[index]? = some call)
    (hphase : call.phase ≠ .checking) : ¬ Checks index state event := by
  intro hchecks
  exact hphase (hchecks.call_eq h).2

theorem not_checks_of_access (h : state.calls[index]? = some call)
    (haccess : call.access = some (guild, channel)) : ¬ Checks index state event := by
  intro hchecks
  have hnone := (hchecks.call_eq h).1
  rw [haccess] at hnone
  cases hnone

/-- A call keeps what holds of it while it is not checked. -/
theorem Call.Scoped.concat (h : call.Scoped setting origin events index)
    (hnot : ¬ Checks index (run (State.step setting) origin events) event) :
    call.Scoped setting origin (events ++ [event]) index where
  unchecked := by
    intro haccess hearly
    exact along_concat.mpr ⟨h.unchecked haccess hearly, hnot⟩
  checked := by
    intro guild channel haccess
    obtain ⟨hguild, hchecked, hadmits⟩ := h.checked guild channel haccess
    exact ⟨hguild, hchecked.concat event,
      along_concat.mpr ⟨hadmits, fun hchecks => absurd hchecks hnot⟩⟩
  returned := by
    intro choices time hphase hsome
    obtain ⟨guild, channel, haccess, hresolved⟩ := h.returned choices time hphase hsome
    exact ⟨guild, channel, haccess, hresolved.concat event⟩

theorem Call.Scoped.approach {turn : Turn} (h : call.Scoped setting origin events index)
    (hcall : (run (State.step setting) origin events).calls[index]? = some call)
    (haccess : call.access = none)
    (happroaches : Approaches setting (run (State.step setting) origin events) index call next) :
    next.Scoped setting origin (events ++ [.turn index turn]) index := by
  cases happroaches with
  | waits phase hbefore hafter =>
      have hphase : call.phase ≠ .checking := by
        rcases hbefore with hbefore | hbefore <;> rw [hbefore] <;> simp
      have hnot : ¬ Checks index (run (State.step setting) origin events) (.turn index turn) :=
        not_checks_of_phase hcall hphase
      have hearly : call.phase.early = true := by
        rcases hbefore with hbefore | hbefore <;> rw [hbefore] <;> rfl
      constructor
      · intro _ _
        exact along_concat.mpr ⟨h.unchecked haccess hearly, hnot⟩
      · intro guild channel hsome
        rw [haccess] at hsome
        cases hsome
      · rintro choices time hphase
        rcases hafter with rfl | rfl <;> cases hphase
  | ends phase hafter =>
      constructor
      · intro _ hearly
        rcases hafter with rfl | rfl <;> cases hearly
      · intro guild channel hsome
        rw [haccess] at hsome
        cases hsome
      · rintro choices time hphase hsome
        rcases hafter with rfl | rfl <;> cases hphase
        exact absurd rfl hsome
  | admitted guild channel hphase hguild hadmits =>
      have hchecks : Checks index (run (State.step setting) origin events) (.turn index turn) :=
        ⟨call, turn, rfl, hcall, haccess, hphase⟩
      have hearly : call.phase.early = true := by
        rw [hphase]
        rfl
      constructor
      · intro hnone
        cases hnone
      · intro guild' channel' hsome
        cases hsome
        refine ⟨hguild, sometime_last hchecks, along_concat.mpr ⟨?_, ?_⟩⟩
        · intro before other after hsplit hbefore
          exact absurd hbefore (h.unchecked haccess hearly before other after hsplit)
        · intro _
          exact hadmits
      · intro choices time hreturned
        cases hreturned

theorem Call.Scoped.serve {turn : Turn} (h : call.Scoped setting origin events index)
    (hisolated : Isolated setting origin events)
    (hcall : (run (State.step setting) origin events).calls[index]? = some call)
    (haccess : call.access = some (guild, channel))
    (hserves : Serves setting (run (State.step setting) origin events) index call guild channel
      turn next) :
    next.Scoped setting origin (events ++ [.turn index turn]) index := by
  have hnot : ¬ Checks index (run (State.step setting) origin events) (.turn index turn) :=
    not_checks_of_access hcall haccess
  have hkept := h.concat hnot
  -- Whatever phase the call gets to, its access stays what it was.
  have hphase : ∀ phase, (∀ choices time, phase = .returned choices time → choices ≠ [] →
      Resolved setting origin (events ++ [.turn index turn]) index guild channel call.query
        choices time) →
      ({ call with phase := phase } : Call).Scoped setting origin (events ++ [.turn index turn])
        index := by
    intro phase hreturned
    constructor
    · intro hnone
      rw [haccess] at hnone
      cases hnone
    · exact hkept.checked
    · intro choices time heq hsome
      exact ⟨guild, channel, haccess, hreturned choices time heq hsome⟩
  cases hserves with
  | searches _ =>
      apply hphase
      intro choices time heq
      cases heq
  | ends phase hafter =>
      apply hphase
      intro choices time heq hsome
      rcases hafter with rfl | rfl <;> cases heq
      exact absurd rfl hsome
  | hits choices hcached =>
      apply hphase
      intro choices' time heq _
      cases heq
      unfold State.cached at hcached
      obtain ⟨⟨earlier, list⟩, hentry, rfl⟩ := Option.map_eq_some_iff.mp hcached
      obtain ⟨hheld, hfresh⟩ := Option.filter_eq_some_iff.mp hentry
      obtain ⟨hle, other, guild', channel', asked, hresolves, hkey⟩ :=
        hisolated.cached _ _ _ hheld
      obtain ⟨rfl, rfl, hquery⟩ := cacheKey_inj.mp hkey
      refine ⟨other, asked, earlier, hresolves.concat _, hquery.symm, hle, .inr ?_⟩
      have hlt := of_decide_eq_true hfresh
      dsimp only at hlt
      omega
  | resolves choices hresolves =>
      apply hphase
      intro choices' time heq _
      cases heq
      exact ⟨index, call.query, _, sometime_last hresolves, rfl, le_rfl, .inl rfl⟩

/-- A new call did not find anything yet. -/
theorem opening_returned {guild : Option ℕ} {user : ℕ} {query : String} {choices : List Choice}
    {time : ℕ} (h : state.opening setting guild user query = .returned choices time) :
    choices = [] := by
  unfold State.opening at h
  split at h
  · cases h
  · split_ifs at h <;> cases h
    · rfl
    · rfl

/-- A step caches a list at most when a call resolved it. -/
theorem step_autocomplete (setting : Setting) (state : State) (event : Event) :
    state.now ≤ (state.step setting event).now ∧
      ((state.step setting event).autocomplete = state.autocomplete ∨
        ∃ index guild channel query choices pick,
          Resolves setting index guild channel query choices state.now state event ∧
          (state.step setting event).now = state.now ∧
          (state.step setting event).autocomplete =
            (state.store (setting.cacheKey guild channel query) choices pick).autocomplete) := by
  cases event with
  | gateway cache => exact ⟨le_rfl, .inl rfl⟩
  | health ready => exact ⟨le_rfl, .inl rfl⟩
  | elapse duration => exact ⟨Nat.le_add_right _ _, .inl rfl⟩
  | call guild request =>
      unfold State.step State.call
      exact ⟨le_rfl, .inl rfl⟩
  | turn index turn =>
      unfold State.step State.proceed
      dsimp only
      split
      · exact ⟨le_rfl, .inl rfl⟩
      · rename_i call hcall
        split
        · obtain ⟨hentries, hnow, -⟩ := approach_spec setting state index call turn
          exact ⟨hnow.ge, .inl hentries⟩
        · rename_i guild channel haccess
          obtain ⟨hnow, hentries, -⟩ := serve_spec setting hcall haccess turn
          rcases hentries with hentries | ⟨choices, pick, hresolves, hentries⟩
          · exact ⟨hnow.ge, .inl hentries⟩
          · exact ⟨hnow.ge, .inr ⟨index, guild, channel, call.query, choices, pick, hresolves,
              hnow, hentries⟩⟩

/-- The cached lists stay few, and stay those that calls resolved. -/
theorem Isolated.lists (h : Isolated setting origin events) (event : Event) :
    (run (State.step setting) origin (events ++ [event])).autocomplete.size ≤ 500 ∧
      ∀ (key : String) (time : ℕ) (choices : List Choice),
        (run (State.step setting) origin (events ++ [event])).autocomplete[key]? =
          some (time, choices) →
        time ≤ (run (State.step setting) origin (events ++ [event])).now ∧
          ∃ other guild channel query,
            Sometime (State.step setting) (Resolves setting other guild channel query choices time)
              origin (events ++ [event]) ∧ key = setting.cacheKey guild channel query := by
  obtain ⟨hnow, hentries⟩ :=
    step_autocomplete setting (run (State.step setting) origin events) event
  -- What was cached before is as old as it was.
  have hheld : ∀ (key : String) (time : ℕ) (choices : List Choice),
      (run (State.step setting) origin events).autocomplete[key]? = some (time, choices) →
      time ≤ (run (State.step setting) origin (events ++ [event])).now ∧
        ∃ other guild channel query,
          Sometime (State.step setting) (Resolves setting other guild channel query choices time)
            origin (events ++ [event]) ∧ key = setting.cacheKey guild channel query := by
    intro key time choices hcached
    obtain ⟨hle, other, guild, channel, query, hresolves, hkey⟩ := h.cached key time choices hcached
    rw [run_concat]
    exact ⟨hle.trans hnow, other, guild, channel, query, hresolves.concat event, hkey⟩
  rcases hentries with
    hsame | ⟨index, guild, channel, query, choices, pick, hresolves, htime, hstore⟩
  · rw [← run_concat (State.step setting)] at hsame
    rw [hsame]
    exact ⟨h.size, hheld⟩
  · rw [← run_concat (State.step setting)] at hstore
    rw [hstore]
    refine ⟨size_store h.size _ _ _, ?_⟩
    intro key time list hcached
    rcases getElem?_store hcached with ⟨rfl, heq⟩ | hcached
    · cases heq
      rw [run_concat, htime]
      exact ⟨le_rfl, index, guild, channel, query, sometime_last hresolves, rfl⟩
    · exact hheld key time list hcached

/-- A call that is not at its turn, or does not use it, keeps what holds of it. -/
theorem Isolated.unturned {turned : ℕ} {turn : Turn} (h : Isolated setting origin events)
    (hcall : (run (State.step setting) origin events).calls[index]? = some call)
    (hnot : ¬ Checks turned (run (State.step setting) origin events) (.turn turned turn)) :
    call.Scoped setting origin (events ++ [.turn turned turn]) index := by
  by_cases hindex : index = turned
  · rw [hindex] at hcall ⊢
    exact (h.calls turned call hcall).concat hnot
  · exact (h.calls index call hcall).concat (not_checks_of_ne (by simp [Ne.symm hindex]))

/-- One call goes on, and the others stay where they are. -/
theorem Isolated.turned {turned : ℕ} {turn : Turn} (h : Isolated setting origin events)
    (hnext : next.Scoped setting origin (events ++ [.turn turned turn]) turned)
    (hcall : ((run (State.step setting) origin events).calls.set turned next)[index]? = some call) :
    call.Scoped setting origin (events ++ [.turn turned turn]) index := by
  rw [List.getElem?_set] at hcall
  split_ifs at hcall with hindex
  · cases hcall
    rw [← hindex]
    exact hnext
  · exact (h.calls index call hcall).concat (not_checks_of_ne (by simp [hindex]))

/-- No call is forgotten. -/
theorem length_calls_le (setting : Setting) (state : State) (event : Event) :
    state.calls.length ≤ (state.step setting event).calls.length := by
  cases event with
  | gateway cache => exact le_rfl
  | health ready => exact le_rfl
  | elapse duration => exact le_rfl
  | call guild request =>
      unfold State.step State.call
      simp
  | turn index turn =>
      unfold State.step State.proceed
      dsimp only
      split
      · exact le_rfl
      · rename_i call hcall
        split
        · obtain ⟨-, -, ⟨hcalls, -⟩ | ⟨next, -, hcalls⟩⟩ :=
            approach_spec setting state index call turn
          · rw [hcalls]
          · rw [hcalls, List.length_set]
        · rename_i guild channel haccess
          obtain ⟨-, -, hcalls | ⟨next, -, hcalls⟩⟩ :=
            serve_spec setting hcall haccess turn
          · rw [hcalls]
          · rw [hcalls, List.length_set]

/-- What holds of the calls goes on to hold. -/
theorem Isolated.calls_concat (h : Isolated setting origin events) (event : Event) :
    ∀ (index : ℕ) (call : Call),
      (run (State.step setting) origin (events ++ [event])).calls[index]? = some call →
      call.Scoped setting origin (events ++ [event]) index := by
  intro index call hcall
  rw [run_concat] at hcall
  cases event with
  | gateway cache => exact (h.calls index call hcall).concat (not_checks_of_ne (by simp))
  | health ready => exact (h.calls index call hcall).concat (not_checks_of_ne (by simp))
  | elapse duration => exact (h.calls index call hcall).concat (not_checks_of_ne (by simp))
  | call guild request =>
      have hnot : ¬ Checks index (run (State.step setting) origin events) (.call guild request) :=
        not_checks_of_ne (by simp)
      change ((run (State.step setting) origin events).calls ++ [_])[index]? = some call at hcall
      rw [List.getElem?_append] at hcall
      split_ifs at hcall with hlt
      · exact (h.calls index call hcall).concat hnot
      · rw [List.getElem?_singleton] at hcall
        split_ifs at hcall
        cases hcall
        constructor
        · intro _ _
          exact along_concat.mpr ⟨h.fresh index (Nat.le_of_not_lt hlt), hnot⟩
        · intro guild channel hsome
          cases hsome
        · intro choices time hphase hsome
          dsimp only at hphase
          exact absurd (opening_returned hphase) hsome
  | turn turned turn =>
      change ((run (State.step setting) origin events).proceed setting turned turn).calls[index]? =
        some call at hcall
      unfold State.proceed at hcall
      split at hcall
      · rename_i hnone
        by_cases hindex : index = turned
        · rw [hindex, hnone] at hcall
          cases hcall
        · exact (h.calls index call hcall).concat (not_checks_of_ne (by simp [Ne.symm hindex]))
      · rename_i before hbefore
        split at hcall
        · rename_i haccess
          obtain ⟨-, -, ⟨hsame, hphase⟩ | ⟨next, happroaches, hset⟩⟩ :=
            approach_spec setting (run (State.step setting) origin events) turned before turn
          · rw [hsame] at hcall
            exact h.unturned hcall (not_checks_of_phase hbefore hphase)
          · rw [hset] at hcall
            exact h.turned ((h.calls turned before hbefore).approach hbefore haccess happroaches)
              hcall
        · rename_i guild channel haccess
          obtain ⟨-, -, hsame | ⟨next, hserves, hset⟩⟩ :=
            serve_spec setting hbefore haccess turn
          · rw [hsame] at hcall
            exact h.unturned hcall (not_checks_of_access hbefore haccess)
          · rw [hset] at hcall
            exact h.turned ((h.calls turned before hbefore).serve h hbefore haccess hserves) hcall

/-- Isolation is kept by every step. -/
theorem Isolated.step (h : Isolated setting origin events) (event : Event) :
    Isolated setting origin (events ++ [event]) where
  size := (h.lists event).1
  cached := (h.lists event).2
  fresh := by
    intro index hindex
    have hlength := length_calls_le setting (run (State.step setting) origin events) event
    rw [run_concat] at hindex
    have hle : (run (State.step setting) origin events).calls.length ≤ index := hlength.trans hindex
    exact along_concat.mpr ⟨h.fresh index hle, not_checks_of_none (List.getElem?_eq_none hle)⟩
  calls := h.calls_concat event

theorem isolated_start (setting : Setting) (cache : Cache) (ready : Bool) :
    Isolated setting (.start cache ready) [] where
  size := Nat.zero_le _
  cached := by
    intro key time choices hcached
    cases hcached
  fresh := by
    intro index _
    exact along_nil _ _ _
  calls := by
    intro index call hcall
    cases hcall

/-- After every run, isolation holds. -/
theorem isolated_run (setting : Setting) (cache : Cache) (ready : Bool) (events : List Event) :
    Isolated setting (.start cache ready) events := by
  induction events using List.reverseRecOn with
  | nil => exact isolated_start setting cache ready
  | append_singleton events event ih => exact ih.step event

end

/-- For every interleaving of calls, with anything happening between their turns: at most
500 lists are cached; their keys tell guilds, channels and queries apart up to case; and a
call returns choices only if they were resolved for its guild, the channel of its caller
and its query, by itself or less than 30 seconds earlier, and only if its access check
found the guild available, below the limits, and free to be used by the caller from that
channel. -/
theorem choices_scoped (setting : Setting) (cache : Cache) (ready : Bool) (events : List Event) :
    (run (State.step setting) (.start cache ready) events).autocomplete.size ≤ 500 ∧
      (∀ guild channel query guild' channel' query',
        setting.cacheKey guild channel query = setting.cacheKey guild' channel' query' ↔
          guild = guild' ∧ channel = channel' ∧
            setting.toLowercase query = setting.toLowercase query') ∧
      ∀ (index : ℕ) (call : Call) (choices : List Choice) (time : ℕ),
        (run (State.step setting) (.start cache ready) events).calls[index]? = some call →
        call.phase = .returned choices time → choices ≠ [] →
        ∃ guild channel, call.guild = some guild ∧
          Resolved setting (.start cache ready) events index guild channel call.query choices
            time ∧
          Sometime (State.step setting) (Checks index) (.start cache ready) events ∧
          Along (State.step setting)
            (fun state event => Checks index state event →
              Admits setting call.user guild channel state)
            (.start cache ready) events := by
  have hisolated := isolated_run setting cache ready events
  refine ⟨hisolated.size, fun _ _ _ _ _ _ => cacheKey_inj, ?_⟩
  intro index call choices time hcall hphase hsome
  have hscoped := hisolated.calls index call hcall
  obtain ⟨guild, channel, haccess, hresolved⟩ := hscoped.returned choices time hphase hsome
  obtain ⟨hguild, hchecked, hadmits⟩ := hscoped.checked guild channel haccess
  exact ⟨guild, channel, hguild, hresolved, hchecked, hadmits⟩

/-! ## A small guild

The guild 1, whose user 2 is in the voice channel 3, and the bot 9 whose roles are not
known yet.
-/

namespace Sample

def setting : Setting :=
  { limits := ⟨100, 100, 3600000, false⟩, pending := 10, bot := 9, all := BitVec.allOnes 64
    crate := Resolver.Sample.crate
    toLowercase := fun text => String.ofList (text.toList.map Char.toLower) }

def cache : Cache :=
  { Cache.default with
    guilds := (∅ : Std.TreeMap ℕ Guild).insert 1
      { Guild.default with
        available := true
        channels := (∅ : Std.TreeMap ℕ ChannelAccess).insert 3 ⟨.guildVoice, none, []⟩
        roles := (∅ : Std.TreeMap ℕ Permissions).insert 11 (BitVec.allOnes 64)
        voices := (∅ : Std.TreeMap ℕ VoiceEntry).insert 2 ⟨3, false, ""⟩ } }

/-- A request is typed. -/
def typed (text : String) : Event :=
  .call (some 1) (.new ⟨0, some ⟨2, "listener", none⟩, none, none, none,
    .applicationCommand "play" [("request", .focused text)]⟩)

/-- A search finds one track. -/
def answer (_ : String) : Option Value :=
  some (.object [("loadType", .string "search"), ("data", .array [.object [
    ("encoded", .string "track"), ("info", .object [
      ("identifier", .string "fixture"), ("title", .string "Stay With Me"),
      ("author", .string "Akcent"), ("length", .number (.posInt 60000)),
      ("isStream", .bool false), ("uri", .null), ("sourceName", .string "youtube")])]])])

/-- A call fetches the roles of the bot and searches; 29 seconds later another one asks
for the same in capitals. -/
def events : List Event :=
  [typed " stay with me", .turn 0 .free, .turn 0 (.member (some [11])), .turn 0 .free,
    .turn 0 .free, .turn 0 (.answer answer 0), .elapse (29 * 10 ^ 9), typed "STAY WITH ME",
    .turn 1 .free, .turn 1 .free]

def choices : List Choice :=
  [⟨"Stay With Me — Akcent", "https://www.youtube.com/watch?v=fixture"⟩]

end Sample

/-- The second call is served what the first one resolved. -/
theorem choices_scoped_cached : ∃ guild channel, some 1 = some guild ∧
    Resolved Sample.setting (.start Sample.cache true) Sample.events 1 guild channel
      "STAY WITH ME" Sample.choices (29 * 10 ^ 9) ∧
    Sometime (State.step Sample.setting) (Checks 1) (.start Sample.cache true) Sample.events ∧
    Along (State.step Sample.setting)
      (fun state event => Checks 1 state event →
        Admits Sample.setting 2 guild channel state)
      (.start Sample.cache true) Sample.events :=
  (choices_scoped Sample.setting Sample.cache true Sample.events).2.2 1
    ⟨some 1, 2, "STAY WITH ME", some (1, 3), .returned Sample.choices (29 * 10 ^ 9)⟩
    Sample.choices (29 * 10 ^ 9) (by decide +kernel) rfl (by decide)

end Raydio.Runtime.Autocomplete
