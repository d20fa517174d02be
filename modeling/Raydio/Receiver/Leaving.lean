/-
# The helper leaves

Connections are loops over their receivers, so what every operation on a receiver keeps,
every event of the page keeps. Disabling the helper goes over all connections and then
over all receivers with a record, and each turn of the two loops removes its own.
-/

import Raydio.Receiver.Restoring

namespace Raydio.Receiver

open Raydio.Foundation

universe u v

namespace Page

variable {Peer : Type u} {Receiver : Type v} [DecidableEq Peer] [DecidableEq Receiver]
  {browser : Browser Receiver}

/-! ## Connections -/

/-- The two listeners of a connection go with its record. -/
theorem keeps_detachPeer (page : Page Peer Receiver) (peer : Peer) :
    page.Keeps browser (page.detachPeer browser peer) := by
  rw [detachPeer]
  cases hget : page.peers.get peer with
  | none => exact .refl page
  | some owned =>
      refine Keeps.trans ?_ (keeps_foldl keeps_restoreReceiver owned _)
      refine .of_eq rfl rfl rfl rfl ?_
      intro h
      refine ⟨?_, h.counted⟩
      have hkeys := (OrderedMap.keys_perm_delete (OrderedMap.mem_keys_of_get hget)).flatMap_right
        fun peer => [(Listener.track peer : Listener Peer Receiver), .state peer]
      have hlisteners := (h.listeners.trans (hkeys.append_left _)).trans List.perm_append_comm
      have herased := (hlisteners.erase (.track peer)).erase (.state peer)
      simp only [List.flatMap_cons, List.cons_append, List.nil_append,
        List.erase_cons_head] at herased
      exact herased.trans List.perm_append_comm

theorem keeps_watch (page : Page Peer Receiver) (peer : Peer) :
    page.Keeps browser (page.watch peer) := by
  rw [watch]
  split
  · exact .refl page
  · rename_i hnone
    refine .of_eq rfl rfl rfl rfl ?_
    intro h
    refine ⟨?_, h.counted⟩
    have hkeys := OrderedMap.keys_set_of_notMem (b := ([] : List Receiver))
      (OrderedMap.get_eq_none_iff.mp hnone)
    show List.Perm (page.listeners ++ _) _
    rw [hkeys, List.flatMap_append, ← List.append_assoc]
    exact h.listeners.append_right _

theorem keeps_own (page : Page Peer Receiver) (peer : Peer) (receiver : Receiver) :
    page.Keeps browser (page.own browser peer receiver) := by
  refine (keeps_applyReceiver page receiver).trans ?_
  unfold own enlist
  split
  · rename_i owned _ hget
    split
    · exact .refl _
    · refine Same.keeps ⟨rfl, rfl, rfl, rfl, rfl, ?_, rfl⟩
      exact OrderedMap.keys_set_of_mem (OrderedMap.mem_keys_of_get hget)
  · exact .refl _

theorem keeps_attachPeer (page : Page Peer Receiver) (peer : Peer) :
    page.Keeps browser (page.attachPeer browser peer) := by
  rw [attachPeer]
  split
  · exact .refl page
  · refine (keeps_watch page peer).trans (keeps_foldl ?_ _ _)
    intro page receiver
    split
    · exact keeps_own page peer receiver
    · exact .refl page

/-! ## The helper's functions -/

/-- Settings and counters of the helper are not known of. -/
theorem keeps_disable (page : Page Peer Receiver) : page.Keeps browser (page.disable browser) := by
  rw [disable]
  refine Keeps.trans (Keeps.trans ?_ (keeps_foldl keeps_detachPeer _ _))
    (keeps_foldl keeps_restoreReceiver _ _)
  exact Same.keeps ⟨rfl, rfl, rfl, rfl, rfl, rfl, rfl⟩

theorem keeps_enable (page : Page Peer Receiver) (ms : ℚ) (trial hooks : Bool)
    (audited : List Peer) :
    page.Keeps browser (page.enable browser ms trial hooks audited) := by
  rw [enable]
  split
  · exact .refl page
  simp only
  split
  · refine Keeps.trans ?_ (keeps_disable _)
    exact Same.keeps ⟨rfl, rfl, rfl, rfl, rfl, rfl, rfl⟩
  · refine Keeps.trans (Keeps.trans ?_ (keeps_foldl keeps_attachPeer _ _))
      (keeps_foldl keeps_attachPeer _ _)
    exact Same.keeps ⟨rfl, rfl, rfl, rfl, rfl, rfl, rfl⟩

/-- A receiver whose track has ended is not live; its record goes. -/
theorem keeps_ended (page : Page Peer Receiver) (receiver : Receiver) :
    page.Keeps browser (page.step browser (.ended receiver)) := by
  have hdead : Touches receiver page
      { page with live := Function.update page.live receiver false } := by
    refine ⟨fun _ _ => rfl, fun _ _ => rfl, ?_, List.prefix_rfl, ?_⟩
    · intro other hother
      exact Function.update_of_ne hother _ _
    · exact fun h => h.of_eq rfl rfl rfl rfl rfl
  simp only [step]
  split
  · refine (hdead.trans (touches_forgetReceiver _ receiver)).keeps ?_
    intro _ _
    refine ⟨?_, ?_⟩
    · intro record hrecord
      rw [get_forgetReceiver] at hrecord
      cases hrecord
    · intro hlive _
      rw [live_forgetReceiver] at hlive
      simp at hlive
  · refine hdead.keeps ?_
    intro _ h
    refine h.frame rfl rfl ?_ List.prefix_rfl
    intro hlive
    simp at hlive

/-- What every event keeps. -/
theorem keeps_step (page : Page Peer Receiver) (event : Event Peer Receiver) :
    page.Keeps browser (page.step browser event) := by
  cases event with
  | enable ms trial hooks audited => exact keeps_enable page ms trial hooks audited
  | disable => exact keeps_disable page
  | negotiated peer members hooked =>
      simp only [step]
      have hmembers : page.Keeps browser
          { page with members := Function.update page.members peer members } :=
        Same.keeps ⟨rfl, rfl, rfl, rfl, rfl, rfl, rfl⟩
      split
      · exact hmembers.trans (keeps_attachPeer _ peer)
      · exact hmembers
  | track peer receiver =>
      simp only [step]
      have hmembers : page.Keeps browser { page with
          members := Function.update page.members peer (page.members peer ++ [receiver]) } :=
        Same.keeps ⟨rfl, rfl, rfl, rfl, rfl, rfl, rfl⟩
      split
      · exact hmembers.trans (keeps_own _ peer receiver)
      · exact hmembers
  | ended receiver => exact keeps_ended page receiver
  | close peer hooked =>
      simp only [step]
      have hclosed : page.Keeps browser
          { page with closed := Function.update page.closed peer true } :=
        Same.keeps ⟨rfl, rfl, rfl, rfl, rfl, rfl, rfl⟩
      split
      · exact hclosed.trans (keeps_detachPeer _ peer)
      · exact hclosed
  | stateChange peer =>
      rw [step]
      split
      · exact keeps_detachPeer page peer
      · exact .refl page

omit [DecidableEq Peer] [DecidableEq Receiver] in
theorem tidy_start (browser : Browser Receiver) :
    (start browser : Page Peer Receiver).Tidy :=
  ⟨.refl _, rfl⟩

omit [DecidableEq Peer] in
theorem sound_start (browser : Browser Receiver) :
    (start browser : Page Peer Receiver).Sound browser := by
  intro receiver
  refine ⟨?_, ?_⟩
  · intro record hrecord
    cases hrecord
  · intro _ _
    exact .inl rfl

/-- What every run keeps. -/
theorem keeps_run (browser : Browser Receiver) (events : List (Event Peer Receiver)) :
    (start browser).Keeps browser (run browser events) :=
  keeps_foldl keeps_step events _

/-! ## Nothing remains -/

/-- Restoring a receiver removes its record and no connection. -/
theorem keys_restoreReceiver (page : Page Peer Receiver) (receiver : Receiver) :
    (page.restoreReceiver browser receiver).receivers.keys =
        page.receivers.keys.filter (· ≠ receiver) ∧
      (page.restoreReceiver browser receiver).peers.keys = page.peers.keys := by
  cases hget : page.receivers.get receiver with
  | none =>
      simp only [restoreReceiver, hget, and_true]
      rw [List.filter_eq_self.mpr]
      intro other hother
      have hne : other ≠ receiver := fun heq =>
        OrderedMap.get_eq_none_iff.mp hget (heq ▸ hother)
      simpa using hne
  | some record =>
      obtain ⟨settled, -, ⟨hreceivers, hpeers⟩, heq, -⟩ :=
        restoreReceiver_eq browser hget
      rw [heq]
      simp only [forgetReceiver, hreceivers, hget, hpeers]
      exact ⟨OrderedMap.keys_delete, OrderedMap.keys_mapValues _ _⟩

/-- Restoring receivers leaves the connections. -/
theorem peers_foldl_restoreReceiver (list : List Receiver) (page : Page Peer Receiver) :
    (list.foldl (restoreReceiver browser) page).peers.keys = page.peers.keys := by
  induction list generalizing page with
  | nil => rfl
  | cons receiver list ih => exact (ih _).trans (keys_restoreReceiver page receiver).2

theorem keys_detachPeer (page : Page Peer Receiver) (peer : Peer) :
    (page.detachPeer browser peer).peers.keys = page.peers.keys.filter (· ≠ peer) := by
  cases hget : page.peers.get peer with
  | none =>
      simp only [detachPeer, hget]
      rw [List.filter_eq_self.mpr]
      intro other hother
      have hne : other ≠ peer := fun heq => OrderedMap.get_eq_none_iff.mp hget (heq ▸ hother)
      simpa using hne
  | some owned =>
      simp only [detachPeer, hget]
      exact (peers_foldl_restoreReceiver owned _).trans OrderedMap.keys_delete

/-- After disabling there is no record of a receiver or of a connection. -/
theorem keys_disable (browser : Browser Receiver) (page : Page Peer Receiver) :
    (page.disable browser).receivers.keys = [] ∧ (page.disable browser).peers.keys = [] := by
  simp only [disable]
  refine ⟨OrderedMap.keys_foldl_keys (fun page : Page Peer Receiver => page.receivers.keys)
    (fun page receiver => (keys_restoreReceiver page receiver).1) _, ?_⟩
  exact (peers_foldl_restoreReceiver _ _).trans (OrderedMap.keys_foldl_keys
    (fun page : Page Peer Receiver => page.peers.keys) keys_detachPeer _)

omit [DecidableEq Peer] [DecidableEq Receiver] in
/-- A tidy page without records has no listeners. -/
theorem Tidy.listeners_eq_nil {page : Page Peer Receiver} (h : page.Tidy)
    (receivers : page.receivers.keys = []) (peers : page.peers.keys = []) :
    page.listeners = [] := by
  have hlisteners := h.listeners
  rw [receivers, peers] at hlisteners
  exact hlisteners.eq_nil

/-! ## The helper leaves no trace -/

/-- A receiver that is live and has no record. -/
def Released (page : Page Peer Receiver) (receiver : Receiver) : Prop :=
  page.live receiver = true ∧ page.receivers.get receiver = none

instance (page : Page Peer Receiver) (receiver : Receiver) :
    Decidable (page.Released receiver) :=
  inferInstanceAs (Decidable (_ ∧ _))

/-- As long as every assignment that applies a target is tame, a receiver without a record
has its original target or a failed restoration of it was counted. Whatever assignments
do, disabling leaves no record and no listener. -/
theorem run_leaves_nothing (browser : Browser Receiver) (events : List (Event Peer Receiver)) :
    ((run browser events).Tame browser → ∀ receiver, (run browser events).Released receiver →
      (run browser events).value receiver = browser.initial receiver ∨
        .unrestored receiver ∈ (run browser events).log) ∧
    (run browser events).failedRestorations =
      (run browser events).log.countP Entry.isUnrestored ∧
    ((run browser events).disable browser).receivers.keys = [] ∧
    ((run browser events).disable browser).peers.keys = [] ∧
    ((run browser events).disable browser).listeners = [] := by
  have hrun := keeps_run browser events
  have htidy := hrun.tidy (tidy_start browser)
  obtain ⟨hreceivers, hpeers⟩ := keys_disable browser (run browser events)
  refine ⟨?_, htidy.counted, hreceivers, hpeers, ?_⟩
  · intro htame receiver hreleased
    exact (hrun.sound htame (sound_start browser) receiver).free hreleased.1 hreleased.2
  · exact ((keeps_disable _).tidy htidy).listeners_eq_nil hreceivers hpeers

/-! ## Two browsers -/

/-- The helper is enabled, and then a connection with one receiver is set up. -/
def joined : List (Event ℕ ℕ) := [.enable 120 false true [], .negotiated 0 [0] true]

/-- The connection is then closed. -/
def parted : List (Event ℕ ℕ) := joined ++ [.close 0 true]

/-- A browser that stores every target. -/
def storing : Browser ℕ where
  audio _ := true
  supported _ := true
  initial _ := none
  react _ _ _ target := .stores target

/-- A browser that stores no target above sixty milliseconds and throws nothing. -/
def capping : Browser ℕ where
  audio _ := true
  supported _ := true
  initial _ := none
  react _ _ _ target := .stores (target.map (min · 60))

/-- A browser that stores every target is left with the original one. -/
theorem run_leaves_nothing_storing :
    (run storing parted).Released 0 ∧
      ((run storing parted).value 0 = storing.initial 0 ∨
        .unrestored 0 ∈ (run storing parted).log) := by
  have hreleased : (run storing parted).Released 0 := by
    decide +kernel
  have htame : (run storing parted).Tame storing := by
    decide +kernel
  exact ⟨hreleased, (run_leaves_nothing storing parted).1 htame 0 hreleased⟩

/-- A target that the browser caps stays behind without a record, and is not counted. -/
theorem capping_left : ¬ ∀ (browser : Browser ℕ) (events : List (Event ℕ ℕ)) (receiver : ℕ),
    (run browser events).Released receiver →
      (run browser events).value receiver = browser.initial receiver ∨
        .unrestored receiver ∈ (run browser events).log := by
  intro h
  have hleft : (run capping joined).Released 0 ∧ (run capping joined).value 0 = some 60 ∧
      (run capping joined).log = [.applied 0 none (some 120) (some 60)] := by
    decide +kernel
  obtain ⟨hreleased, hvalue, hlog⟩ := hleft
  have habsurd := h capping joined 0 hreleased
  rw [hvalue, hlog] at habsurd
  simp [capping] at habsurd

end Page

end Raydio.Receiver
