/-
# Answering an interaction over HTTP

Discord keeps one initial response to an interaction, which later calls edit, and the
follow-ups to it. Calls to Discord and their answers may get lost, so that a request that
looks like a failure may have been accepted: an acknowledgement is verified by reading the
response back, and an error text is written once more.

What Discord does with a call is its own affair. `Interactions` is any service that can be
called so, and `Documented` says what the bot may rely on.
-/

import Raydio.Discord.Request
import Raydio.Foundation.Lossy
import Raydio.Views.View

namespace Raydio.Discord

open Raydio.Foundation Raydio.Views

/-! ## Failures of a call -/

/-- `twilight_http::error::ErrorType`, as far as it is told apart: `response` is a refusal
by Discord with its status and error code. -/
inductive HttpError
  | response (status : ℕ) (code : Option ℕ)
  | parsing
  | validation
  | unauthorized
  | other
  deriving DecidableEq, Repr

/-- How a call failed: its deadline passed, the client reported an error, or the body of
an accepted call could not be read. -/
inductive CallFailure
  | elapsed
  | http (error : HttpError)
  | decode
  deriving DecidableEq, Repr

/-- `http_error_summary`. -/
def httpErrorSummary : HttpError → String × Option ℕ × Option ℕ
  | .response status code => ("http", some status, code)
  | .parsing => ("decode", none, none)
  | .validation => ("validation", none, none)
  | .unauthorized => ("unauthorized", none, none)
  | .other => ("transport", none, none)

/-- `recoverable_ack_error`. -/
def recoverableAckError (error : HttpError) : Bool :=
  let summary := httpErrorSummary error
  summary.1 = "transport" || summary.2.1.any (fun status => status ≥ 500) ||
    summary.2.2 = some 40060

/-- `transient_response_error`. -/
def transientResponseError : CallFailure → Bool
  | .elapsed => true
  | .http error =>
      let summary := httpErrorSummary error
      summary.1 = "transport" || summary.2.1.any fun status => status ≥ 500
  | .decode => false

/-- The failure of an acknowledgement leaves open whether Discord accepted it. -/
def ambiguous : CallFailure → Bool
  | .elapsed => true
  | .http error => recoverableAckError error
  | .decode => false

/-! ## Discord's side of an interaction -/

/-- `InteractionResponseType`, as far as it is used. -/
inductive ResponseKind
  | deferredUpdateMessage
  | deferredChannelMessageWithSource
  | channelMessageWithSource
  | autocompleteResult
  deriving DecidableEq, Repr

/-- An initial response; a response to autocompletion offers no choices. -/
structure InitialResponse where
  kind : ResponseKind
  ephemeral : Bool
  content : Option String
  deriving DecidableEq, Repr

/-- The response that Discord keeps, with what it was last edited to show. -/
structure Original where
  initial : InitialResponse
  shown : Option View
  deriving DecidableEq, Repr

/-- What Discord keeps of an interaction: the response, and the follow-ups, all of which are
ephemeral. -/
structure Remote where
  original : Option Original
  followups : List String
  deriving DecidableEq, Repr

/-- An interaction that nobody answered yet. -/
def Remote.fresh : Remote := ⟨none, []⟩

/-- A call that answers an interaction. -/
inductive Operation
  | createResponse (response : InitialResponse)
  | response
  | updateResponse (view : View)
  | createFollowup (text : String)
  deriving DecidableEq, Repr

/-- Discord's service for the answers to an interaction. -/
structure Interactions (σ : Type) where
  service : Service σ Operation CallFailure Unit
  /-- What is kept of the interaction. -/
  kept : σ → Remote
  /-- Time passes, in which its token may expire. -/
  pass : σ → σ

namespace Interactions

variable {σ : Type} (discord : Interactions σ)

/-- A call to Discord. -/
def call (operation : Operation) (fate : Fate CallFailure) (state : σ) :
    Except CallFailure Unit × σ :=
  discord.service.call operation fate state

/-- What Discord documents. An interaction has at most one initial response, which can be read
and edited from then on; a follow-up is added to those there are, unless a message was deferred
and nothing is shown yet, which it then fills; and a call that is refused changes nothing,
whatever it is refused for. -/
structure Documented : Prop where
  refused : ∀ operation state failure,
    (discord.service.serve operation state).1 = .error failure →
      discord.kept (discord.service.serve operation state).2 = discord.kept state
  created : ∀ response state,
    (discord.service.serve (.createResponse response) state).1 = .ok () →
      (discord.kept state).original = none ∧
        discord.kept (discord.service.serve (.createResponse response) state).2 =
          { discord.kept state with original := some ⟨response, none⟩ }
  read : ∀ state, (discord.service.serve .response state).1 = .ok () →
    (discord.kept state).original ≠ none ∧
      discord.kept (discord.service.serve .response state).2 = discord.kept state
  edited : ∀ view state, (discord.service.serve (.updateResponse view) state).1 = .ok () →
    ∃ original, (discord.kept state).original = some original ∧
      discord.kept (discord.service.serve (.updateResponse view) state).2 =
        { discord.kept state with original := some { original with shown := some view } }
  followed : ∀ text state, (discord.service.serve (.createFollowup text) state).1 = .ok () →
    (∀ original ∈ (discord.kept state).original,
      original.initial.kind = .deferredChannelMessageWithSource → original.shown ≠ none) →
    discord.kept (discord.service.serve (.createFollowup text) state).2 =
      { discord.kept state with followups := (discord.kept state).followups ++ [text] }
  passed : ∀ state, discord.kept (discord.pass state) = discord.kept state

end Interactions

/-! ## The client -/

namespace Request

variable {σ : Type} (self : Request) (discord : Interactions σ)

/-- The response that `acknowledge` sends. -/
def deferral : InitialResponse :=
  { kind := if self.updatesMessage then .deferredUpdateMessage
      else .deferredChannelMessageWithSource
    ephemeral := self.name = "diagnostics" || (self.customId.isSome && !self.updatesMessage)
    content := none }

/-- `acknowledge`: the deferral, and after an ambiguous failure a look at the response that
Discord keeps. -/
def acknowledge (defer verify : Fate CallFailure) (state : σ) : Bool × σ :=
  let sent := discord.call (.createResponse self.deferral) defer state
  match sent.1 with
  | .ok _ => (true, sent.2)
  | .error failure =>
      if ambiguous failure then
        let read := discord.call .response verify sent.2
        (read.1.isOk, read.2)
      else (false, sent.2)

/-- The response of `reject`, for an interaction that may be an autocompletion. -/
def rejection (autocomplete : Bool) (text : String) : InitialResponse :=
  if autocomplete then ⟨.autocompleteResult, false, none⟩
  else ⟨.channelMessageWithSource, true, some text⟩

/-- `reject`. -/
def reject (autocomplete : Bool) (text : String) (fate : Fate CallFailure) (state : σ) : σ :=
  (discord.call (.createResponse (rejection autocomplete text)) fate state).2

/-- `respond`. -/
def respond (view : View) (fate : Fate CallFailure) (state : σ) : Except CallFailure Unit × σ :=
  discord.call (.updateResponse view) fate state

/-- The failure is one after which `error` writes its text once more. -/
def writesAgain : Except CallFailure Unit → Bool
  | .ok _ => false
  | .error failure => transientResponseError failure

/-- `error`: a component is answered by a follow-up, a command by an edit of its response
that is tried at most twice. -/
def error (text : String) (first second : Fate CallFailure) (state : σ) :
    List (Except CallFailure Unit) × σ :=
  if self.updatesMessage then
    let sent := discord.call (.createFollowup text) first state
    ([sent.1], sent.2)
  else
    discord.service.retry (.updateResponse (View.text text)) writesAgain [first, second] state

/-- What the bot does with an interaction once it is acknowledged, while time passes. -/
inductive Reply
  | respond (view : View) (fate : Fate CallFailure)
  | error (text : String) (first second : Fate CallFailure)
  | pass

/-- One such event. -/
def reply (state : σ) : Reply → σ
  | .respond view fate => (respond discord view fate state).2
  | .error text first second => (self.error discord text first second state).2
  | .pass => discord.pass state

/-- The life of an interaction: only an acknowledged one is handled. -/
def deliver (defer verify : Fate CallFailure) (replies : List Reply) (state : σ) : Bool × σ :=
  let acknowledged := self.acknowledge discord defer verify state
  (acknowledged.1, if acknowledged.1 then replies.foldl (self.reply discord) acknowledged.2
    else acknowledged.2)

end Request

/-! ## What Discord keeps -/

namespace Remote

/-- The views that an interaction was last edited to show, if it was edited. -/
def shown (remote : Remote) : Option View := remote.original.bind Original.shown

/-- What a reply may change: the response stays the one that it was, and shows what it
showed or something that was asked for; follow-ups are added to those there are. -/
structure Replied (views : List View) (texts : List String) (before after : Remote) : Prop where
  initial : after.original.map Original.initial = before.original.map Original.initial
  shown : after.shown = before.shown ∨ ∃ view ∈ views, after.shown = some view
  followups : ∃ more, after.followups = before.followups ++ more ∧ more.Sublist texts

variable {first second third : Remote} {views views' : List View} {texts texts' : List String}

theorem Replied.of_eq (h : second = first) : Replied views texts first second := by
  rw [h]
  exact ⟨rfl, Or.inl rfl, [], by rw [List.append_nil], List.nil_sublist _⟩

theorem Replied.trans (h : Replied views texts first second)
    (h' : Replied views' texts' second third) :
    Replied (views ++ views') (texts ++ texts') first third := by
  obtain ⟨more, hmore, hsub⟩ := h.followups
  obtain ⟨more', hmore', hsub'⟩ := h'.followups
  refine ⟨h'.initial.trans h.initial, ?_, more ++ more', ?_, hsub.append hsub'⟩
  · rcases h'.shown with heq | ⟨view, hview, heq⟩
    · rcases h.shown with hfirst | ⟨view, hview, hfirst⟩
      · exact Or.inl (heq.trans hfirst)
      · exact Or.inr ⟨view, List.mem_append_left _ hview, heq.trans hfirst⟩
    · exact Or.inr ⟨view, List.mem_append_right _ hview, heq⟩
  · rw [hmore', hmore, List.append_assoc]

/-- The same view may be asked for twice. -/
theorem Replied.again {view : View} (h : Replied [view] [] first second)
    (h' : Replied [view] [] second third) : Replied [view] [] first third := by
  obtain ⟨initial, shown, followups⟩ := h.trans h'
  refine ⟨initial, ?_, followups⟩
  rcases shown with hsame | ⟨other, hother, hshown⟩
  · exact Or.inl hsame
  · exact Or.inr ⟨other, by simpa using hother, hshown⟩

end Remote

namespace Interactions.Documented

open Remote

variable {σ : Type} {discord : Interactions σ} (h : discord.Documented)
include h

/-- A response that can be read is there. -/
theorem original_of_read {fate : Fate CallFailure} {state : σ}
    (hread : (discord.call .response fate state).1.isOk = true) :
    (discord.kept state).original ≠ none := by
  cases fate with
  | answered =>
      cases hserved : (discord.service.serve .response state).1 with
      | ok _ => exact (h.read state hserved).1
      | error failure =>
          have hcalled : (discord.call .response .answered state).1 = .error failure := hserved
          rw [hcalled] at hread
          cases hread
  | unheard failure => cases hread
  | lost failure => cases hread

/-- Looking at the response changes nothing. -/
theorem kept_read (fate : Fate CallFailure) (state : σ) :
    discord.kept (discord.call .response fate state).2 = discord.kept state := by
  refine Service.call_keeps (motive := fun other => discord.kept other = discord.kept state)
    ?_ fate rfl
  intro other hother
  rw [← hother]
  cases hserved : (discord.service.serve .response other).1 with
  | ok _ => exact (h.read other hserved).2
  | error failure => exact h.refused _ _ failure hserved

/-- The response is created, or nothing changes. -/
theorem kept_create (response : InitialResponse) (state : σ) :
    discord.kept (discord.service.serve (.createResponse response) state).2 =
      if (discord.service.serve (.createResponse response) state).1.isOk then
        { discord.kept state with original := some ⟨response, none⟩ }
      else discord.kept state := by
  cases hserved : (discord.service.serve (.createResponse response) state).1 with
  | ok _ => exact (h.created _ _ hserved).2
  | error failure => exact h.refused _ _ failure hserved

/-- An edit shows what it was asked to show, or is refused. -/
theorem replied_update (view : View) (state : σ) : Replied [view] [] (discord.kept state)
    (discord.kept (discord.service.serve (.updateResponse view) state).2) := by
  cases hserved : (discord.service.serve (.updateResponse view) state).1 with
  | ok _ =>
      obtain ⟨original, horiginal, hkept⟩ := h.edited view state hserved
      rw [hkept]
      refine ⟨?_, Or.inr ⟨view, List.mem_singleton_self _, rfl⟩, [], ?_, List.Sublist.refl _⟩
      · rw [horiginal]
        rfl
      · rw [List.append_nil]
  | error failure => exact .of_eq (h.refused _ _ failure hserved)

theorem replied_followup (text : String) {state : σ}
    (hkind : ∀ original ∈ (discord.kept state).original,
      original.initial.kind ≠ .deferredChannelMessageWithSource) :
    Replied [] [text] (discord.kept state)
      (discord.kept (discord.service.serve (.createFollowup text) state).2) := by
  cases hserved : (discord.service.serve (.createFollowup text) state).1 with
  | ok _ =>
      rw [h.followed text state hserved fun original hmem hdeferred =>
        absurd hdeferred (hkind original hmem)]
      exact ⟨rfl, Or.inl rfl, [text], rfl, List.Sublist.refl _⟩
  | error failure => exact .of_eq (h.refused _ _ failure hserved)

/-- However often an edit is tried, it shows one view. -/
theorem replied_retry (view : View) (again : Except CallFailure Unit → Bool)
    (fates : List (Fate CallFailure)) (state : σ) : Replied [view] [] (discord.kept state)
    (discord.kept (discord.service.retry (.updateResponse view) again fates state).2) := by
  refine Service.retry_keeps
    (motive := fun other => Replied [view] [] (discord.kept state) (discord.kept other)) ?_ fates
    (.of_eq rfl)
  intro other hother
  exact hother.again (h.replied_update view other)

end Interactions.Documented

/-! ## The life of an interaction -/

namespace Request

variable {σ : Type} (self : Request) {discord : Interactions σ}

/-- The views that a reply asks for. -/
def views : Reply → List View
  | .respond view _ => [view]
  | .error text _ _ => if self.updatesMessage then [] else [View.text text]
  | .pass => []

/-- The follow-ups that a reply asks for. -/
def texts : Reply → List String
  | .error text _ _ => if self.updatesMessage then [text] else []
  | _ => []

open Remote

/-- The response of a component defers no message. -/
theorem deferral_kind (hupdates : self.updatesMessage = true) :
    self.deferral.kind ≠ .deferredChannelMessageWithSource := by
  simp [deferral, hupdates]

theorem replied_reply (h : discord.Documented) {state : σ}
    (hdeferred : (discord.kept state).original.map Original.initial = some self.deferral)
    (event : Reply) :
    Replied (self.views event) (self.texts event) (discord.kept state)
      (discord.kept (self.reply discord state event)) := by
  cases event with
  | respond view fate =>
      have hcalled := discord.service.call_state (.updateResponse view) fate state
      simp only [views, texts, reply, respond, Interactions.call, hcalled]
      split
      · exact h.replied_update view state
      · exact .of_eq rfl
  | error text first second =>
      cases hupdates : self.updatesMessage with
      | true =>
          have hcalled := discord.service.call_state (.createFollowup text) first state
          simp only [views, texts, hupdates, if_true, reply, error, Interactions.call, hcalled]
          split
          · refine h.replied_followup text fun original hmem => ?_
            have hinitial : original.initial = self.deferral := by
              rw [Option.mem_def.mp hmem, Option.map_some] at hdeferred
              exact Option.some.inj hdeferred
            rw [hinitial]
            exact self.deferral_kind hupdates
          · exact .of_eq rfl
      | false =>
          simp only [views, texts, hupdates, Bool.false_eq_true, if_false, reply, error]
          exact h.replied_retry _ _ _ state
  | pass => exact .of_eq (h.passed state)

/-- However an interaction is handled, its response stays the one that it was. -/
theorem replied_handling (h : discord.Documented) (replies : List Reply) {state : σ}
    (hdeferred : (discord.kept state).original.map Original.initial = some self.deferral) :
    Replied (replies.flatMap self.views) (replies.flatMap self.texts) (discord.kept state)
      (discord.kept (replies.foldl (self.reply discord) state)) := by
  induction replies generalizing state with
  | nil => exact .of_eq rfl
  | cons event replies ih =>
      rw [List.flatMap_cons, List.flatMap_cons, List.foldl_cons]
      have hreplied := self.replied_reply h hdeferred event
      exact hreplied.trans (ih (hreplied.initial.trans hdeferred))

theorem kept_reject (h : discord.Documented) (autocomplete : Bool) (text : String)
    (fate : Fate CallFailure) {state : σ} (hfresh : discord.kept state = .fresh) :
    discord.kept (reject discord autocomplete text fate state) = .fresh ∨
      discord.kept (reject discord autocomplete text fate state) =
        ⟨some ⟨rejection autocomplete text, none⟩, []⟩ := by
  rw [reject, Interactions.call, discord.service.call_state]
  split
  · rw [h.kept_create, hfresh]
    split
    · exact .inr rfl
    · exact .inl rfl
  · exact .inl hfresh

variable (discord)

/-- Discord accepts the deferral. -/
def Accepted (state : σ) : Prop :=
  (discord.service.serve (.createResponse self.deferral) state).1.isOk = true

/-- The deferral was accepted, and Discord's acceptance was seen: at once, or by looking at
the response after a failure that left it open. -/
def Confirmed (defer verify : Fate CallFailure) (state : σ) : Prop :=
  self.Accepted discord state ∧
    (defer = .answered ∨ ∃ failure, defer = .unheard failure ∧ ambiguous failure = true ∧
      (discord.call .response verify
        (discord.service.serve (.createResponse self.deferral) state).2).1.isOk = true)

variable {discord}

/-- Of the first call of an acknowledgement a deferral is left that was accepted. -/
theorem kept_defer (h : discord.Documented) (defer : Fate CallFailure) {state : σ}
    (hfresh : discord.kept state = .fresh) :
    discord.kept (discord.call (.createResponse self.deferral) defer state).2 =
      if defer.arrives && (discord.service.serve (.createResponse self.deferral) state).1.isOk
      then ⟨some ⟨self.deferral, none⟩, []⟩ else .fresh := by
  rw [Interactions.call, discord.service.call_state]
  cases harrives : defer.arrives with
  | true =>
      rw [if_pos rfl, h.kept_create, hfresh, Bool.true_and]
      rfl
  | false => exact hfresh

/-- The acknowledgement keeps what its first call has left. -/
theorem kept_acknowledge (h : discord.Documented) (defer verify : Fate CallFailure) (state : σ) :
    discord.kept (self.acknowledge discord defer verify state).2 =
      discord.kept (discord.call (.createResponse self.deferral) defer state).2 := by
  rw [acknowledge]
  dsimp only
  split
  · rfl
  · split
    · exact h.kept_read verify _
    · rfl

/-- A command is taken to be acknowledged exactly if its deferral was accepted and the
acceptance was seen. -/
theorem acknowledge_iff (h : discord.Documented) (defer verify : Fate CallFailure) {state : σ}
    (hfresh : discord.kept state = .fresh) :
    (self.acknowledge discord defer verify state).1 = true ↔
      self.Confirmed discord defer verify state := by
  have hleft := self.kept_defer h defer hfresh
  -- Without a deferral that was accepted there is no response to look at.
  have hlook : (discord.call .response verify
      (discord.call (.createResponse self.deferral) defer state).2).1.isOk = true →
      self.Accepted discord state ∧ defer.arrives = true := by
    intro hread
    have horiginal := h.original_of_read hread
    rw [hleft] at horiginal
    split at horiginal
    · rename_i hboth
      rw [Bool.and_eq_true] at hboth
      exact hboth.symm
    · exact absurd rfl horiginal
  cases defer with
  | answered =>
      have hsent : discord.call (.createResponse self.deferral) .answered state =
          discord.service.serve (.createResponse self.deferral) state := rfl
      rw [acknowledge, Confirmed]
      rw [hsent] at hlook ⊢
      cases hserved : (discord.service.serve (.createResponse self.deferral) state).1 with
      | ok _ => simp [Accepted, hserved, Except.isOk, Except.toBool]
      | error failure =>
          have hnot : ¬ self.Accepted discord state := by
            rw [Accepted, hserved]
            exact Bool.false_ne_true
          dsimp only
          split
          · exact ⟨fun hread => absurd (hlook hread).1 hnot, fun hconfirmed =>
              absurd hconfirmed.1 hnot⟩
          · exact ⟨fun habsurd => absurd habsurd Bool.false_ne_true, fun hconfirmed =>
              absurd hconfirmed.1 hnot⟩
  | unheard failure =>
      have hsent : discord.call (.createResponse self.deferral) (.unheard failure) state =
          (.error failure, (discord.service.serve (.createResponse self.deferral) state).2) := rfl
      rw [acknowledge, Confirmed]
      rw [hsent] at hlook ⊢
      dsimp only at hlook ⊢
      split
      · rename_i hambiguous
        constructor
        · intro hread
          exact ⟨(hlook hread).1, .inr ⟨failure, rfl, hambiguous, hread⟩⟩
        · rintro ⟨-, habsurd | ⟨other, hother, -, hread⟩⟩
          · cases habsurd
          · exact hread
      · rename_i hdefinite
        constructor
        · intro habsurd
          cases habsurd
        · rintro ⟨-, habsurd | ⟨other, hother, hambiguous, -⟩⟩
          · cases habsurd
          · cases hother
            exact absurd hambiguous hdefinite
  | lost failure =>
      have hsent : discord.call (.createResponse self.deferral) (.lost failure) state =
          (.error failure, state) := rfl
      have hnever : ¬ self.Confirmed discord (.lost failure) verify state := by
        rintro ⟨-, habsurd | ⟨other, habsurd, -⟩⟩
        · cases habsurd
        · cases habsurd
      rw [acknowledge]
      rw [hsent] at hlook ⊢
      dsimp only at hlook ⊢
      split
      · exact ⟨fun hread => absurd (hlook hread).2 Bool.false_ne_true, fun hconfirmed =>
          absurd hconfirmed hnever⟩
      · exact ⟨fun habsurd => absurd habsurd Bool.false_ne_true, fun hconfirmed =>
          absurd hconfirmed hnever⟩

/-- How the life of an interaction comes out. -/
structure Outcome (request : Request) (discord : Interactions σ)
    (defer verify : Fate CallFailure) (replies : List Reply) (state : σ) (result : Bool × σ) :
    Prop where
  handled : result.1 = true ↔ request.Confirmed discord defer verify state
  response : result.1 = true →
    (discord.kept result.2).original.map Original.initial = some request.deferral
  shown : ∀ view, (discord.kept result.2).shown = some view →
    result.1 = true ∧ view ∈ replies.flatMap request.views
  followups : (discord.kept result.2).followups.Sublist (replies.flatMap request.texts)
  silent : result.1 = false → (discord.kept result.2).followups = []
  dropped : result.1 = false → (discord.kept result.2).original ≠ none →
    ∃ failure, defer = .unheard failure ∧ (ambiguous failure = true →
      (discord.call .response verify
        (discord.service.serve (.createResponse request.deferral) state).2).1.isOk = false)

/-- How the life of every interaction comes out. -/
theorem outcome_deliver (h : discord.Documented) (defer verify : Fate CallFailure)
    (replies : List Reply) {state : σ} (hfresh : discord.kept state = .fresh) :
    self.Outcome discord defer verify replies state
      (self.deliver discord defer verify replies state) := by
  have hhandled := self.acknowledge_iff h defer verify hfresh
  have hkept := self.kept_acknowledge h defer verify state
  have hleft := self.kept_defer h defer hfresh
  rw [← hkept] at hleft
  cases hacknowledged : (self.acknowledge discord defer verify state).1 with
  | true =>
      have hdeliver : self.deliver discord defer verify replies state =
          (true, replies.foldl (self.reply discord)
            (self.acknowledge discord defer verify state).2) := by
        simp only [deliver, hacknowledged, if_true]
      have hdeferred : discord.kept (self.acknowledge discord defer verify state).2 =
          ⟨some ⟨self.deferral, none⟩, []⟩ := by
        have hconfirmed := hhandled.mp hacknowledged
        have haccepted : (discord.service.serve (.createResponse self.deferral) state).1.isOk =
            true := hconfirmed.1
        have harrives : defer.arrives = true := by
          rcases hconfirmed.2 with rfl | ⟨failure, rfl, -, -⟩
          · rfl
          · rfl
        rw [hleft, harrives, haccepted]
        rfl
      have hreplied := self.replied_handling h replies (by rw [hdeferred]; rfl)
      rw [hdeferred] at hreplied
      obtain ⟨more, hmore, hsub⟩ := hreplied.followups
      rw [hdeliver]
      refine ⟨by rw [← hhandled, hacknowledged], fun _ => hreplied.initial, ?_, ?_, ?_, ?_⟩
      · intro view hview
        rcases hreplied.shown with hnone | ⟨other, hother, hshown⟩
        · rw [hnone] at hview
          cases hview
        · rw [hshown] at hview
          cases hview
          exact ⟨rfl, hother⟩
      · rw [hmore, List.nil_append]
        exact hsub
      · intro habsurd
        cases habsurd
      · intro habsurd
        cases habsurd
  | false =>
      have hdeliver : self.deliver discord defer verify replies state =
          (false, (self.acknowledge discord defer verify state).2) := by
        simp only [deliver, hacknowledged, Bool.false_eq_true, if_false]
      have hrefused : ¬ self.Confirmed discord defer verify state := fun hconfirmed => by
        rw [hhandled.mpr hconfirmed] at hacknowledged
        cases hacknowledged
      rw [hdeliver]
      refine ⟨?_, nofun, ?_, ?_, fun _ => ?_, fun _ horiginal => ?_⟩
      · exact ⟨fun habsurd => absurd habsurd Bool.false_ne_true, fun h => absurd h hrefused⟩
      · intro view hview
        rw [hleft] at hview
        split at hview
        · cases hview
        · cases hview
      · rw [hleft]
        split
        · exact List.nil_sublist _
        · exact List.nil_sublist _
      · rw [hleft]
        split
        · rfl
        · rfl
      · rw [hleft] at horiginal
        split at horiginal
        · rename_i hboth
          obtain ⟨harrives, haccepted⟩ := Bool.and_eq_true_iff.mp hboth
          cases defer with
          | answered => exact absurd ⟨haccepted, Or.inl rfl⟩ hrefused
          | unheard failure =>
              refine ⟨failure, rfl, fun hambiguous => Bool.eq_false_iff.mpr fun hread => ?_⟩
              exact hrefused ⟨haccepted, Or.inr ⟨failure, rfl, hambiguous, hread⟩⟩
          | lost failure => cases harrives
        · exact absurd rfl horiginal

/-- Whatever Discord refuses, and whatever gets lost between the bot and Discord: a command is
handled exactly if its deferral was accepted and the acceptance was seen. Its response then
stays the deferral, with the visibility that it had from the start, shows only what it was
edited to show, and no follow-up is sent that was not asked for, or sent twice. Otherwise
nothing is ever shown, and if Discord keeps the deferral all the same, its answer was lost
and the look at it failed. An interaction that is rejected instead shows the text to its user
only, or nothing. -/
theorem deliver_outcome (h : discord.Documented) (defer verify : Fate CallFailure)
    (replies : List Reply) {state : σ} (hfresh : discord.kept state = .fresh) :
    self.Outcome discord defer verify replies state
        (self.deliver discord defer verify replies state) ∧
      ∀ (autocomplete : Bool) (text : String) (fate : Fate CallFailure),
        discord.kept (reject discord autocomplete text fate state) = .fresh ∨
          discord.kept (reject discord autocomplete text fate state) =
            ⟨some ⟨rejection autocomplete text, none⟩, []⟩ :=
  ⟨self.outcome_deliver h defer verify replies hfresh,
    fun autocomplete text fate => kept_reject h autocomplete text fate hfresh⟩

end Request

/-! ## One such service -/

/-- What a service keeps of one interaction, and whether its token has expired. -/
structure Ledger where
  kept : Remote
  expired : Bool
  deriving DecidableEq, Repr

/-- A refusal by Discord. -/
def refusal (status code : ℕ) : Except CallFailure Unit :=
  .error (.http (.response status (some code)))

namespace Ledger

/-- A service that does what is documented: until the token expires, it accepts one initial
response, and edits and follow-ups after it, the first of which fills a deferred message. -/
def serve (operation : Operation) (ledger : Ledger) : Except CallFailure Unit × Ledger :=
  if ledger.expired then (refusal 404 10062, ledger)
  else
    match operation, ledger.kept.original with
    | .createResponse response, none =>
        (.ok (), { ledger with kept := { ledger.kept with original := some ⟨response, none⟩ } })
    | .createResponse _, some _ => (refusal 400 40060, ledger)
    | .response, some _ => (.ok (), ledger)
    | .updateResponse view, some original =>
        (.ok (), { ledger with
          kept := { ledger.kept with original := some { original with shown := some view } } })
    | .createFollowup text, some original =>
        (.ok (), { ledger with
          kept :=
            if original.initial.kind = .deferredChannelMessageWithSource ∧ original.shown = none
            then { ledger.kept with original := some { original with shown := some (.text text) } }
            else { ledger.kept with followups := ledger.kept.followups ++ [text] } })
    | _, none => (refusal 404 10015, ledger)

def interactions : Interactions Ledger :=
  ⟨⟨serve⟩, kept, fun ledger => { ledger with expired := true }⟩

theorem documented_interactions : interactions.Documented where
  refused := by
    rintro operation ⟨⟨_ | original, followups⟩, _ | _⟩ failure hfailed
    · cases operation with
      | createResponse response => cases hfailed
      | _ => rfl
    · rfl
    · cases operation with
      | createResponse response => rfl
      | _ => cases hfailed
    · rfl
  created := by
    rintro response ⟨⟨_ | original, followups⟩, _ | _⟩ hserved
    · exact ⟨rfl, rfl⟩
    · cases hserved
    · cases hserved
    · cases hserved
  read := by
    rintro ⟨⟨_ | original, followups⟩, _ | _⟩ hserved
    · cases hserved
    · cases hserved
    · exact ⟨Option.some_ne_none original, rfl⟩
    · cases hserved
  edited := by
    rintro view ⟨⟨_ | original, followups⟩, _ | _⟩ hserved
    · cases hserved
    · cases hserved
    · exact ⟨original, rfl, rfl⟩
    · cases hserved
  followed := by
    rintro text ⟨⟨_ | original, followups⟩, _ | _⟩ hserved hshown
    · cases hserved
    · cases hserved
    · exact if_neg fun hempty => hshown original rfl hempty.1 hempty.2
    · cases hserved
  passed := fun _ => rfl

end Ledger

/-- The answer to the deferral gets lost, and the look at the response finds it. -/
theorem Request.deliver_outcome_unheard :
    (Request.deliver ⟨⟨1, none, none, none, none, .other⟩, "queue", [], none⟩ Ledger.interactions
      (.unheard .elapsed) .answered [.respond (View.text "Nothing is queued.") .answered]
      ⟨.fresh, false⟩).1 = true :=
  (Request.deliver_outcome _ Ledger.documented_interactions _ _ _ rfl).1.handled.mpr
    ⟨rfl, .inr ⟨.elapsed, rfl, rfl, rfl⟩⟩

end Raydio.Discord
