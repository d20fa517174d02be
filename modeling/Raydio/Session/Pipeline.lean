/-
# The way of a play request

A play request is admitted to a deque, waits for the single loading slot, is
resolved by a task of its own and is then committed. A stop, a leave and every
cleanup invalidate what is under way: the epoch advances, the tasks are aborted
and the requests are drained.

`Pipeline` holds the part of a session that this concerns. Its `ledger`,
`admissions` and `committing`, and the admission numbers of requests and tasks,
are history: no operation reads them.
-/

import Raydio.Session.Shared

namespace Raydio.Session

open Raydio.Foundation Raydio.Discord Raydio.Resolver

/-- A play request that was admitted and not yet committed. -/
structure Pending where
  request : Request
  channel : ℕ
  epoch : ℕ
  sequence : ℕ
  /-- The number of requests admitted up to this one. -/
  admission : ℕ
  deriving DecidableEq, Repr

/-- What a loader task was spawned with. -/
structure Loader where
  sequence : ℕ
  input : String
  capacity : ℕ
  /-- The admission number of the request it resolves. -/
  admission : ℕ
  deriving DecidableEq, Repr

/-- What can happen to a play request, by admission number. -/
inductive Milestone
  | admitted (admission : ℕ)
  /-- Everything under way was invalidated. -/
  | invalidated
  /-- Drained by an invalidation, with or without a reply. -/
  | cancelled (admission : ℕ) (answered : Bool)
  /-- A loader's completion emptied the loading slot. -/
  | taken (admission loader : ℕ)
  /-- A loader's resolution was thrown away. -/
  | discarded (loader : ℕ)
  | committed (admission : ℕ)
  /-- The commit began to join a voice channel. -/
  | joined (admission : ℕ)
  /-- The commit added tracks to the queue. -/
  | enqueued (admission : ℕ)
  deriving DecidableEq, Repr

/-- What a completion hands to the session: the request with its resolution, or
the request whose loader is taken to have panicked. -/
inductive Delivery
  | resolved (pending : Pending) (resolution : Except Failure Resolution)
  | panicked (pending : Pending)
  deriving DecidableEq, Repr

/-- The play requests of a session. -/
structure Pipeline where
  epoch : ℕ
  sequence : ℕ
  pending : List Pending
  loading : Option Pending
  loaders : JoinSet Loader (Except Failure Resolution)
  responses : JoinSet Pending Unit
  admissions : ℕ
  /-- The request whose commit may still join or enqueue. -/
  committing : Option Pending
  ledger : List Milestone

namespace Pipeline

/-- The pipeline of a new session. -/
def new : Pipeline :=
  { epoch := 0, sequence := 0, pending := [], loading := none, loaders := .new
    responses := .new, admissions := 0, committing := none, ledger := [] }

/-- The requests that count against the limit. -/
def inFlight (self : Pipeline) : ℕ := self.pending.length + if self.loading.isSome then 1 else 0

/-- Note down a milestone. -/
def mark (self : Pipeline) (milestone : Milestone) : Pipeline :=
  { self with ledger := self.ledger ++ [milestone] }

/-- The last step of `prepare_play`. -/
def enter (self : Pipeline) (request : Request) (channel : ℕ) : Pipeline :=
  { self with
    sequence := wrappingSucc self.sequence
    pending := self.pending ++
      [⟨request, channel, self.epoch, wrappingSucc self.sequence, self.admissions + 1⟩]
    admissions := self.admissions + 1
    ledger := self.ledger ++ [.admitted (self.admissions + 1)] }

/-- `start_load`, given the room that is left in the queue. -/
def startLoad (self : Pipeline) (capacity : ℕ) : Pipeline :=
  match self.loading, self.pending with
  | none, pending :: rest =>
      { self with
        pending := rest
        loading := some pending
        loaders := self.loaders.spawn
          ⟨pending.sequence, pending.request.option "request", capacity, pending.admission⟩ }
  | _, _ => self

/-- The loop of `invalidate` that answers drained requests, at most 128 at a time. -/
def drain (responses : JoinSet Pending Unit) : List Pending → JoinSet Pending Unit × List Milestone
  | [] => (responses, [])
  | pending :: rest =>
      let answered := decide (responses.len < 128)
      let drained := drain (if answered then responses.spawn pending else responses) rest
      (drained.1, .cancelled pending.admission answered :: drained.2)

/-- `invalidate`. -/
def invalidate (self : Pipeline) : Pipeline :=
  let waiting := match self.loading with
    | some pending => pending :: self.pending
    | none => self.pending
  let drained := drain self.responses waiting
  { self with
    epoch := wrappingSucc self.epoch
    loaders := self.loaders.abortAll
    loading := none
    pending := []
    responses := drained.1
    committing := none
    ledger := self.ledger ++ .invalidated :: drained.2 }

/-- The loader arm of `run` up to the commit: the completion of the loader at
`index` is joined. -/
def joinLoader (self : Pipeline) (index : ℕ) : Option Delivery × Pipeline :=
  match self.loaders.joinNext index with
  | none => (none, self)
  | some (task, how, loaders) =>
      let self := { self with loaders := loaders }
      match how, self.loading with
      | .finished resolution, some pending =>
          if pending.sequence = task.tag.sequence then
            (some (.resolved pending resolution), { self with
              loading := none
              committing := some pending
              ledger := self.ledger ++
                [.taken pending.admission task.tag.admission, .committed pending.admission] })
          else (none, self.mark (.discarded task.tag.admission))
      | .finished _, none => (none, self.mark (.discarded task.tag.admission))
      -- The error carries no sequence number: any loading request is taken.
      | .panicked, some pending =>
          (some (.panicked pending), { self with
            loading := none
            ledger := self.ledger ++ [.taken pending.admission task.tag.admission] })
      | .panicked, none => (none, self)
      | .cancelled, _ => (none, self)

/-- `self.loaders.abort_all()` at the end of `run`. -/
def abort (self : Pipeline) : Pipeline := { self with loaders := self.loaders.abortAll }

/-- A commit is over. -/
def settle (self : Pipeline) : Pipeline := { self with committing := none }

end Pipeline

end Raydio.Session
