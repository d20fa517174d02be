/-
# Health of the music node

What the node task publishes about its connection, and what a reader of the
health sees of the last audio window.
-/

import Raydio.Foundation.Checked
import Raydio.Foundation.Json

namespace Raydio.Node

open Raydio.Foundation

/-- The last node-wide frame window. -/
structure AudioHealth where
  windows : ℕ
  sent : ℕ
  unavailable : ℕ
  missedDeadlines : ℕ
  observedAt : Option ℕ
  deriving DecidableEq, Repr

/-- `AudioHealth::default`. -/
def AudioHealth.default : AudioHealth := ⟨0, 0, 0, 0, none⟩

/-- Take over a complete frame window; an incomplete one is ignored. -/
def AudioHealth.observe (self : AudioHealth) (now : ℕ) (value : Value) : AudioHealth :=
  match (value.get "sent").asU64, (value.get "nulled").asU64, (value.get "deficit").asU64 with
  | some sent, some unavailable, some missedDeadlines =>
      { windows := saturatingAdd self.windows 1
        sent := sent
        unavailable := unavailable
        missedDeadlines := missedDeadlines
        observedAt := some now }
  | _, _, _ => self

/-- The published state of the connection. -/
structure Health where
  ready : Bool
  session : String
  connections : ℕ
  errors : ℕ
  audio : AudioHealth
  deriving DecidableEq, Repr

/-- `Health::default`. -/
def Health.default : Health := ⟨false, "", 0, 0, .default⟩

end Raydio.Node
