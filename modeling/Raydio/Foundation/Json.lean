/-
# JSON values

The value type of `serde_json` with the accessors a reader of untrusted payloads
uses. Indexing a missing key, or indexing anything but an object, gives `null`,
so a chain of indices is total.
-/

import Mathlib

namespace Raydio.Foundation

/-- `serde_json::Number`: an integer in the range of `u64`, a negative one, or a
float kept as its text. -/
inductive Number
  | posInt (n : UInt64)
  | negInt (n : ℤ)
  | float (text : String)
  deriving DecidableEq, Repr

/-- `serde_json::Value`. -/
inductive Value
  | null
  | bool (b : Bool)
  | number (n : Number)
  | string (s : String)
  | array (elements : List Value)
  | object (fields : List (String × Value))
  deriving Repr

namespace Value

/-- `value[key]` for a string key. -/
def get (value : Value) (key : String) : Value :=
  match value with
  | .object fields => (fields.lookup key).getD .null
  | _ => .null

/-- `Value::as_u64`. -/
def asU64 : Value → Option ℕ
  | .number (.posInt n) => some n.toNat
  | _ => none

/-- `Value::as_str`. -/
def asStr : Value → Option String
  | .string s => some s
  | _ => none

/-- `Value::as_bool`. -/
def asBool : Value → Option Bool
  | .bool b => some b
  | _ => none

/-- `Value::is_null`. -/
def isNull : Value → Bool
  | .null => true
  | _ => false

/-- `value == "text"`. -/
def isStr (value : Value) (text : String) : Bool := value.asStr == some text

/-- `value == true`. -/
def isTrue (value : Value) : Bool := value.asBool == some true

end Value

end Raydio.Foundation
