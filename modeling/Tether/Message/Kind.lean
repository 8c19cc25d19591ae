/-!
# `Tether.Message.Kind` — message types

Nine types have a meaning of their own; every other name is an application-defined type. Four of the
nine are handshake messages, which carry their fields at top level.

Main statements: `name_ofName` and `ofName_name_of_mem` (a kind and its wire name determine each
other, as long as `other` is not used for a built-in name).
-/

namespace Tether

/-- The type of a message. -/
inductive Kind where
  | handshakeInit
  | handshakeResume
  | handshakeAck
  | handshakeReject
  | ping
  | pong
  | stateUpdate
  | event
  | error
  | other (name : String)
  deriving DecidableEq, Repr, Inhabited

namespace Kind

/-- The wire name. -/
def name : Kind → String
  | .handshakeInit => "handshake_init"
  | .handshakeResume => "handshake_resume"
  | .handshakeAck => "handshake_ack"
  | .handshakeReject => "handshake_reject"
  | .ping => "ping"
  | .pong => "pong"
  | .stateUpdate => "state_update"
  | .event => "event"
  | .error => "error"
  | .other name => name

/-- The kinds with a meaning of their own. -/
def builtin : List Kind :=
  [.handshakeInit, .handshakeResume, .handshakeAck, .handshakeReject, .ping, .pong, .stateUpdate,
    .event, .error]

/-- The kind of a wire name. -/
def ofName (s : String) : Kind := (builtin.find? fun k => k.name = s).getD (.other s)

/-- Is it one of the four handshake types? -/
def isHandshake : Kind → Bool
  | .handshakeInit | .handshakeResume | .handshakeAck | .handshakeReject => true
  | _ => false

/-- Every wire name is the name of its kind. -/
@[simp] theorem name_ofName (s : String) : (ofName s).name = s := by
  unfold ofName
  cases h : builtin.find? (fun k => k.name = s) with
  | none => rfl
  | some k => simpa using List.find?_some h

/-- A built-in kind is found by its name. -/
theorem ofName_name_of_mem {k : Kind} (h : k ∈ builtin) : ofName k.name = k := by
  simp only [builtin, List.mem_cons, List.not_mem_nil, or_false] at h
  rcases h with rfl | rfl | rfl | rfl | rfl | rfl | rfl | rfl | rfl <;> decide

end Kind
end Tether
