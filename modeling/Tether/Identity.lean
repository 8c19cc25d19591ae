import Tether.Store

/-!
# `Tether.Identity` — the persisted identity of a client

A client keeps the thread and the session of its last handshake under two keys of its own, so that a
later run can resume the thread. Saving sets the thread first, then the session; forgetting removes
them in the same order.
-/

namespace Tether

/-- Whose entries are meant. -/
structure Identity where
  clientId : String
  deriving DecidableEq, Repr, Inhabited

namespace Identity

/-- The key of the thread. -/
def threadKey (i : Identity) : String := "ltp_thread_id:" ++ i.clientId

/-- The key of the session. -/
def sessionKey (i : Identity) : String := "ltp_session_id:" ++ i.clientId

/-- The persisted thread. -/
def thread? (i : Identity) (s : Store) : Option String := s.get? i.threadKey

/-- The persisted session. -/
def session? (i : Identity) (s : Store) : Option String := s.get? i.sessionKey

/-- The call that reads the thread. -/
def reading (i : Identity) : StoreCall := .get i.threadKey

/-- The calls that persist both ids. -/
def saving (i : Identity) (threadId sessionId : String) : List StoreCall :=
  [.set i.threadKey threadId, .set i.sessionKey sessionId]

/-- The calls that forget both ids. -/
def clearing (i : Identity) : List StoreCall := [.remove i.threadKey, .remove i.sessionKey]

/-- The store with both ids persisted. -/
def save (i : Identity) (s : Store) (threadId sessionId : String) : Store :=
  (i.saving threadId sessionId).foldl StoreCall.apply s

/-- The store with both ids forgotten. -/
def clear (i : Identity) (s : Store) : Store := i.clearing.foldl StoreCall.apply s

end Identity
end Tether
