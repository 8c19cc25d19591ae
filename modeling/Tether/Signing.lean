import Tether.Message.Envelope
import Tether.Crypto.Keys
import Tether.Error
import Tether.Protocol
import Tether.Text.Quoted

/-!
# `Tether.Signing` — signatures of envelopes

A signature is an HMAC over a canonical record: type, thread, session if there is one, time, nonce
and payload, in this order, with the members of free-form objects sorted. The session's MAC key signs
if there is one, the configured secret otherwise. Without a key, or when the HMAC fails, the envelope
carries a placeholder and is sent all the same.

* `Envelope.canonical` — the bytes a signature covers;
* `Signer.sign` — attaches a nonce and a signature, never fails;
* `Signer.verify` — checks the signature of an envelope.
-/

namespace Tether

namespace Envelope

/-- The record a signature covers. -/
def signable (e : Envelope) : Json :=
  .object ([("type", .text e.kind.name), ("thread_id", Json.ofText? e.threadId)]
    ++ Meta.present "session_id" (e.sessionId.map .text)
    ++ [("timestamp", .number (.whole (Whole.ofInt64 e.timestamp))),
      ("nonce", .text (e.nonce.getD "")), ("payload", e.payload)])

/-- The text of the record a signature covers. -/
def canonicalText (e : Envelope) : String := e.signable.render

/-- The bytes a signature covers. -/
def canonical (e : Envelope) : Bytes := Bytes.ofText e.canonicalText

end Envelope

/-- What happens to an inbound envelope whose signature does not verify. -/
inductive Policy where
  /-- It is delivered, and a mismatch is logged. -/
  | lenient
  /-- It is dropped. -/
  | strict
  deriving DecidableEq, Repr, Inhabited

namespace Policy

/-- The policies by name. -/
def known : List (String × Policy) := [("lenient", .lenient), ("strict", .strict)]

/-- The name in configurations. -/
def name : Policy → String
  | .lenient => "lenient"
  | .strict => "strict"

/-- The policy as shown in diagnostics. -/
def label : Policy → String
  | .lenient => "Lenient"
  | .strict => "Strict"

end Policy

/-- The result of checking an envelope. -/
inductive Verification where
  | valid
  /-- There is a signature, and it is wrong. -/
  | mismatch
  /-- There is no signature, or the placeholder. -/
  | unsigned
  /-- There is no key to check with. -/
  | noKey
  deriving DecidableEq, Repr

namespace Verification

/-- The result in words. -/
def message : Verification → String
  | .valid => "valid"
  | .mismatch => "signature mismatch"
  | .unsigned => "unsigned"
  | .noKey => "no verification key"

/-- Does the signature match? -/
def isValid (v : Verification) : Bool := v == .valid

end Verification

/-- Signs outbound and checks inbound envelopes of one client. -/
structure Signer where
  clientId : String
  secret : Option Key
  policy : Policy
  deriving Repr

namespace Signer

/-- The signer of a client; an empty secret counts as none. -/
def create (clientId : String) (secret : Option String) (policy : Policy) : Signer where
  clientId
  secret := (secret.filter fun s => s ≠ "").map Key.ofText
  policy

/-- Is a secret configured? -/
def hasSecret (s : Signer) : Bool := s.secret.isSome

/-- Random bytes in a nonce. -/
def nonceSize : Nat := 8

/-- A nonce: the client, the time in milliseconds and random digits. -/
def nonce (clientId : String) (milliseconds : Int) (random : Bytes) : String :=
  clientId ++ "-" ++ String.ofList (Json.integerChars milliseconds) ++ "-"
    ++ Bytes.Hex.encode random

/-- The key in force: the session's, or else the secret. -/
def key (s : Signer) (sessionKey : Option Key) : Option Key := sessionKey.or s.secret

/-- The signature of an envelope under a key. -/
def signature (p : Provider) (key : Key) (e : Envelope) : Except CryptoFault String :=
  match p.hmac key.bytes e.canonical with
  | .ok tag => .ok (Bytes.Hex.encode tag)
  | .error f => .error f

/-- Attaches a nonce and a signature. Where the HMAC fails, its fault is returned as well, and the
signature is the placeholder. -/
def sign (s : Signer) (p : Provider) (milliseconds : Int) (random : Bytes)
    (sessionKey : Option Key) (e : Envelope) : Envelope × Option Error :=
  let e := { e with nonce := some (nonce s.clientId milliseconds random) }
  match s.key sessionKey with
  | none => ({ e with signature := some Protocol.placeholderSignature }, none)
  | some key =>
    match signature p key e with
    | .ok text => ({ e with signature := some text }, none)
    | .error f =>
      ({ e with signature := some Protocol.placeholderSignature }, some (.crypto f))

/-- ASCII letters in lower case; other characters stay. -/
def lowerAscii (s : String) : String := String.ofList (s.toList.map Char.toLower)

/-- Checks the signature of an envelope. -/
def verify (s : Signer) (p : Provider) (sessionKey : Option Key) (e : Envelope) : Verification :=
  match e.signature with
  | none => .unsigned
  | some given =>
    if given = Protocol.placeholderSignature then .unsigned
    else
      match s.key sessionKey with
      | none => .noKey
      | some key =>
        match signature p key e with
        | .error _ => .mismatch
        | .ok expected =>
          if p.equal (Bytes.ofText expected) (Bytes.ofText (lowerAscii given)) then .valid
          else .mismatch

/-- The signer as shown in diagnostics, without its secret. -/
def label (s : Signer) (p : Provider) : String :=
  let secret := if s.hasSecret then "Some(\"[REDACTED]\")" else "None"
  "AuthPipeline \x7b client_id: " ++ Text.quoted s.clientId ++ ", provider: " ++ p.name
    ++ ", secret: " ++ secret ++ ", policy: " ++ s.policy.label ++ " \x7d"

end Signer
end Tether
