import Tether.Crypto.Hmac
import Tether.Crypto.Exchange

/-!
# `Tether.Crypto.Keys` — providers, key material and session keys

A `Provider` is the backend of every cryptographic operation the session engine performs; the
standard one is `Provider.software`. Session keys are split from one shared secret with HKDF: the
salt binds them to the session, and each purpose has a label of its own.

* `SessionKeys.derive` — the three keys of a session;
* `KeyExchange` — one side of a key agreement, complete once the peer's key has arrived.
-/

namespace Tether

/-- The backend of cryptographic operations. -/
structure Provider where
  name : String
  hmac : (key message : Bytes) → Except CryptoFault Bytes
  hkdf : (material salt info : Bytes) → (length : Nat) → Except CryptoFault Bytes
  agree : KeyPair → PublicKey → Bytes
  equal : Bytes → Bytes → Bool

namespace Provider

/-- HKDF, with the refusal of an output that is too long. -/
def softwareHkdf (material salt info : Bytes) (length : Nat) : Except CryptoFault Bytes :=
  match Crypto.hkdf material salt info length with
  | some okm => .ok okm
  | none => .error (.key (.derivationFailed
      "HKDF expand failed: invalid number of blocks, too large output"))

/-- The standard backend. -/
def software : Provider where
  name := "SoftwareCrypto"
  hmac key message := .ok (Crypto.hmac key message)
  hkdf := softwareHkdf
  agree := KeyPair.agree
  equal a b := a == b

/-- A backend like another one whose HMAC fails. -/
def withFailingHmac (p : Provider) (fault : CryptoFault) : Provider :=
  { p with hmac := fun _ _ => .error fault }

/-- A backend like another one whose derivations have `length` bytes, whatever is asked for. -/
def withFixedHkdf (p : Provider) (length : Nat) : Provider :=
  { p with hkdf := fun material salt info _ => p.hkdf material salt info length }

end Provider

/-! ## Key material -/

/-- Secret bytes. -/
structure Key where
  bytes : Bytes
  deriving DecidableEq, Repr, Inhabited

namespace Key

/-- The key of a hexadecimal text. -/
def ofHex (s : String) : Except KeyFault Key :=
  match Bytes.Hex.decode s with
  | .ok bs => .ok ⟨bs⟩
  | .error f => .error (.ofHex f)

/-- The key of a text. -/
def ofText (s : String) : Key := ⟨Bytes.ofText s⟩

/-- The key as shown in diagnostics. -/
def label (k : Key) : String := "KeyMaterial([REDACTED, " ++ toString k.bytes.length ++ " bytes])"

end Key

/-! ## Session keys -/

/-- The keys of one session, one for each purpose. -/
structure SessionKeys where
  encryption : Key
  mac : Key
  iv : Key
  deriving DecidableEq, Repr

namespace SessionKeys

/-- What a salt starts with. -/
def saltStart : String := "ltp-v0.5-"

/-- The label of the encryption key. -/
def encryptionInfo : String := "ltp-encryption-key"

/-- The label of the MAC key. -/
def macInfo : String := "ltp-mac-key"

/-- The label of the IV key. -/
def ivInfo : String := "ltp-iv-key"

/-- Bytes in an encryption key. -/
def encryptionSize : Nat := 32

/-- Bytes in a MAC key. -/
def macSize : Nat := 32

/-- Bytes in an IV key. -/
def ivSize : Nat := 16

/-- The salt of a session. -/
def salt (sessionId : String) : Bytes := Bytes.ofText (saltStart ++ sessionId)

/-- One derived key; a backend that yields another length is refused. -/
def deriveKey (p : Provider) (secret : Key) (sessionId info : String) (size : Nat) :
    Except CryptoFault Key :=
  match p.hkdf secret.bytes (salt sessionId) (Bytes.ofText info) size with
  | .error f => .error f
  | .ok okm =>
    if okm.length = size then .ok ⟨okm⟩ else .error (.key (.invalidLength size okm.length))

/-- The keys of a session, derived in the order encryption, MAC, IV. -/
def derive (p : Provider) (secret : Key) (sessionId : String) : Except CryptoFault SessionKeys :=
  if secret.bytes.isEmpty then .error (.key .empty)
  else do
    let encryption ← deriveKey p secret sessionId encryptionInfo encryptionSize
    let mac ← deriveKey p secret sessionId macInfo macSize
    let iv ← deriveKey p secret sessionId ivInfo ivSize
    .ok ⟨encryption, mac, iv⟩

/-- The keys as shown in diagnostics. -/
def label : String :=
  "SessionKeys \x7b encryption_key: \"[REDACTED]\", mac_key: \"[REDACTED]\", "
    ++ "iv_key: \"[REDACTED]\" \x7d"

end SessionKeys

/-! ## Key exchange -/

/-- One side of a key agreement. -/
structure KeyExchange where
  pair : KeyPair
  secret : Option Key := none
  deriving DecidableEq, Repr

namespace KeyExchange

/-- Takes in the peer's public key. -/
def complete (x : KeyExchange) (p : Provider) (peer : PublicKey) : KeyExchange :=
  { x with secret := some ⟨p.agree x.pair peer⟩ }

/-- Has the peer's public key arrived? -/
def isComplete (x : KeyExchange) : Bool := x.secret.isSome

/-- The keys of a session. -/
def sessionKeys (x : KeyExchange) (p : Provider) (sessionId : String) :
    Except CryptoFault SessionKeys :=
  match x.secret with
  | some secret => SessionKeys.derive p secret sessionId
  | none => .error (.exchange .incomplete)

end KeyExchange
end Tether
