import Tether.Crypto.Curve
import Tether.Crypto.Fault
import Tether.Bytes.Base64

/-!
# `Tether.Crypto.Exchange` — key pairs and key agreement

Each handshake uses an ephemeral key pair on P-256. A public key travels as base64 of its
uncompressed SEC1 encoding (`04`, then both coordinates); it may be received compressed as well. The
shared secret is the `x` coordinate of the product of one side's scalar and the other side's point.
-/

namespace Tether

open Crypto (Curve.Point)

/-- Bytes in an uncompressed public key. -/
def publicKeySize : Nat := 65

/-- A public key. -/
structure PublicKey where
  point : Crypto.Curve.Point
  deriving DecidableEq, Repr, Inhabited

namespace PublicKey

/-- The point of an SEC1 encoding: uncompressed, compressed with the parity of `y`, or compact, where
`y` is the lesser of the two roots. -/
def point? : Bytes → Option Crypto.Curve.Point
  | [] => none
  | form :: rest =>
    if form = 4 ∧ rest.length = 64 then
      let p : Crypto.Curve.Point := ⟨Bytes.toNat (rest.take 32), Bytes.toNat (rest.drop 32)⟩
      if Crypto.Curve.contains p then some p else none
    else if rest.length = 32 then
      let x := Bytes.toNat rest
      if form = 2 then Crypto.Curve.lift? x false
      else if form = 3 then Crypto.Curve.lift? x true
      else if form = 5 then
        (Crypto.Curve.lift? x false).map fun p => ⟨p.x, min p.y (Crypto.Curve.sub 0 p.y)⟩
      else none
    else none

/-- The public key of an SEC1 encoding. -/
def ofSec1 (bs : Bytes) : Except ExchangeFault PublicKey :=
  match point? bs with
  | some p => .ok ⟨p⟩
  | none => .error (.invalidPublicKey
      (toString bs.length ++ " bytes, not a valid P-256 point"))

/-- The public key of a base64 text. -/
def ofBase64 (s : String) : Except ExchangeFault PublicKey :=
  match Bytes.Base64.decode? s with
  | some bs => ofSec1 bs
  | none => .error (.invalidPublicKey "not base64")

/-- The uncompressed SEC1 encoding. -/
def toSec1 (k : PublicKey) : Bytes := 4 :: (Bytes.ofNat 32 k.point.x ++ Bytes.ofNat 32 k.point.y)

/-- Base64 of the uncompressed encoding. -/
def toBase64 (k : PublicKey) : String := Bytes.Base64.encode k.toSec1

/-- The key as shown in diagnostics: the first bytes of its `x`. -/
def label (k : PublicKey) : String :=
  "PublicKey([" ++ Bytes.Hex.encode ((k.toSec1.drop 1).take 4) ++ "...])"

@[simp] theorem length_toSec1 (k : PublicKey) : k.toSec1.length = publicKeySize := by
  simp [toSec1, publicKeySize]

end PublicKey

/-- A private scalar with its public key. -/
structure KeyPair where
  scalar : Nat
  publicKey : PublicKey
  deriving DecidableEq, Repr, Inhabited

namespace KeyPair

/-- The key pair of a scalar between zero and the order of the curve, both excluded. -/
def ofScalar? (scalar : Nat) : Option KeyPair :=
  if 0 < scalar ∧ scalar < Crypto.Curve.order then
    (Crypto.Curve.scale scalar Crypto.Curve.base).map fun p => ⟨scalar, ⟨p⟩⟩
  else none

/-- The key pair of a big-endian scalar of 32 bytes. -/
def ofSecret (bs : Bytes) : Except ExchangeFault KeyPair :=
  if bs.length = 32 then
    match ofScalar? (Bytes.toNat bs) with
    | some pair => .ok pair
    | none => .error (.invalidPrivateKey "scalar out of range")
  else .error (.invalidPrivateKey ("Expected 32 bytes, got " ++ toString bs.length))

/-- The secret shared with the owner of a public key. -/
def agree (pair : KeyPair) (peer : PublicKey) : Bytes :=
  match Crypto.Curve.scale pair.scalar peer.point with
  | some p => Bytes.ofNat 32 p.x
  | none => Bytes.ofNat 32 0

/-- The pair as shown in diagnostics, without its scalar. -/
def label (pair : KeyPair) : String :=
  "KeyPair \x7b public: " ++ pair.publicKey.label ++ ", secret: \"[REDACTED]\" \x7d"

end KeyPair
end Tether
