import Tether.Bytes.Hex
import Tether.Text.Quoted

/-!
# `Tether.Crypto.Fault` — why a cryptographic operation fails

Each primitive has its faults; `CryptoFault` is their union. `message` gives the words, and
`CryptoFault.causes` the chain from the union down to the primitive.
-/

namespace Tether

/-- Faults of authenticated encryption. -/
inductive AeadFault where
  | invalidKey (reason : String)
  | encryptionFailed (reason : String)
  /-- Ciphertext, IV or tag were altered, or the key is another. -/
  | authenticationFailed
  deriving DecidableEq, Repr

/-- Faults of message authentication. -/
inductive HmacFault where
  | invalidKey (reason : String)
  deriving DecidableEq, Repr

/-- Faults of key material. -/
inductive KeyFault where
  | empty
  | invalidLength (expected actual : Nat)
  | invalidHex (reason : String)
  | derivationFailed (reason : String)
  deriving DecidableEq, Repr

/-- Faults of key exchange. -/
inductive ExchangeFault where
  | invalidPublicKey (reason : String)
  | invalidPrivateKey (reason : String)
  /-- The shared secret was asked for before the peer's key arrived. -/
  | incomplete
  deriving DecidableEq, Repr

/-- A fault of any primitive. -/
inductive CryptoFault where
  | aead (f : AeadFault)
  | hmac (f : HmacFault)
  | key (f : KeyFault)
  | exchange (f : ExchangeFault)
  deriving DecidableEq, Repr

namespace AeadFault

/-- The fault in words. -/
def message : AeadFault → String
  | .invalidKey reason => "Invalid AEAD key: " ++ reason
  | .encryptionFailed reason => "Encryption failed: " ++ reason
  | .authenticationFailed => "Authentication failed"

end AeadFault

namespace HmacFault

/-- The fault in words. -/
def message : HmacFault → String
  | .invalidKey reason => "Invalid HMAC key: " ++ reason

end HmacFault

namespace KeyFault

/-- The fault in words. -/
def message : KeyFault → String
  | .empty => "Key material is empty"
  | .invalidLength expected actual =>
    "Invalid key length: expected " ++ toString expected ++ " bytes, got " ++ toString actual
  | .invalidHex reason => "Invalid hex key: " ++ reason
  | .derivationFailed reason => "Key derivation failed: " ++ reason

/-- The fault of a hexadecimal text. The offending byte is shown as the character of its number. -/
def ofHex : Bytes.Hex.Fault → KeyFault
  | .oddLength => .invalidHex "Odd number of digits"
  | .badDigit byte position =>
    .invalidHex ("Invalid character " ++ Text.quotedChar (Char.ofNat byte.toNat) ++ " at position "
      ++ toString position)

end KeyFault

namespace ExchangeFault

/-- The fault in words. -/
def message : ExchangeFault → String
  | .invalidPublicKey reason => "Invalid public key: " ++ reason
  | .invalidPrivateKey reason => "Invalid private key: " ++ reason
  | .incomplete => "Key exchange incomplete"

end ExchangeFault

namespace CryptoFault

/-- The fault of the primitive in words. -/
def cause : CryptoFault → String
  | .aead f => f.message
  | .hmac f => f.message
  | .key f => f.message
  | .exchange f => f.message

/-- The fault in words, with the name of the primitive. -/
def message (f : CryptoFault) : String :=
  let name := match f with
    | .aead _ => "AEAD"
    | .hmac _ => "HMAC"
    | .key _ => "Key"
    | .exchange _ => "Key exchange"
  name ++ ": " ++ f.cause

/-- Did a ciphertext fail authentication? -/
def isAuthenticationFailure : CryptoFault → Bool
  | .aead .authenticationFailed => true
  | _ => false

/-- The words of the fault, then those of the primitive's fault. -/
def causes (f : CryptoFault) : List String := [f.message, f.cause]

end CryptoFault
end Tether
