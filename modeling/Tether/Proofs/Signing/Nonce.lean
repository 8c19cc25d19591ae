import Tether.Proofs.Json.Printed
import Tether.Proofs.Signing.Tag

/-!
# `Tether.Proofs.Signing.Nonce` — when two nonces are the same

A nonce joins a client, a time and random digits by dashes. The client may contain dashes itself, and a
time before the epoch starts with one, so a nonce is read from its end: the random digits are told by
their number, the digits of the time by the last dash before them. What is left in front is the client,
and, of a time before the epoch, its sign (`Signer.stem`). So a client that ends in a dash can be taken
for another one at the opposite time, and there is no other way to take one nonce for another.

* `Signer.nonce_eq_iff` — when two nonces are the same, whatever the clients and times;
* `Signer.nonce_inj` — a nonce of a known client shows the time and the random bytes it was made of;
* `Signer.nonce_unrepeated` — nonces repeat only where client, time and random bytes all repeat.
-/

namespace Tether.Signer

variable {clientId clientId' : String} {milliseconds milliseconds' : Int} {random random' : Bytes}

/-! ## The last dash -/

theorem eq_nil_of_cons_eq {c : Char} {before digits digits' : List Char} (hc : c ∉ digits)
    (h : c :: digits = before ++ c :: digits') : before = [] := by
  cases before with
  | nil => rfl
  | cons b before =>
    have hdigits : digits = before ++ c :: digits' := (List.cons.inj h).2
    exact absurd (hdigits ▸ List.mem_append_right before List.mem_cons_self) hc

/-- A text divides in one way at the last character of its kind. -/
theorem split_inj {c : Char} {front front' digits digits' : List Char} (hc : c ∉ digits)
    (hc' : c ∉ digits') :
    front ++ c :: digits = front' ++ c :: digits' ↔ front = front' ∧ digits = digits' := by
  constructor
  · intro h
    rcases List.append_eq_append_iff.mp h with ⟨between, hfront, hrest⟩ | ⟨between, hfront, hrest⟩
    · obtain rfl := eq_nil_of_cons_eq hc hrest
      exact ⟨(hfront.trans (List.append_nil _)).symm, (List.cons.inj hrest).2⟩
    · obtain rfl := eq_nil_of_cons_eq hc' hrest
      exact ⟨hfront.trans (List.append_nil _), (List.cons.inj hrest).2.symm⟩
  · rintro ⟨rfl, rfl⟩
    rfl

/-! ## The parts of a nonce -/

theorem dash_notMem_toDigits (n : Nat) : '-' ∉ Nat.toDigits 10 n :=
  fun h => absurd (Json.isDigit_of_mem_toDigits h) (by decide)

theorem toDigits_inj {m n : Nat} : Nat.toDigits 10 m = Nat.toDigits 10 n ↔ m = n := by
  refine ⟨fun h => ?_, congrArg _⟩
  rw [← Json.natural_toDigits m, h, Json.natural_toDigits]

/-- What stands before the dash in front of the digits of the time: the client, and the sign of a time
    before the epoch. -/
def stem (clientId : String) (milliseconds : Int) : String :=
  if milliseconds < 0 then clientId ++ "-" else clientId

theorem stem_of_neg (h : milliseconds < 0) : stem clientId milliseconds = clientId ++ "-" := if_pos h

theorem stem_of_nonneg (h : 0 ≤ milliseconds) : stem clientId milliseconds = clientId :=
  if_neg (Int.not_lt.mpr h)

/-- A nonce in the parts that it is read in. -/
theorem toList_nonce (clientId : String) (milliseconds : Int) (random : Bytes) :
    (nonce clientId milliseconds random).toList =
      ((stem clientId milliseconds).toList ++ '-' :: Nat.toDigits 10 milliseconds.natAbs) ++
        '-' :: Bytes.Hex.digits random := by
  unfold nonce stem Json.integerChars
  split <;> simp [Bytes.Hex.encode]

/-- Random bytes in the same number have digits in the same number, so that the parts can be told apart. -/
theorem nonce_eq_iff_stem (hlength : random.length = random'.length) :
    nonce clientId milliseconds random = nonce clientId' milliseconds' random' ↔
      stem clientId milliseconds = stem clientId' milliseconds' ∧
        milliseconds.natAbs = milliseconds'.natAbs ∧ random = random' := by
  have htail : ('-' :: Bytes.Hex.digits random).length = ('-' :: Bytes.Hex.digits random').length := by
    rw [List.length_cons, List.length_cons, Bytes.Hex.length_digits, Bytes.Hex.length_digits, hlength]
  rw [← String.toList_inj, toList_nonce, toList_nonce]
  constructor
  · intro h
    obtain ⟨hfront, hback⟩ := List.append_inj' h htail
    obtain ⟨hstem, hdigits⟩ :=
      (split_inj (dash_notMem_toDigits _) (dash_notMem_toDigits _)).mp hfront
    exact ⟨String.toList_inj.mp hstem, toDigits_inj.mp hdigits, Bytes.Hex.digits_inj (List.cons.inj hback).2⟩
  · rintro ⟨hstem, habs, rfl⟩
    rw [hstem, habs]

/-! ## When two nonces are the same -/

/-- The client of the first nonce ends in the dash that is the sign of the second one's time. -/
structure Lends (clientId : String) (milliseconds : Int) (clientId' : String) (milliseconds' : Int) :
    Prop where
  pos : 0 < milliseconds
  time : milliseconds' = -milliseconds
  client : clientId = clientId' ++ "-"

theorem stem_eq_stem_iff (habs : milliseconds.natAbs = milliseconds'.natAbs) :
    stem clientId milliseconds = stem clientId' milliseconds' ↔
      (clientId = clientId' ∧ milliseconds = milliseconds') ∨
        Lends clientId milliseconds clientId' milliseconds' ∨
        Lends clientId' milliseconds' clientId milliseconds := by
  constructor
  · intro h
    -- the signs of the two times tell which of the three it is
    rcases Int.lt_or_le milliseconds 0 with hm | hm <;>
      rcases Int.lt_or_le milliseconds' 0 with hm' | hm' <;>
      simp only [stem_of_neg, stem_of_nonneg, hm, hm'] at h
    · exact .inl ⟨(String.append_left_inj _).mp h, by omega⟩
    · exact .inr (.inr ⟨by omega, by omega, h.symm⟩)
    · exact .inr (.inl ⟨by omega, by omega, h⟩)
    · exact .inl ⟨h, by omega⟩
  · rintro (⟨rfl, rfl⟩ | ⟨hpos, rfl, rfl⟩ | ⟨hpos, rfl, rfl⟩)
    · rfl
    · rw [stem_of_nonneg (by omega), stem_of_neg (by omega)]
    · rw [stem_of_neg (by omega), stem_of_nonneg (by omega)]

/-- **When two nonces are the same**: client, time and random bytes are, or the random bytes are and one
    client lends its last dash to the time of the other. -/
theorem nonce_eq_iff (hlength : random.length = random'.length) :
    nonce clientId milliseconds random = nonce clientId' milliseconds' random' ↔
      random = random' ∧ ((clientId = clientId' ∧ milliseconds = milliseconds') ∨
        Lends clientId milliseconds clientId' milliseconds' ∨
        Lends clientId' milliseconds' clientId milliseconds) := by
  rw [nonce_eq_iff_stem hlength]
  constructor
  · rintro ⟨hstem, habs, hrandom⟩
    exact ⟨hrandom, (stem_eq_stem_iff habs).mp hstem⟩
  · rintro ⟨hrandom, hcases⟩
    have habs : milliseconds.natAbs = milliseconds'.natAbs := by
      rcases hcases with ⟨-, rfl⟩ | ⟨-, rfl, -⟩ | ⟨-, rfl, -⟩ <;> simp
    exact ⟨(stem_eq_stem_iff habs).mpr hcases, habs, hrandom⟩

/-- The dash that ends a client, taken for the sign of a time before the epoch. -/
example : nonce "c-" 5 [0, 1, 2, 3, 4, 5, 6, 7] = nonce "c" (-5) [0, 1, 2, 3, 4, 5, 6, 7] := by decide

/-- No client lends a dash to itself. -/
theorem not_lends_self : ¬ Lends clientId milliseconds clientId milliseconds' := by
  rintro ⟨-, -, h⟩
  have hlength := congrArg String.length h
  rw [String.length_append] at hlength
  exact absurd hlength (by simp)

/-- **A nonce of a known client shows the time and the random bytes it was made of.** -/
theorem nonce_inj (hlength : random.length = random'.length)
    (h : nonce clientId milliseconds random = nonce clientId milliseconds' random') :
    milliseconds = milliseconds' ∧ random = random' := by
  obtain ⟨hrandom, ⟨-, htime⟩ | hlends | hlends⟩ := (nonce_eq_iff hlength).mp h
  · exact ⟨htime, hrandom⟩
  · exact absurd hlends not_lends_self
  · exact absurd hlends not_lends_self

/-- From the epoch on, no time has a sign that a client could lend it. -/
theorem nonce_eq_iff_of_nonneg (hlength : random.length = random'.length) (hm : 0 ≤ milliseconds)
    (hm' : 0 ≤ milliseconds') :
    nonce clientId milliseconds random = nonce clientId' milliseconds' random' ↔
      clientId = clientId' ∧ milliseconds = milliseconds' ∧ random = random' := by
  rw [nonce_eq_iff hlength]
  constructor
  · rintro ⟨hrandom, ⟨hclient, htime⟩ | ⟨hpos, htime, -⟩ | ⟨hpos, htime, -⟩⟩
    · exact ⟨hclient, htime, hrandom⟩
    · omega
    · omega
  · rintro ⟨hclient, htime, hrandom⟩
    exact ⟨hrandom, .inl ⟨hclient, htime⟩⟩

/-! ## The nonces of signed envelopes -/

/-- Whatever the key, a signed envelope carries the nonce of its signing. -/
theorem nonce_sign (signer : Signer) (p : Provider) (milliseconds : Int) (random : Bytes)
    (sessionKey : Option Key) (e : Envelope) :
    (signer.sign p milliseconds random sessionKey e).1.nonce =
      some (nonce signer.clientId milliseconds random) := by
  obtain ⟨text, h⟩ := sign_eq signer p milliseconds random sessionKey e
  rw [h]
  rfl

/-- **Nonces repeat only where time and random bytes both repeat.** Between any two clients, from the epoch
    on, two nonces are the same just when client, time and random bytes are; for one client that holds at
    every time. So two envelopes that were signed, by whomever and under whatever keys, carry the same
    nonce only where one client signed both, at one time and with the same random bytes. -/
theorem nonce_unrepeated :
    (∀ (clientId clientId' : String) (milliseconds milliseconds' : Int) (random random' : Bytes),
      0 ≤ milliseconds → 0 ≤ milliseconds' →
      random.length = nonceSize → random'.length = nonceSize →
      (nonce clientId milliseconds random = nonce clientId' milliseconds' random' ↔
        clientId = clientId' ∧ milliseconds = milliseconds' ∧ random = random')) ∧
    (∀ (clientId : String) (milliseconds milliseconds' : Int) (random random' : Bytes),
      random.length = nonceSize → random'.length = nonceSize →
      (nonce clientId milliseconds random = nonce clientId milliseconds' random' ↔
        milliseconds = milliseconds' ∧ random = random')) ∧
    ∀ (signer signer' : Signer) (p p' : Provider) (milliseconds milliseconds' : Int)
      (random random' : Bytes) (sessionKey sessionKey' : Option Key) (e e' : Envelope),
      0 ≤ milliseconds → 0 ≤ milliseconds' →
      random.length = nonceSize → random'.length = nonceSize →
      ((signer.sign p milliseconds random sessionKey e).1.nonce =
          (signer'.sign p' milliseconds' random' sessionKey' e').1.nonce ↔
        signer.clientId = signer'.clientId ∧ milliseconds = milliseconds' ∧ random = random') := by
  refine ⟨?_, ?_, ?_⟩
  · intro clientId clientId' milliseconds milliseconds' random random' hm hm' hr hr'
    exact nonce_eq_iff_of_nonneg (hr.trans hr'.symm) hm hm'
  · intro clientId milliseconds milliseconds' random random' hr hr'
    refine ⟨nonce_inj (hr.trans hr'.symm), ?_⟩
    rintro ⟨rfl, rfl⟩
    rfl
  · intro signer signer' p p' milliseconds milliseconds' random random' sessionKey sessionKey' e e'
      hm hm' hr hr'
    rw [nonce_sign, nonce_sign, Option.some_inj]
    exact nonce_eq_iff_of_nonneg (hr.trans hr'.symm) hm hm'

/-- A client and one whose name goes on with a dash and a digit; and one client at opposite times. -/
theorem nonce_unrepeated_dashed :
    let random : Bytes := [0xde, 0xad, 0xbe, 0xef, 0, 0, 0, 1]
    (0 : Int) ≤ 15 ∧ (0 : Int) ≤ 5 ∧ random.length = nonceSize ∧
      nonce "c" 15 random ≠ nonce "c-1" 5 random ∧ nonce "c-" 5 random ≠ nonce "c-" (-5) random ∧
      ((Signer.create "c" none .lenient).sign Provider.software 15 random none default).1.nonce ≠
        ((Signer.create "c-1" none .lenient).sign Provider.software 5 random none default).1.nonce := by
  intro random
  refine ⟨by decide, by decide, rfl, fun h => ?_, fun h => ?_, fun h => ?_⟩
  · have hsame := (nonce_unrepeated.1 _ _ _ _ _ _ (by decide) (by decide) rfl rfl).mp h
    exact absurd hsame.1 (by decide)
  · have hsame := (nonce_unrepeated.2.1 _ _ _ _ _ rfl rfl).mp h
    exact absurd hsame.1 (by decide)
  · have hsame := (nonce_unrepeated.2.2 _ _ _ _ _ _ _ _ _ _ _ _ (by decide) (by decide) rfl rfl).mp h
    exact absurd hsame.1 (by decide)

end Tether.Signer
