import Tether.Config.Basic

/-!
# `Tether.Proofs.Config.Accepted` — what the checks of a configuration come to

The checks are made one after the other, and the first that fails is the answer. A configuration that
passes has them all at once, `Config.Accepted`, whatever order they were made in. Each of them survives
when one accepted configuration is layered over another: a field comes from one of the two, and where two
fields are checked together, either both come from the upper layer or the lower one can only add a secret.

* `Config.validate_eq_ok_iff` — a configuration is accepted just when it passes every check;
* `Config.Accepted.merge` — one accepted configuration over another is accepted.
-/

namespace Tether

namespace Config

variable {c base other : Config}

/-- Every check is passed. -/
structure Accepted (c : Config) : Prop where
  clientId : c.clientId ≠ ""
  scheme : hasScheme c.url = true
  baseDelay : c.reconnect.baseDelay ≠ 0
  maxDelay : c.reconnect.baseDelay ≤ c.reconnect.maxDelay
  timeout : c.heartbeat.timeout ≠ 0
  secretKey : c.auth.secretKey ≠ some ""
  /-- Strict verification has a key to verify with, or one will be agreed on. -/
  keyed : c.auth.verification = .strict → c.auth.secretKey.isSome ∨ c.auth.keyExchange = true

/-! ## The checks, one after the other -/

theorem ite_some_eq_none {p : Prop} [Decidable p] {reason : String} {rest : Option String} :
    (if p then some reason else rest) = none ↔ ¬ p ∧ rest = none := by
  by_cases h : p <;> simp [h]

/-- The last check fails where there is nothing to verify with. -/
theorem keyed_iff {a : AuthConfig} :
    ¬ (a.verification = .strict ∧ a.secretKey = none ∧ a.keyExchange = false) ↔
      (a.verification = .strict → a.secretKey.isSome ∨ a.keyExchange = true) := by
  cases a.secretKey <;> cases a.keyExchange <;> simp

/-- The validator finds no flaw exactly in a configuration that is accepted. -/
theorem flaw?_eq_none_iff : c.flaw? = none ↔ c.Accepted := by
  simp only [flaw?, ite_some_eq_none, keyed_iff, UInt64.not_lt, Bool.not_eq_true', Bool.not_eq_false,
    and_true]
  exact ⟨fun ⟨hclient, hscheme, hbase, hmax, htimeout, hsecret, hkeyed⟩ =>
      ⟨hclient, hscheme, hbase, hmax, htimeout, hsecret, hkeyed⟩,
    fun h => ⟨h.clientId, h.scheme, h.baseDelay, h.maxDelay, h.timeout, h.secretKey, h.keyed⟩⟩

/-- **A configuration is accepted just when it passes every check.** -/
theorem validate_eq_ok_iff : c.validate = .ok () ↔ c.Accepted := by
  rw [← flaw?_eq_none_iff, validate]
  cases c.flaw? <;> simp

/-! ## One layer over another -/

/-- **One accepted configuration over another is accepted.** -/
theorem Accepted.merge (hbase : base.Accepted) (hother : other.Accepted) :
    (base.merge other).Accepted where
  clientId := by
    show (if _ then _ else _) ≠ _
    split
    · exact hother.clientId
    · exact hbase.clientId
  scheme := by
    show hasScheme (if _ then _ else _) = true
    split
    · exact hother.scheme
    · exact hbase.scheme
  baseDelay := hother.baseDelay
  maxDelay := hother.maxDelay
  timeout := hother.timeout
  secretKey := by
    show other.auth.secretKey.or base.auth.secretKey ≠ some ""
    have hsecret := hother.secretKey
    cases hkey : other.auth.secretKey with
    | none => exact hbase.secretKey
    | some key => rwa [hkey] at hsecret
  keyed := by
    -- the policy and the exchange are the upper layer's, and the secret is not lost
    intro hstrict
    refine (hother.keyed hstrict).imp_left fun hsome => ?_
    show (other.auth.secretKey.or base.auth.secretKey).isSome
    rw [Option.isSome_or, hsome, Bool.true_or]

end Config
end Tether
