import Mathlib.Algebra.Group.Nat.Defs
import Tether.Backoff

/-!
# `Tether.Proofs.Backoff` — delays without a ceiling

`Backoff.delay` works in 64-bit words and stops at the greatest one, twice: in the power of two, and in
the product. Neither stop shows, because the configured maximum is a word as well (`toNat_delay`).
-/

namespace Tether.Backoff

/-! ## The answer to a loss -/

theorem schedule_of_lt {b : Backoff} (hp : b.pending = false)
    (h : b.attempts < b.config.maxRetries) :
    b.schedule =
      ({ b with
          attempts := b.attempts + 1
          lastDelay := shortened (b.delay b.attempts)
          pending := true }, .retry (b.attempts + 1) (b.delay b.attempts)) := by
  unfold schedule
  rw [if_neg (by rw [hp]; exact Bool.false_ne_true), if_neg (UInt32.not_le.mpr h)]

theorem schedule_of_le {b : Backoff} (hp : b.pending = false)
    (h : b.config.maxRetries ≤ b.attempts) : b.schedule = (b, .exhausted b.attempts) := by
  unfold schedule
  rw [if_neg (by rw [hp]; exact Bool.false_ne_true), if_pos h]

/-- An attempt that is granted is counted; the count stays within its word. -/
theorem toNat_attempts_add_one {b : Backoff} (h : b.attempts < b.config.maxRetries) :
    (b.attempts + 1).toNat = b.attempts.toNat + 1 := by
  have hlt := UInt32.lt_iff_toNat_lt.mp h
  have hmax := b.config.maxRetries.toNat_lt
  rw [UInt32.toNat_add, UInt32.toNat_one]
  omega

/-! ## The delay -/

/-- A power of two that does not fit a word is cut off at the greatest one. -/
theorem factor_eq (k : UInt32) : factor k = min (2 ^ k.toNat) ceiling := by
  unfold factor
  split
  · have hk : k.toNat < 64 := UInt32.lt_iff_toNat_lt.mp ‹_›
    have hpow : 2 ^ k.toNat < 2 ^ 64 := Nat.pow_lt_pow_right (by decide) hk
    rw [Nat.one_shiftLeft, Nat.min_eq_left]
    unfold ceiling; omega
  · have hk : 64 ≤ k.toNat := Nat.not_lt.mp fun h => ‹¬k < 64› (UInt32.lt_iff_toNat_lt.mpr h)
    have hpow : 2 ^ 64 ≤ 2 ^ k.toNat := Nat.pow_le_pow_right (by decide) hk
    rw [Nat.min_eq_right]
    unfold ceiling; omega

/-- Cutting a factor off does not show once the product is cut off at the same height. -/
theorem min_mul_min (base n c : Nat) : min (base * min n c) c = min (base * n) c := by
  rcases Nat.le_total n c with hn | hn
  · rw [Nat.min_eq_left hn]
  · rw [Nat.min_eq_right hn]
    rcases Nat.eq_zero_or_pos base with rfl | hbase
    · rw [Nat.zero_mul, Nat.zero_mul]
    · have hc : c ≤ base * c := Nat.le_mul_of_pos_left c hbase
      have hn' : c ≤ base * n := Nat.le_trans hn (Nat.le_mul_of_pos_left n hbase)
      rw [Nat.min_eq_right hc, Nat.min_eq_right hn']

theorem toNat_min (a b : UInt64) : (min a b).toNat = min a.toNat b.toNat := by
  show (if a ≤ b then a else b).toNat = _
  by_cases h : a ≤ b
  · rw [if_pos h, Nat.min_eq_left (UInt64.le_iff_toNat_le.mp h)]
  · have hlt : b.toNat < a.toNat := UInt64.lt_iff_toNat_lt.mp (UInt64.not_le.mp h)
    rw [if_neg h, Nat.min_eq_right (Nat.le_of_lt hlt)]

/-- **Delays double up to the configured maximum**, as if there were no words. -/
theorem toNat_delay (b : Backoff) (k : UInt32) :
    (b.delay k).toNat = min (b.config.baseDelay.toNat * 2 ^ k.toNat) b.config.maxDelay.toNat := by
  have hmax : b.config.maxDelay.toNat ≤ ceiling :=
    Nat.le_of_lt_succ b.config.maxDelay.toNat_lt
  have hword : ∀ n, (UInt64.ofNat (min n ceiling)).toNat = min n ceiling := fun n =>
    UInt64.toNat_ofNat_of_lt' (Nat.lt_of_le_of_lt (Nat.min_le_right n ceiling) (by decide))
  calc (b.delay k).toNat
      = min (min (b.config.baseDelay.toNat * factor k) ceiling) b.config.maxDelay.toNat := by
        unfold delay
        rw [toNat_min, hword]
    _ = min (min (b.config.baseDelay.toNat * 2 ^ k.toNat) ceiling) b.config.maxDelay.toNat := by
        rw [factor_eq, min_mul_min]
    _ = min (b.config.baseDelay.toNat * 2 ^ k.toNat) b.config.maxDelay.toNat := by
        rw [Nat.min_assoc, Nat.min_eq_right hmax]

end Tether.Backoff
