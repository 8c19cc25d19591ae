import Mathlib.Data.List.DropRight
import Tether.Proofs.Backoff
import Tether.Proofs.Config.Accepted

/-!
# `Tether.Proofs.Backoff.Grants` — attempts over any sequence of calls

The books are asked for attempts, told that the attempt that was pending begins, and started over, in
any order. A journal lists the calls with their answers, and two things are read off it alone: the
attempts granted since the books were last started over (`grants`), and whether one of them has not
begun (`Outstanding`).

* `Balanced` — the books agree with the journal, and the attempts granted are numbered from one with
  delays that double up to the maximum, in natural numbers;
* `Metered` — so the journal decides the next answer, and `metered_journal` says so of every sequence of
  calls.
-/

namespace Tether

namespace ReconnectConfig

/-- The first delay is not zero, and no longer than the longest. -/
def Sound (r : ReconnectConfig) : Prop := 1 ≤ r.baseDelay ∧ r.baseDelay ≤ r.maxDelay

/-- The delay after `n` attempts, in natural numbers. -/
def spacing (r : ReconnectConfig) (n : Nat) : Nat := min (r.baseDelay.toNat * 2 ^ n) r.maxDelay.toNat

/-- No delay is longer than the longest. -/
theorem spacing_le (r : ReconnectConfig) (n : Nat) : r.spacing n ≤ r.maxDelay.toNat :=
  Nat.min_le_right _ _

/-- Delays do not get shorter. -/
theorem spacing_mono (r : ReconnectConfig) {m n : Nat} (h : m ≤ n) : r.spacing m ≤ r.spacing n := by
  unfold spacing
  have hpow : 2 ^ m ≤ 2 ^ n := Nat.pow_le_pow_right (by decide) h
  have hprod : r.baseDelay.toNat * 2 ^ m ≤ r.baseDelay.toNat * 2 ^ n := Nat.mul_le_mul_left _ hpow
  omega

/-- No delay is shorter than the first, if the configuration is sound. -/
theorem Sound.le_spacing {r : ReconnectConfig} (h : r.Sound) (n : Nat) :
    r.baseDelay.toNat ≤ r.spacing n := by
  have hmax : r.baseDelay.toNat ≤ r.maxDelay.toNat := UInt64.le_iff_toNat_le.mp h.2
  exact Nat.le_min.mpr ⟨Nat.le_mul_of_pos_right _ (Nat.pow_pos (by decide)), hmax⟩

end ReconnectConfig

/-- A configuration that is accepted has a first delay, no longer than the longest. -/
theorem Config.sound_of_validate {c : Config} (h : c.validate = .ok ()) : c.reconnect.Sound := by
  have haccepted := validate_eq_ok_iff.mp h
  have hne : c.reconnect.baseDelay.toNat ≠ 0 := fun h0 =>
    haccepted.baseDelay (UInt64.toNat_inj.mp h0)
  exact ⟨UInt64.le_iff_toNat_le.mpr (Nat.one_le_iff_ne_zero.mpr hne), haccepted.maxDelay⟩

namespace Backoff

/-! ## Journals -/

/-- A call to the books. -/
inductive Call where
  | schedule
  | clearPending
  | reset
  deriving DecidableEq, Repr

/-- An attempt that is granted: its number, and its delay in milliseconds. -/
structure Grant where
  attempt : UInt32
  delay : UInt64
  deriving DecidableEq, Repr

/-- A call as it stands in a journal. -/
inductive Entry where
  /-- An attempt was asked for. -/
  | answered (decision : Decision)
  /-- The attempt that was pending begins, or is given up. -/
  | cleared
  /-- The books were started over. -/
  | restarted
  deriving DecidableEq, Repr

/-- The attempt that an entry grants. -/
def Entry.grant? : Entry → Option Grant
  | .answered (.retry attempt delay) => some ⟨attempt, delay⟩
  | _ => none

/-- The attempts granted since the books were last started over. -/
def grants (es : List Entry) : List Grant :=
  (es.rtakeWhile fun e => e ≠ .restarted).filterMap Entry.grant?

/-- An attempt was granted since the last one began, was given up, or the books were started over. -/
def Outstanding (es : List Entry) : Prop :=
  ∃ e ∈ es.rtakeWhile fun e => e ≠ .cleared ∧ e ≠ .restarted, e.grant?.isSome

/-- What a call leaves, and how it stands in the journal. -/
def serve (b : Backoff) : Call → Backoff × Entry
  | .schedule => (b.schedule.1, .answered b.schedule.2)
  | .clearPending => (b.clearPending, .cleared)
  | .reset => (b.reset, .restarted)

/-- The books after calls. -/
def after (b : Backoff) (calls : List Call) : Backoff := calls.foldl (fun b call => (b.serve call).1) b

/-- The journal of calls. -/
def journal : Backoff → List Call → List Entry
  | _, [] => []
  | b, call :: calls => (b.serve call).2 :: (b.serve call).1.journal calls

/-- One call more is served by the books that the others leave. -/
theorem after_concat (b : Backoff) (calls : List Call) (call : Call) :
    b.after (calls ++ [call]) = ((b.after calls).serve call).1 := by
  simp [after]

/-- One call more is one entry more. -/
theorem journal_concat (b : Backoff) (calls : List Call) (call : Call) :
    b.journal (calls ++ [call]) = b.journal calls ++ [((b.after calls).serve call).2] := by
  induction calls generalizing b with
  | nil => rfl
  | cons first calls ih =>
    rw [List.cons_append, journal, ih, journal, List.cons_append]
    rfl

section Entries

variable {es : List Entry} {e : Entry}

theorem grants_concat (h : e ≠ .restarted) : grants (es ++ [e]) = grants es ++ e.grant?.toList := by
  unfold grants
  rw [List.rtakeWhile_concat_pos _ _ _ (by simpa using h), List.filterMap_append]
  cases hg : e.grant? with
  | none => rw [List.filterMap_cons_none hg]; rfl
  | some g => rw [List.filterMap_cons_some hg]; rfl

theorem grants_concat_of_none (h : e ≠ .restarted) (hg : e.grant? = none) :
    grants (es ++ [e]) = grants es := by
  rw [grants_concat h, hg]
  exact List.append_nil _

/-- Books that are started over have granted nothing. -/
theorem grants_restarted (es : List Entry) : grants (es ++ [.restarted]) = [] := by
  unfold grants
  rw [List.rtakeWhile_concat_neg _ _ _ (by simp)]
  rfl

/-- A grant is outstanding from when it is given. -/
theorem outstanding_answered {d : Decision} : Outstanding (es ++ [.answered d]) ↔
    Outstanding es ∨ (Entry.answered d).grant?.isSome := by
  unfold Outstanding
  rw [List.rtakeWhile_concat_pos _ _ _ (by simp)]
  constructor
  · rintro ⟨e, he, hg⟩
    rcases List.mem_append.mp he with he | he
    · exact Or.inl ⟨e, he, hg⟩
    · rw [List.mem_singleton.mp he] at hg
      exact Or.inr hg
  · rintro (⟨e, he, hg⟩ | hg)
    · exact ⟨e, List.mem_append_left _ he, hg⟩
    · exact ⟨_, List.mem_append_right _ (List.mem_singleton_self _), hg⟩

/-- It is settled by clearing it or by a restart. -/
theorem not_outstanding_concat (h : e = .cleared ∨ e = .restarted) : ¬ Outstanding (es ++ [e]) := by
  rintro ⟨e', he', -⟩
  rw [List.rtakeWhile_concat_neg _ _ _ (by rcases h with rfl | rfl <;> simp)] at he'
  exact absurd he' List.not_mem_nil

end Entries

/-! ## The books and their journal -/

/-- A second attempt is not granted while one is outstanding. -/
theorem schedule_of_pending {b : Backoff} (h : b.pending = true) :
    b.schedule = (b, .alreadyPending) := by
  unfold schedule
  rw [if_pos h]

/-- Counting to 32 bits stops at the greatest number. -/
theorem toNat_shortened (n : UInt64) : (shortened n).toNat = min n.toNat (2 ^ 32 - 1) := by
  unfold shortened
  exact UInt32.toNat_ofNat_of_lt' (Nat.lt_of_le_of_lt (Nat.min_le_right _ _) (by decide))

/-- The number and the delay as natural numbers. -/
def Grant.plain (g : Grant) : Nat × Nat := (g.attempt.toNat, g.delay.toNat)

/-- The books agree with their journal. -/
structure Balanced (config : ReconnectConfig) (es : List Entry) (b : Backoff) : Prop where
  same : b.config = config
  attempts : b.attempts.toNat = (grants es).length
  attempts_le : b.attempts.toNat ≤ config.maxRetries.toNat
  pending : b.pending = true ↔ Outstanding es
  lastDelay_le : b.lastDelay.toNat ≤ config.maxDelay.toNat
  /-- Attempts are numbered from one, and each delay is the one for its number. -/
  numbered : (grants es).map Grant.plain =
    (List.range (grants es).length).map fun n => (n + 1, config.spacing n)
  /-- So it was before the books were last started over. -/
  spaced : ∀ e ∈ es, ∀ g, e.grant? = some g → ∃ n, g.delay.toNat = config.spacing n

variable {config : ReconnectConfig} {es : List Entry} {b : Backoff}

theorem balanced_nil (config : ReconnectConfig) : Balanced config [] { config } where
  same := rfl
  attempts := rfl
  attempts_le := Nat.zero_le _
  pending := ⟨fun h => absurd h Bool.false_ne_true, fun ⟨_, he, _⟩ => absurd he List.not_mem_nil⟩
  lastDelay_le := Nat.zero_le _
  numbered := rfl
  spaced := fun _ he => absurd he List.not_mem_nil

theorem Balanced.spaced_concat (h : Balanced config es b) {e : Entry}
    (he : ∀ g, e.grant? = some g → ∃ n, g.delay.toNat = config.spacing n) :
    ∀ e' ∈ es ++ [e], ∀ g, e'.grant? = some g → ∃ n, g.delay.toNat = config.spacing n :=
  List.forall_mem_append.mpr ⟨h.spaced, List.forall_mem_singleton.mpr he⟩

/-- An answer that grants nothing is only written down. -/
theorem Balanced.refused (h : Balanced config es b) {d : Decision}
    (hd : (Entry.answered d).grant? = none) : Balanced config (es ++ [.answered d]) b := by
  have hgrants : grants (es ++ [.answered d]) = grants es := grants_concat_of_none (by simp) hd
  refine ⟨h.same, ?_, h.attempts_le, ?_, h.lastDelay_le, ?_, h.spaced_concat ?_⟩
  · rw [hgrants, h.attempts]
  · rw [outstanding_answered, hd, h.pending]
    simp
  · rw [hgrants, h.numbered]
  · intro g hg
    exact nomatch hd.symm.trans hg

/-- An attempt that is granted is the next one, after its own delay. -/
theorem Balanced.granted (h : Balanced config es b) (hp : b.pending = false)
    (hlt : b.attempts < config.maxRetries) :
    Balanced config (es ++ [.answered b.schedule.2]) b.schedule.1 := by
  have hsched := schedule_of_lt hp (h.same ▸ hlt)
  have hnext : (b.attempts + 1).toNat = b.attempts.toNat + 1 :=
    toNat_attempts_add_one (h.same ▸ hlt)
  have hdelay : (b.delay b.attempts).toNat = config.spacing (grants es).length := by
    rw [toNat_delay, h.same, h.attempts]
    rfl
  have hgrants : grants (es ++ [.answered b.schedule.2]) =
      grants es ++ [⟨b.attempts + 1, b.delay b.attempts⟩] := by
    rw [grants_concat (by simp), hsched]
    rfl
  have hlength : (grants (es ++ [.answered b.schedule.2])).length =
      (grants es).length + 1 := by
    rw [hgrants, List.length_append, List.length_singleton]
  rw [hsched] at hgrants hlength ⊢
  refine ⟨h.same, ?_, ?_, ?_, ?_, ?_, h.spaced_concat ?_⟩
  · show (b.attempts + 1).toNat = _
    rw [hnext, hlength, h.attempts]
  · show (b.attempts + 1).toNat ≤ _
    have hmax := UInt32.lt_iff_toNat_lt.mp hlt
    omega
  · rw [outstanding_answered]
    exact iff_of_true rfl (Or.inr rfl)
  · show (shortened (b.delay b.attempts)).toNat ≤ _
    have hle := config.spacing_le (grants es).length
    rw [toNat_shortened, hdelay]
    omega
  · rw [hlength, hgrants, List.map_append, h.numbered, List.range_succ, List.map_append]
    simp [Grant.plain, hnext, hdelay, h.attempts]
  · intro g hg
    obtain rfl := Option.some.inj hg
    exact ⟨_, hdelay⟩

/-- **Every call keeps the books in agreement with the journal.** -/
theorem Balanced.serve (h : Balanced config es b) (call : Call) :
    Balanced config (es ++ [(b.serve call).2]) (b.serve call).1 := by
  cases call with
  | schedule =>
    show Balanced config (es ++ [.answered b.schedule.2]) b.schedule.1
    by_cases hp : b.pending = true
    · rw [schedule_of_pending hp]
      exact h.refused rfl
    · have hp := eq_false_of_ne_true hp
      by_cases hlt : b.attempts < config.maxRetries
      · exact h.granted hp hlt
      · rw [schedule_of_le hp (h.same ▸ UInt32.not_lt.mp hlt)]
        exact h.refused rfl
  | clearPending =>
    show Balanced config (es ++ [.cleared]) b.clearPending
    have hgrants : grants (es ++ [.cleared]) = grants es := grants_concat_of_none (by simp) rfl
    refine ⟨h.same, ?_, h.attempts_le, ?_, h.lastDelay_le, ?_, h.spaced_concat fun _ hg => nomatch hg⟩
    · rw [hgrants]
      exact h.attempts
    · exact iff_of_false Bool.false_ne_true (not_outstanding_concat (Or.inl rfl))
    · rw [hgrants, h.numbered]
  | reset =>
    show Balanced config (es ++ [.restarted]) b.reset
    have hgrants := grants_restarted es
    refine ⟨h.same, ?_, Nat.zero_le _, ?_, Nat.zero_le _, ?_, h.spaced_concat fun _ hg => nomatch hg⟩
    · rw [hgrants]
      rfl
    · exact iff_of_false Bool.false_ne_true (not_outstanding_concat (Or.inr rfl))
    · rw [hgrants]
      rfl

/-- The books agree with their journal after any calls. -/
theorem balanced_journal (config : ReconnectConfig) (calls : List Call) :
    Balanced config (journal { config } calls) (after { config } calls) := by
  induction calls using List.reverseRecOn with
  | nil => exact balanced_nil config
  | append_singleton calls call ih =>
    rw [journal_concat, after_concat]
    exact ih.serve call

/-! ## What the journal decides -/

/-- The journal decides the next answer, in natural numbers, and what may stand in it. -/
structure Metered (config : ReconnectConfig) (es : List Entry) (b : Backoff) : Prop where
  /-- While an attempt has not begun there is no other, and nothing changes. -/
  outstanding : Outstanding es → b.schedule = (b, .alreadyPending)
  /-- When all attempts were granted there is no other, and nothing changes. -/
  exhausted : ¬ Outstanding es → (grants es).length = config.maxRetries.toNat →
    ∃ attempts, attempts.toNat = (grants es).length ∧ b.schedule = (b, .exhausted attempts)
  /-- Otherwise the next attempt is granted and counted, and its delay is noted. -/
  granted : ¬ Outstanding es → (grants es).length ≠ config.maxRetries.toNat →
    ∃ b' attempt delay, b.schedule = (b', .retry attempt delay) ∧
      attempt.toNat = (grants es).length + 1 ∧
      delay.toNat =
        min (config.baseDelay.toNat * 2 ^ (grants es).length) config.maxDelay.toNat ∧
      b'.attempts.toNat = (grants es).length + 1 ∧
      b'.lastDelay.toNat = min delay.toNat (2 ^ 32 - 1)
  length_le : (grants es).length ≤ config.maxRetries.toNat
  lastDelay_le : b.lastDelay.toNat ≤ config.maxDelay.toNat
  /-- Delays do not decrease until the books are started over. -/
  ascending : (grants es).Pairwise fun g g' => g.delay ≤ g'.delay
  /-- Every delay lies between the first and the longest. -/
  within : config.Sound → ∀ e ∈ es, ∀ g, e.grant? = some g →
    config.baseDelay ≤ g.delay ∧ g.delay ≤ config.maxDelay

/-- Delays grow from grant to grant. -/
theorem Balanced.ascending (h : Balanced config es b) :
    (grants es).Pairwise fun g g' => g.delay ≤ g'.delay := by
  have hplain : ((grants es).map Grant.plain).Pairwise fun x y => x.2 ≤ y.2 := by
    rw [h.numbered, List.pairwise_map]
    exact List.pairwise_lt_range.imp fun hlt => config.spacing_mono (Nat.le_of_lt hlt)
  rw [List.pairwise_map] at hplain
  exact hplain.imp fun hle => UInt64.le_iff_toNat_le.mpr hle

/-- Books that agree with their journal grant as they should. -/
theorem Balanced.metered (h : Balanced config es b) : Metered config es b := by
  have hfree : ¬ Outstanding es → b.pending = false := fun hout =>
    eq_false_of_ne_true (mt h.pending.mp hout)
  refine ⟨?_, ?_, ?_, ?_, h.lastDelay_le, h.ascending, ?_⟩
  · intro hout
    exact schedule_of_pending (h.pending.mpr hout)
  · intro hout hall
    have hle : config.maxRetries ≤ b.attempts :=
      UInt32.le_iff_toNat_le.mpr (by rw [h.attempts, hall])
    exact ⟨b.attempts, h.attempts, schedule_of_le (hfree hout) (h.same ▸ hle)⟩
  · intro hout hne
    have hle := h.attempts_le
    have hlt : b.attempts < b.config.maxRetries := by
      rw [h.same, UInt32.lt_iff_toNat_lt]
      have := h.attempts
      omega
    have hnext := toNat_attempts_add_one hlt
    rw [h.attempts] at hnext
    refine ⟨_, _, _, schedule_of_lt (hfree hout) hlt, hnext, ?_, hnext, toNat_shortened _⟩
    rw [toNat_delay, h.same, h.attempts]
  · rw [← h.attempts]
    exact h.attempts_le
  · intro hsound e he g hg
    obtain ⟨n, hn⟩ := h.spaced e he g hg
    rw [UInt64.le_iff_toNat_le, UInt64.le_iff_toNat_le, hn]
    exact ⟨hsound.le_spacing n, config.spacing_le n⟩

/-- **Attempts over any sequence of calls.** The journal alone decides every answer, as if there were no
    words; and a configuration that is accepted bounds every delay from both sides. -/
theorem metered_journal :
    (∀ config calls, Metered config (journal { config } calls) (after { config } calls)) ∧
      ∀ c : Config, c.validate = .ok () → c.reconnect.Sound :=
  ⟨fun config calls => (balanced_journal config calls).metered, fun _ => Config.sound_of_validate⟩

/-- Under the default settings, whatever is granted along five calls. -/
theorem metered_journal_default :
    let c : Config := {}
    let calls : List Call := [.schedule, .schedule, .clearPending, .schedule, .reset]
    c.validate = .ok () ∧ ∀ e ∈ journal { config := c.reconnect } calls, ∀ g, e.grant? = some g →
      c.reconnect.baseDelay ≤ g.delay ∧ g.delay ≤ c.reconnect.maxDelay := by
  intro c calls
  have hflaw : c.flaw? = none := by decide +kernel
  have hvalid : c.validate = .ok () := by rw [Config.validate, hflaw]
  exact ⟨hvalid, (metered_journal.1 c.reconnect calls).within (metered_journal.2 c hvalid)⟩

/-- Two attempts, one of them asked for twice, and the greatest delays that there are. -/
example : journal { config := ⟨0x8000000000000001, 0xffffffffffffffff, 2⟩ }
    [.schedule, .schedule, .clearPending, .schedule, .clearPending, .schedule, .reset] =
    [.answered (.retry 1 0x8000000000000001), .answered .alreadyPending, .cleared,
      .answered (.retry 2 0xffffffffffffffff), .cleared, .answered (.exhausted 2), .restarted] := by
  decide

end Backoff
end Tether
