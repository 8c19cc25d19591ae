import Tether.Proofs.Link.Run

/-!
# `Tether.Proofs.Link.Revival` — when a line that was given up comes back

An attempt that is accepted puts a new line in the place of the old one, for good. An attempt that is
refused closes the link, but leaves the old line where it is: if one was fed, the link is then closed and
fed at once, and the peer can go on to use the old line, and open it again. That is the only way
(`Stray`): a run without such a refusal never revives a line.

* `Unrevived` — what a run looks like that revives no line;
* `unrevived_iff` — it is one **exactly if no attempt is refused while a line is fed**;
* `revived_by_refusal` — the shortest run that does revive one.
-/

namespace Tether.Link

/-- An attempt is refused while a line is fed. -/
def Stray (x : Link × Op) : Prop :=
  x.2.isDial = true ∧ x.1.refusing = true ∧ x.1.feeding ≠ none

instance : DecidablePred Stray := fun _ => inferInstanceAs (Decidable (_ ∧ _ ∧ _))

/-- The link is closed exactly if no line is fed. -/
def Settled (l : Link) : Prop := l.readiness = .closed ↔ l.feeding = none

/-- A run that revives no line. -/
structure Unrevived (ops : List Op) : Prop where
  /-- After every operation the link is closed exactly if no line is fed. -/
  settled : ∀ before after, ops = before ++ after → (run before).Settled
  /-- After an attempt, accepted or refused, no line handed out before gets another signal. -/
  quiet : ∀ before url subprotocol after, ops = before ++ .dial url subprotocol :: after →
    ∀ n < (run before).lines.length, emitted n ops = emitted n before
  /-- After a refused attempt, and until one is accepted, the link is closed and the peer cannot open
      it. -/
  shut : ∀ before url subprotocol after rest,
    ops = before ++ .dial url subprotocol :: (after ++ rest) → (run before).refusing = true →
    (run (before ++ .dial url subprotocol :: after)).lines.length = (run before).lines.length →
    (run (before ++ .dial url subprotocol :: after)).readiness = .closed ∧
      (run (before ++ .dial url subprotocol :: after)).accept.2 = false

variable {ops before after : List Op} {op : Op} {l : Link} {n : Nat}

/-! ## One operation -/

/-- Only a stray refusal unsettles a link. -/
theorem Settled.act (h : l.Settled) (hstray : ¬ Stray (l, op)) : (l.act op).Settled := by
  unfold Settled at h ⊢
  cases l.shifts op with
  | same feeding readiness => rw [feeding, readiness]; exact h
  | closed feeding readiness => simp [feeding, readiness]
  | opened fed feeding readiness => simp [feeding, readiness, fed]
  | fresh _ _ feeding readiness => simp [feeding, readiness]
  | refused dial refusing feeding readiness =>
    have hnone : l.feeding = none := by
      by_contra hfed
      exact hstray ⟨dial, refusing, hfed⟩
    simp [feeding, readiness, hnone]

/-- It always does. -/
theorem not_settled_of_stray (h : Stray (l, op)) : ¬ (l.act op).Settled := by
  obtain ⟨hdial, hrefusing, hfed⟩ := h
  cases op with
  | dial url subprotocol =>
    have hrefusing' : l.refusing = true := hrefusing
    intro hsettled
    refine hfed ?_
    have hnone := hsettled.mp (by simp [act, dial, hrefusing'])
    simpa [act, dial, hrefusing'] using hnone
  | _ => cases hdial

/-! ## Runs -/

theorem mem_log (before after : List Op) (op : Op) :
    (run before, op) ∈ log {} (before ++ op :: after) := by
  rw [log_append]
  exact List.mem_append_right _ List.mem_cons_self

theorem exists_of_mem_log {x : Link × Op} (h : x ∈ log {} ops) :
    ∃ before after, ops = before ++ x.2 :: after ∧ run before = x.1 := by
  induction ops using List.reverseRecOn with
  | nil => cases h
  | append_singleton ops op ih =>
    rw [log_concat] at h
    rcases List.mem_append.mp h with h | h
    · obtain ⟨before, after, heq, hrun⟩ := ih h
      exact ⟨before, after ++ [op], by rw [heq]; simp, hrun⟩
    · obtain rfl := List.mem_singleton.mp h
      exact ⟨ops, [], rfl, rfl⟩

theorem settled_run (h : ∀ x ∈ log {} ops, ¬ Stray x) : (run ops).Settled := by
  induction ops using List.reverseRecOn with
  | nil => exact ⟨fun _ => rfl, fun _ => rfl⟩
  | append_singleton ops op ih =>
    rw [log_concat] at h
    obtain ⟨hold, hlast⟩ := List.forall_mem_append.mp h
    rw [run_concat]
    exact (ih hold).act (hlast _ List.mem_cons_self)

theorem length_append (before after : List Op) :
    (run before).lines.length ≤ (run (before ++ after)).lines.length := by
  induction after using List.reverseRecOn with
  | nil => simp
  | append_singleton after op ih =>
    rw [← List.append_assoc, run_concat]
    exact Nat.le_trans ih (length_act _ op)

/-- **A line that is not fed is not fed again**, and gets no signal any more. -/
theorem quiet_of_not_fed (hn : n < (run before).lines.length) (hf : (run before).feeding ≠ some n)
    (after : List Op) : (run (before ++ after)).feeding ≠ some n ∧
      emitted n (before ++ after) = emitted n before := by
  induction after using List.reverseRecOn with
  | nil => rw [List.append_nil]; exact ⟨hf, rfl⟩
  | append_singleton after op ih =>
    obtain ⟨hfeeding, hemitted⟩ := ih
    rw [← List.append_assoc, run_concat, emitted_concat, hemitted]
    have hnone : accepted n (run (before ++ after), op) = none := if_neg fun h => hfeeding h.1
    refine ⟨?_, by simp [hnone]⟩
    rcases (run (before ++ after)).feeding_act op with heq | heq | heq
    · rw [heq]; exact hfeeding
    · rw [heq]; simp
    · -- a new line has a number that was never given
      have hlength := length_append before after
      rw [heq]
      intro hsome
      have := Option.some.inj hsome
      omega

/-- A link that feeds no line does so until an attempt is accepted. -/
theorem not_fed_of_length (hf : (run before).feeding = none) (after : List Op)
    (hlength : (run (before ++ after)).lines.length = (run before).lines.length) :
    (run (before ++ after)).feeding = none := by
  induction after using List.reverseRecOn with
  | nil => rw [List.append_nil]; exact hf
  | append_singleton after op ih =>
    have hmono := length_append before after
    rw [← List.append_assoc, run_concat] at hlength ⊢
    have hnone : (run (before ++ after)).lines.length = (run before).lines.length →
        (run (before ++ after)).feeding = none := ih
    cases (run (before ++ after)).shifts op with
    | same feeding _ length => rw [feeding]; exact hnone (by omega)
    | closed feeding => exact feeding
    | opened _ feeding _ length => rw [feeding]; exact hnone (by omega)
    | fresh _ _ _ _ length => omega
    | refused _ _ feeding _ length => rw [feeding]; exact hnone (by omega)

/-- The line that is fed after an attempt, unless it was a stray refusal, is a new one. -/
theorem feeding_dial_ne (l : Link) (url subprotocol : String) (hn : n < l.lines.length)
    (hstray : ¬ Stray (l, .dial url subprotocol)) :
    (l.act (.dial url subprotocol)).feeding ≠ some n := by
  by_cases hrefusing : l.refusing = true
  · -- a refusal that is not stray finds no line fed, and feeds none
    have hnone : l.feeding = none := Decidable.byContradiction fun hfed =>
      hstray ⟨rfl, hrefusing, hfed⟩
    simp [act, dial, hrefusing, hnone]
  · simp only [act, dial, hrefusing]
    simp only [Bool.false_eq_true, if_false, ne_eq, Option.some.injEq]
    omega

/-- An attempt puts no signal on any line. -/
theorem emitted_dial (n : Nat) (before : List Op) (url subprotocol : String) :
    emitted n (before ++ [.dial url subprotocol]) = emitted n before := by
  simp [accepted, Op.signal?]

/-- **An attempt that is no stray refusal detaches every line there is.** -/
theorem emitted_after_dial (url subprotocol : String) (hn : n < (run before).lines.length)
    (hstray : ¬ Stray (run before, .dial url subprotocol)) (after : List Op) :
    emitted n (before ++ .dial url subprotocol :: after) = emitted n before := by
  have hlength : n < (run (before ++ [.dial url subprotocol])).lines.length :=
    Nat.lt_of_lt_of_le hn (length_append ..)
  have hfeeding : (run (before ++ [.dial url subprotocol])).feeding ≠ some n := by
    rw [run_concat]
    exact feeding_dial_ne _ url subprotocol hn hstray
  have hquiet := (quiet_of_not_fed hlength hfeeding after).2
  rwa [emitted_dial, List.append_assoc] at hquiet

/-- An attempt that finds the link refusing, with no line fed, leaves it shut until one is accepted. -/
theorem shut_after_dial {rest : List Op} {url subprotocol : String}
    (h : ∀ x ∈ log {} (before ++ .dial url subprotocol :: (after ++ rest)), ¬ Stray x)
    (hrefusing : (run before).refusing = true)
    (hlength : (run (before ++ .dial url subprotocol :: after)).lines.length =
      (run before).lines.length) :
    (run (before ++ .dial url subprotocol :: after)).readiness = .closed ∧
      (run (before ++ .dial url subprotocol :: after)).accept.2 = false := by
  have hnone : (run before).feeding = none := Decidable.byContradiction fun hfed =>
    h _ (mem_log ..) ⟨rfl, hrefusing, hfed⟩
  have hend := not_fed_of_length hnone _ hlength
  have hsettled : (run (before ++ .dial url subprotocol :: after)).Settled := by
    refine settled_run fun x hx => h x ?_
    rw [show before ++ Op.dial url subprotocol :: (after ++ rest) =
      (before ++ .dial url subprotocol :: after) ++ rest by simp, log_append]
    exact List.mem_append_left _ hx
  exact ⟨hsettled.mpr hend, by rw [accept, hend]⟩

/-- **A run revives no line exactly if no attempt is refused while a line is fed**; and an attempt that
    is accepted detaches every line there is, whatever else the run does. -/
theorem unrevived_iff (ops : List Op) :
    (Unrevived ops ↔ ∀ x ∈ log {} ops, ¬ Stray x) ∧
      ∀ before url subprotocol after, ops = before ++ .dial url subprotocol :: after →
        (run before).refusing = false → ∀ n < (run before).lines.length,
          emitted n ops = emitted n before := by
  refine ⟨⟨fun h x hx hstray => ?_, fun h => ⟨?_, ?_, ?_⟩⟩, ?_⟩
  · -- the link is unsettled right after the refusal
    obtain ⟨before, after, rfl, hrun⟩ := exists_of_mem_log hx
    have hsettled := h.settled (before ++ [x.2]) after (by simp)
    rw [run_concat, hrun] at hsettled
    exact not_settled_of_stray hstray hsettled
  · rintro before after rfl
    refine settled_run fun x hx => h x ?_
    rw [log_append]
    exact List.mem_append_left _ hx
  · rintro before url subprotocol after rfl n hn
    exact emitted_after_dial url subprotocol hn (h _ (mem_log ..)) after
  · rintro before url subprotocol after rest rfl hrefusing hlength
    exact shut_after_dial h hrefusing hlength
  · rintro before url subprotocol after rfl haccepts n hn
    refine emitted_after_dial url subprotocol hn (fun hstray => ?_) after
    rw [hstray.2.1] at haccepts
    cases haccepts

/-- A line, then another: what the peer delivers reaches the second only. -/
theorem unrevived_redial :
    Unrevived [.dial "ws://h" "p", .peer .accept, .dial "ws://h" "p", .peer (.deliver "x")] ∧
      emitted 0 [.dial "ws://h" "p", .peer .accept, .dial "ws://h" "p", .peer (.deliver "x")] =
        [.opened] := by
  have hiff := unrevived_iff
    [.dial "ws://h" "p", .peer .accept, .dial "ws://h" "p", .peer (.deliver "x")]
  refine ⟨hiff.1.mpr (by decide), ?_⟩
  refine (hiff.2 [.dial "ws://h" "p", .peer .accept] "ws://h" "p" [.peer (.deliver "x")] rfl
    (by decide) 0 (by decide)).trans ?_
  decide

/-- An attempt is refused while the first line is open: the link is closed, but the peer goes on with
    that line, and opens it again. -/
theorem revived_by_refusal :
    (run [.dial "ws://h" "p", .peer .accept, .peer (.refuse true), .dial "ws://h" "p"]).readiness =
        .closed ∧
      (run [.dial "ws://h" "p", .peer .accept, .peer (.refuse true), .dial "ws://h" "p"]).feeding =
        some 0 ∧
      (run [.dial "ws://h" "p", .peer .accept, .peer (.refuse true), .dial "ws://h" "p"]).accept.2 =
        true ∧
      emitted 0 [.dial "ws://h" "p", .peer .accept, .peer (.refuse true), .dial "ws://h" "p",
        .peer (.deliver "late"), .peer .accept] = [.opened, .message "late", .opened] ∧
      ¬ Unrevived [.dial "ws://h" "p", .peer .accept, .peer (.refuse true), .dial "ws://h" "p",
        .peer (.deliver "late"), .peer .accept] := by
  refine ⟨by decide, by decide, by decide, by decide, fun h => ?_⟩
  -- closed, and a line is fed
  have hsettled := h.settled [.dial "ws://h" "p", .peer .accept, .peer (.refuse true),
    .dial "ws://h" "p"] [.peer (.deliver "late"), .peer .accept] rfl
  exact absurd (hsettled.mp (by decide)) (by decide)

end Tether.Link
