import Tether.Proofs.Config.Accepted
import Tether.Proofs.Simulation.Feed

/-!
# `Tether.Proofs.Config.Stack` — configurations in layers

A stack is built by laying configurations, and stacks of them, over one another. Layering is associative,
and the default configuration makes no difference at the bottom, so that of a stack only the list of its
layers counts. Whatever is built of accepted configurations is accepted, and starts a client.

* `Config.merge_assoc`, `Config.default_merge` — the laws of layering;
* `Config.Stack.merged_eq_foldl` — how the layers are grouped makes no difference;
* `Config.Stack.runnable` — a stack of accepted layers is accepted, whatever is in which layer.
-/

namespace Tether

namespace Config

/-! ## The laws of layering -/

/-- Layers may be merged from either end. -/
theorem merge_assoc (a b c : Config) : (a.merge b).merge c = a.merge (b.merge c) := by
  unfold merge
  -- where the top layer has the default, what is below decides, in the same way on both sides
  by_cases hurl : c.url = ({} : Config).url <;>
    by_cases hclient : c.clientId = ({} : Config).clientId <;>
      simp [hurl, hclient, Option.or_assoc]

/-- The default configuration is lost under every other one. -/
theorem default_merge (c : Config) : merge {} c = c := by
  have hchosen : ∀ s d : String, (if s ≠ d then s else d) = s := by
    intro s d
    by_cases h : s = d
    · rw [if_neg (not_not_intro h), h]
    · exact if_pos h
  unfold merge
  rw [hchosen, hchosen, Option.or_none]

/-! ## Stacks -/

/-- Configurations laid over one another. -/
inductive Stack where
  | layer (c : Config)
  | cover (lower upper : Stack)

namespace Stack

/-- The layers, from the bottom up. -/
def layers : Stack → List Config
  | layer c => [c]
  | cover lower upper => lower.layers ++ upper.layers

/-- What the layers come to. -/
def merged : Stack → Config
  | layer c => c
  | cover lower upper => lower.merged.merge upper.merged

/-- A stack over a configuration is the configuration with one layer after the other over it. -/
theorem merge_merged (base : Config) (s : Stack) : base.merge s.merged = s.layers.foldl merge base := by
  induction s generalizing base with
  | layer c => rfl
  | cover lower upper ihlower ihupper =>
    rw [merged, layers, ← merge_assoc, List.foldl_append, ← ihlower, ihupper]

/-- **Only the list of the layers counts.** -/
theorem merged_eq_foldl (s : Stack) : s.merged = s.layers.foldl merge {} := by
  rw [← merge_merged, default_merge]

/-- A stack of accepted layers comes to a configuration that is accepted. -/
theorem accepted_merged {s : Stack} (h : ∀ c ∈ s.layers, c.Accepted) : s.merged.Accepted := by
  induction s with
  | layer c => exact h c List.mem_cons_self
  | cover lower upper ihlower ihupper =>
    exact (ihlower fun c hc => h c (List.mem_append_left _ hc)).merge
      (ihupper fun c hc => h c (List.mem_append_right _ hc))

/-! ## What can be run -/

/-- What a stack can be relied on for. -/
structure Runnable (s : Stack) : Prop where
  accepted : s.merged.validate = .ok ()
  /-- A client that insists on signatures can tell a good one: it has a secret, or will agree on keys. -/
  keyed : s.merged.auth.verification = .strict →
    (∃ secret, s.merged.auth.secretKey = some secret ∧ secret ≠ "") ∨ s.merged.auth.keyExchange = true
  /-- It starts a client, which runs with it, on every storage that can be read. -/
  starts : ∀ setup store failing,
    World.storeAnswer failing (Identity.reading ⟨s.merged.clientId⟩) = .ok () →
      ∃ w, World.start setup s.merged store failing true = .ok w ∧ w.engine.config = s.merged
  /-- However the layers are grouped, they come to the same. -/
  grouped : ∀ t : Stack, t.layers = s.layers → t.merged = s.merged

/-- What is accepted insists on signatures only with something to check them by. -/
theorem keyed_of_accepted {c : Config} (h : c.Accepted) (hstrict : c.auth.verification = .strict) :
    (∃ secret, c.auth.secretKey = some secret ∧ secret ≠ "") ∨ c.auth.keyExchange = true := by
  refine (h.keyed hstrict).imp_left fun hsome => ?_
  obtain ⟨secret, hsecret⟩ := Option.isSome_iff_exists.mp hsome
  exact ⟨secret, hsecret, fun hempty => h.secretKey (hempty ▸ hsecret)⟩

/-- **Layering keeps what can be run.** One accepted configuration over another is accepted, and so is
    every stack of accepted layers, in any number, order and grouping; in particular it insists on
    signatures only with something to check them by. -/
theorem runnable :
    (∀ base other : Config, base.validate = .ok () → other.validate = .ok () →
      (base.merge other).validate = .ok ()) ∧
    ∀ s : Stack, (∀ c ∈ s.layers, c.validate = .ok ()) → s.Runnable := by
  refine ⟨fun base other hbase hother => ?_, fun s hs => ?_⟩
  · exact validate_eq_ok_iff.mpr ((validate_eq_ok_iff.mp hbase).merge (validate_eq_ok_iff.mp hother))
  · have haccepted : s.merged.Accepted :=
      accepted_merged fun c hc => validate_eq_ok_iff.mp (hs c hc)
    refine ⟨validate_eq_ok_iff.mpr haccepted, keyed_of_accepted haccepted, ?_, fun t ht => ?_⟩
    · intro setup store failing hread
      exact ⟨_, World.start_of_flawless setup _ store failing (flaw?_eq_none_iff.mpr haccepted) hread, rfl⟩
    · rw [merged_eq_foldl, ht, ← merged_eq_foldl]

/-- A client with a secret, under a layer that says nothing of client and secret, under one that insists on
    signatures and agrees on keys: each of the three could be run alone, and so can they be together. -/
theorem runnable_insistent :
    let bottom : Config := { url := "wss://h", clientId := "c1", auth := { secretKey := some "k" } }
    let middle : Config := { url := "ws://g", reconnect := { baseDelay := 5, maxDelay := 5 } }
    let top : Config := { auth := { verification := .strict, keyExchange := true } }
    let s : Stack := .cover (.layer bottom) (.cover (.layer middle) (.layer top))
    (∀ c ∈ s.layers, c.validate = .ok ()) ∧ s.Runnable ∧ (bottom.merge top).validate = .ok () ∧
      s.merged.url = "ws://g" ∧ s.merged.clientId = "c1" ∧
      s.merged.auth = { secretKey := some "k", verification := .strict, keyExchange := true } := by
  intro bottom middle top s
  have haccepted : ∀ c ∈ s.layers, c.flaw? = none := by decide +kernel
  have hvalid : ∀ c ∈ s.layers, c.validate = .ok () := fun c hc => by
    rw [validate, haccepted c hc]
  exact ⟨hvalid, runnable.2 s hvalid,
    runnable.1 _ _ (hvalid bottom (by simp [s, layers])) (hvalid top (by simp [s, layers])),
    by decide, by decide, by decide⟩

end Stack
end Config
end Tether
