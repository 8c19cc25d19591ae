import Tether.Simulation.World

/-!
# `Tether.Simulation.Trace` — what an onlooker sees of a world

An onlooker looks at the published phase whenever the client does something else, and whenever the
world has settled and time moves on; of several phases published in between, only the last is seen.
Answers to callers are not part of the trace.
-/

namespace Tether

namespace Effect

/-- Does an onlooker notice the effect by itself? -/
def isVisible : Effect → Bool
  | .phase _ | .warnLater _ | .connectReply _ _ | .disconnectReply _ | .snapshotReply _ _ => false
  | _ => true

end Effect

namespace Record

/-- The last phase published, if it differs from the one seen before. -/
def unseen (seen : Phase) : Option (Record × Phase) → List Record
  | some (r, phase) => if phase = seen then [] else [r]
  | none => []

/-- The records an onlooker sees who last saw the phase `seen`; `published` is a phase published
since. -/
def watch (seen : Phase) (published : Option (Record × Phase)) : List Record → List Record
  | [] => unseen seen published
  | r :: rest =>
    match r.effect with
    | .phase phase =>
      match published with
      | some (earlier, before) =>
        if earlier.time = r.time then watch seen (some (r, phase)) rest
        else unseen seen published ++ watch before (some (r, phase)) rest
      | none => watch seen (some (r, phase)) rest
    | e =>
      if e.isVisible then
        unseen seen published ++ r :: watch ((published.map Prod.snd).getD seen) none rest
      else watch seen published rest

end Record

namespace World

/-- The records since they were last taken away. -/
def takeLog (w : World) : World × List Record := ({ w with log := [] }, w.log)

end World
end Tether
