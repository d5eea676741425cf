import Vibapp.Daemon.UpdateAtomic

/-!
# The error path of an update

`undoUpdate` in two parts: up to the point where the journal can still be undone by the next start
of the daemon (`unwindUpdate`), and from the rename that brings the data back, or the removal of
the transaction root, to the write of the document (`settleUpdate`). What the two leave behind
when they run to their end is `Restored`.
-/

namespace Vibapp.Daemon

open Prog

section

variable (appId : String) (plan : Plan) (env : Env) (data : Directory) (quiesced : Bool)

/-- The data of the app is in place; without a quiesce, as it was. -/
def DataBack (w : World) : Prop :=
  ∃ dir, w.disk.dirs (.active appId) = some dir ∧ Wrote env (some data) (some dir) ∧
    (quiesced = false → dir = data)

/-- The record before the update; where the old services were stopped, with services started
again. -/
def RecordBack (r : App) : Prop :=
  Revived plan.original r ∧ (quiesced = false → r = plan.original)

/-- The data and the record in memory are back. -/
structure Returned (w : World) : Prop where
  journal : w.locals.transaction.isSome = true
  previous : w.disk.dirs (.previous plan.root) = none
  active : DataBack appId env data quiesced w
  memory : ∃ r, w.mem.apps.get? appId = some r ∧ RecordBack plan quiesced r

end

variable {appId : String} {plan : Plan} {env : Env} {data : Directory} {quiesced : Bool}
variable {w : World}

end Vibapp.Daemon
