import Vibapp.Daemon.Enable

/-!
# Recovery of an interrupted enable

Four states of storage, told apart by the journal in the saved record: `Resting` (disabled, with
the original data), `Undoable` (a journal that is not committed, and the original data in one of
two places), `Committed` (a committed journal and the candidate data) and `Settled` (enabled with
the candidate data). A start of the daemon leads from the second to the first and from the third
to the last, and where it is interrupted the next start finds what this one found.
-/

namespace Vibapp.Daemon

open Prog

section

variable (appId : String) (app : App) (original : Directory) (start : Nat)

/-- The journal is one for this app, on this transaction root. -/
structure JournalOf (root : RootId) (journal : EnableTransaction) : Prop where
  names : journal.appId = appId
  package : journal.packageDigest = app.release.packageDigest
  revision : journal.originalStateRevision = app.state.revision
  entrypoints : journal.serviceEntrypoints = app.release.onEnableIds
  directory : journal.transactionRoot = root
  canonical : root = (appId, "enable-" ++ journal.transactionId)

/-- Disabled, with the original data and no journal. -/
structure Resting (w : World) : Prop where
  record : w.saved.apps.get? appId = some app
  active : w.disk.dirs (.active appId) = some original

/-- The original data is in the transaction root, or still in place. -/
def Kept (root : RootId) (w : World) : Prop :=
  w.disk.dirs (.previous root) = some original ∨
    w.disk.dirs (.previous root) = none ∧ w.disk.dirs (.active appId) = some original

/-- Disabled, with a journal by which the original data comes back. -/
structure Undoable (root : RootId) (w : World) : Prop where
  record : ∃ journal, JournalOf appId app root journal ∧ journal.status ≠ .committed ∧
    w.saved.apps.get? appId = some { app with enableTransaction := some journal }
  kept : Kept appId original root w

/-- The active directory was made after the start. -/
def Replaced (w : World) : Prop := ∃ dir, w.disk.dirs (.active appId) = some dir ∧ start ≤ dir.inode

/-- Enabled with the candidate data, the journal not yet dropped. -/
structure Committed (root : RootId) (w : World) : Prop where
  record : ∃ journal committed, JournalOf appId app root journal ∧ journal.status = .committed ∧
    w.saved.apps.get? appId = some committed ∧ committed.enableTransaction = some journal ∧
    committed.enabled = true ∧ committed.release = app.release ∧
    app.state.revision ≤ committed.state.revision
  active : Replaced appId start w

/-- Enabled with the candidate data. -/
structure Settled (w : World) : Prop where
  record : ∃ enabled, w.saved.apps.get? appId = some enabled ∧
    enabled.enableTransaction = none ∧ enabled.enabled = true
  active : Replaced appId start w

end

variable {appId : String} {app : App} {original : Directory} {start : Nat} {root : RootId}
variable {env : Env} {w : World}

/-! ## The states depend on storage only -/

theorem Resting.congr {w' : World} (h : Resting appId app original w) (hsaved : w'.saved = w.saved)
    (hactive : w'.disk.dirs (.active appId) = w.disk.dirs (.active appId)) :
    Resting appId app original w' :=
  ⟨by rw [hsaved]; exact h.record, by rw [hactive]; exact h.active⟩

theorem Undoable.congr {w' : World} (h : Undoable appId app original root w)
    (hsaved : w'.saved = w.saved) (hkept : Kept appId original root w') :
    Undoable appId app original root w' :=
  ⟨by rw [hsaved]; exact h.record, hkept⟩

theorem Replaced.congr {w' : World} (h : Replaced appId start w)
    (hactive : w'.disk.dirs (.active appId) = w.disk.dirs (.active appId)) :
    Replaced appId start w' := by
  unfold Replaced
  rw [hactive]
  exact h

theorem Committed.congr {w' : World} (h : Committed appId app start root w)
    (hsaved : w'.saved = w.saved)
    (hactive : w'.disk.dirs (.active appId) = w.disk.dirs (.active appId)) :
    Committed appId app start root w' :=
  ⟨by rw [hsaved]; exact h.record, h.active.congr hactive⟩

theorem Settled.congr {w' : World} (h : Settled appId start w) (hsaved : w'.saved = w.saved)
    (hactive : w'.disk.dirs (.active appId) = w.disk.dirs (.active appId)) :
    Settled appId start w' :=
  ⟨by rw [hsaved]; exact h.record, h.active.congr hactive⟩

/-! ## Recovery -/

end Vibapp.Daemon
