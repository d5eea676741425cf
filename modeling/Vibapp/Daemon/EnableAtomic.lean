import Vibapp.Daemon.EnableRecovery
import Vibapp.Daemon.Frames

/-!
# Every step of enabling can be taken back or kept

Whatever step of `enable` fails, or is the last one of the process, storage is at rest, settled,
or in one of the two states that the recovery resolves (`wp_enableServices`). Up to the write that
commits, the error path and the recovery find the original data; from there on the app stays
enabled.
-/

namespace Vibapp.Daemon

open Prog

variable {appId : String} {app : App} {original : Directory} {start : Nat} {root : RootId}
variable {env : Env} {w : World}

/-! ## The transaction up to its journal -/

/-- Nothing that the transaction of an app puts at stake has changed. -/
structure Aside (appId : String) (root : RootId) (w w' : World) : Prop where
  tick : w.tick ≤ w'.tick
  saved : w'.saved = w.saved
  mem : w'.mem = w.mem
  active : w'.disk.dirs (.active appId) = w.disk.dirs (.active appId)
  previous : w'.disk.dirs (.previous root) = w.disk.dirs (.previous root)

section

variable (appId : String) (app : App) (original : Directory) (start : Nat) (root : RootId)

/-- The candidate record is one for the same release, and its revision did not fall. -/
def Detached (w : World) : Prop := ∃ candidate, w.locals.candidateApp = some candidate ∧
  candidate.release = app.release ∧ app.state.revision ≤ candidate.state.revision

/-- The journal is saved, and guests run on the candidate data only. -/
structure Preparing (journal : EnableTransaction) (w : World) : Prop where
  record : w.saved.apps.get? appId = some { app with enableTransaction := some journal }
  memory : w.mem.apps.get? appId = some { app with enableTransaction := some journal }
  active : w.disk.dirs (.active appId) = some original
  previous : w.disk.dirs (.previous root) = none
  candidate : ∃ dir, w.disk.dirs (.candidate root) = some dir ∧ start ≤ dir.inode
  detached : Detached app w
  started : ∀ p ∈ w.locals.started, p.2.place = .candidate root

/-- The candidate directory is the active one, and the original is in the transaction root. -/
structure Switched (journal : EnableTransaction) (w : World) : Prop where
  record : w.saved.apps.get? appId = some { app with enableTransaction := some journal }
  memory : (w.mem.apps.get? appId).isSome = true
  active : Replaced appId start w
  previous : w.disk.dirs (.previous root) = some original
  detached : Detached app w
  started : ∀ p ∈ w.locals.started, p.2.place = .candidate root ∨ p.2.place = .active appId

end

variable {journal : EnableTransaction}

/-- The candidate record up to its count of generations. -/
theorem Detached.guests {P : Place → Prop} {M : State → State → Prop} {w' : World}
    (h : Detached app w) (hg : Guests P M w w') : Detached app w' := by
  obtain ⟨c, hc, hrelease, hrevision⟩ := h
  have hmap := hg.candidate
  rw [hc] at hmap
  obtain ⟨c', hc', heq⟩ := Option.map_eq_some_iff.1 hmap
  have hrelease' : c'.uncounted.release = c.uncounted.release := by rw [heq]
  have hstate' : c'.uncounted.state = c.uncounted.state := by rw [heq]
  refine ⟨c', hc', hrelease'.trans hrelease, ?_⟩
  rw [show c'.state = c.state from hstate']
  exact hrevision

theorem Preparing.guests {w' : World} (h : Preparing appId app original start root journal w)
    (hg : Guests (· = .candidate root) (fun s t => t = s) w w') :
    Preparing appId app original start root journal w' where
  record := by rw [hg.saved]; exact h.record
  memory := by rw [hg.mem]; exact h.memory
  active := (hg.dirs _ (by simp)).trans h.active
  previous := (hg.dirs _ (by simp)).trans h.previous
  candidate := by
    obtain ⟨dir, hdir, hinode⟩ := h.candidate
    have hshell := hg.shells (.candidate root)
    rw [hdir] at hshell
    obtain ⟨dir', hdir', heq⟩ := Option.map_eq_some_iff.1 hshell
    refine ⟨dir', hdir', ?_⟩
    rw [show dir'.inode = dir.inode from congrArg Prod.fst heq]
    exact hinode
  detached := h.detached.guests hg
  started := by rw [hg.started]; exact h.started

theorem Switched.guests {w' : World} (h : Switched appId app original start root journal w)
    (hg : Guests (fun _ => False) (fun s t => t = s) w w') :
    Switched appId app original start root journal w' where
  record := by rw [hg.saved]; exact h.record
  memory := by rw [hg.mem]; exact h.memory
  active := h.active.congr (hg.dirs _ (by simp))
  previous := (hg.dirs _ (by simp)).trans h.previous
  detached := h.detached.guests hg
  started := by rw [hg.started]; exact h.started

/-- Committed, with a record in memory that says so too. -/
def Finishing (appId : String) (app : App) (start : Nat) (root : RootId) (w : World) : Prop :=
  Committed appId app start root w ∧ (w.mem.apps.get? appId = w.saved.apps.get? appId ∨
    ∃ enabled, w.mem.apps.get? appId = some enabled ∧ enabled.enableTransaction = none ∧
      enabled.enabled = true)

theorem Finishing.congr {w' : World} (h : Finishing appId app start root w)
    (hsaved : w'.saved = w.saved) (hmem : w'.mem.apps = w.mem.apps)
    (hactive : w'.disk.dirs (.active appId) = w.disk.dirs (.active appId)) :
    Finishing appId app start root w' :=
  ⟨h.1.congr hsaved hactive, by rw [hsaved, hmem]; exact h.2⟩

/-- The transaction starts from the record in memory, which need not be saved yet. -/
structure Startable (appId : String) (before app : App) (original : Directory) (start : Nat)
    (w : World) : Prop where
  resting : Resting appId before original w
  memory : w.mem.apps.get? appId = some app
  tick : start ≤ w.tick

variable {before : App}

theorem Startable.later (h : Startable appId before app original start w) :
    Startable appId before app original start w.later :=
  ⟨h.resting.congr rfl rfl, h.memory, h.tick.trans (Nat.le_succ _)⟩

end Vibapp.Daemon
