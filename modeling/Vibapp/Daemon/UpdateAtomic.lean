import Vibapp.Daemon.Update
import Vibapp.Daemon.Services

/-!
# Every step of an update can be taken back

The states an update goes through from its journal to its commit, what its error path makes of
them, and which of them the next start of the daemon can resolve. As long as the candidate
directory is next to the data, or the data is in the transaction root, the journal can be undone.
-/

namespace Vibapp.Daemon

open Prog

/-- The fixed part of the journals of a plan. -/
def Plan.fixed (plan : Plan) : RootId × String × Option PreviousGeneration :=
  (plan.root, plan.candidate.packageDigest, some (previousGeneration plan.original plan.running))

/-- The record before the update, with a journal. -/
def Plan.pendingApp (plan : Plan) (status : UpdateStatus) (t : UpdateTransaction) : App :=
  { plan.original with
    update := { plan.original.update with status := status, pending := some t }
    lifecycleState := .updatePrepared }

section

variable (appId : String) (plan : Plan) (env : Env) (data : Directory) (start : Nat)

/-- The record of the app is the one before the update, with a journal. -/
def PendingIn (s : State) : Prop :=
  ∃ status t, t.fixed = plan.fixed ∧ s.apps.get? appId = some (plan.pendingApp status t)

/-- The data of the app is in this place, up to what its own guests wrote. -/
def DataAt (place : Place) (w : World) : Prop :=
  ∃ dir, w.disk.dirs place = some dir ∧ Wrote env (some data) (some dir)

/-- The candidate directory. -/
def CandidateAt (place : Place) (w : World) : Prop :=
  ∃ dir, w.disk.dirs place = some dir ∧ start ≤ dir.inode

/-- The next start of the daemon can undo the journal. -/
structure Unresolved (w : World) : Prop where
  saved : PendingIn appId plan w.saved
  data : DataAt env data (.previous plan.root) w ∨
    w.disk.dirs (.previous plan.root) = none ∧ DataAt env data (.active appId) w ∧
      (w.disk.dirs (.candidate plan.root)).isSome = true

/-- What the error path goes by. -/
structure Tracked (w : World) : Prop where
  memory : (w.mem.apps.get? appId).isSome = true
  journal : w.locals.transaction.isSome = true

/-- The candidate is validated on its copy of the data. -/
structure Validating (w : World) : Prop where
  saved : PendingIn appId plan w.saved
  memory : PendingIn appId plan w.mem
  active : w.disk.dirs (.active appId) = some data
  previous : w.disk.dirs (.previous plan.root) = none
  candidate : CandidateAt start (.candidate plan.root) w
  detached : ∃ c, w.locals.candidateApp = some c ∧ c.release = plan.candidate.release
  journal : w.locals.transaction.map UpdateTransaction.fixed = some plan.fixed
  quiesced : w.locals.oldQuiesced = false
  swapped : w.locals.stateSwapped = false

/-- The old generations are stopped. -/
structure Quiesced (w : World) : Prop where
  saved : PendingIn appId plan w.saved
  active : DataAt env data (.active appId) w
  previous : w.disk.dirs (.previous plan.root) = none
  candidate : CandidateAt start (.candidate plan.root) w
  detached : ∃ c, w.locals.candidateApp = some c ∧ c.release = plan.candidate.release
  tracked : Tracked appId w
  quiesced : w.locals.oldQuiesced = true
  swapped : w.locals.stateSwapped = false

/-- The data directories are switched. -/
structure Exchanged (w : World) : Prop where
  saved : PendingIn appId plan w.saved
  active : CandidateAt start (.active appId) w
  previous : DataAt env data (.previous plan.root) w
  detached : ∃ c, w.locals.candidateApp = some c ∧ c.release = plan.candidate.release
  tracked : Tracked appId w
  quiesced : w.locals.oldQuiesced = true
  swapped : w.locals.stateSwapped = true

/-- Where the error path starts, apart from a failure of the switch itself. -/
structure Failing (w : World) : Prop where
  saved : PendingIn appId plan w.saved
  tracked : Tracked appId w
  data : w.locals.stateSwapped = false ∧ w.disk.dirs (.previous plan.root) = none ∧
      DataAt env data (.active appId) w ∧
      (w.disk.dirs (.candidate plan.root)).isSome = true ∧
      (w.locals.oldQuiesced = false → w.disk.dirs (.active appId) = some data) ∨
    w.locals.stateSwapped = true ∧ w.locals.oldQuiesced = true ∧
      DataAt env data (.previous plan.root) w

end

variable {appId : String} {plan : Plan} {env : Env} {data : Directory} {start : Nat} {w : World}

/-! ## From one state to another -/

theorem CandidateAt.isSome {place : Place} (h : CandidateAt start place w) :
    (w.disk.dirs place).isSome = true := by
  obtain ⟨dir, hdir, -⟩ := h
  rw [hdir]
  rfl

theorem DataAt.of_eq {place : Place} (h : w.disk.dirs place = some data) :
    DataAt env data place w := ⟨data, h, .refl⟩

theorem Failing.unresolved (h : Failing appId plan env data w) :
    Unresolved appId plan env data w := by
  refine ⟨h.saved, ?_⟩
  rcases h.data with ⟨-, hprevious, hactive, hcandidate, -⟩ | ⟨-, -, hprevious⟩
  · exact .inr ⟨hprevious, hactive, hcandidate⟩
  · exact .inl hprevious

theorem PendingIn.isSome {s : State} (h : PendingIn appId plan s) :
    (s.apps.get? appId).isSome = true := by
  obtain ⟨status, t, -, hs⟩ := h
  rw [hs]
  rfl

theorem Validating.tracked (h : Validating appId plan data start w) : Tracked appId w := by
  refine ⟨h.memory.isSome, ?_⟩
  have := congrArg Option.isSome h.journal
  rwa [Option.isSome_map] at this

theorem Validating.failing (h : Validating appId plan data start w) :
    Failing appId plan env data w :=
  ⟨h.saved, h.tracked, .inl ⟨h.swapped, h.previous, .of_eq h.active,
    h.candidate.isSome, fun _ => h.active⟩⟩

theorem Quiesced.unresolved (h : Quiesced appId plan env data start w) :
    Unresolved appId plan env data w :=
  ⟨h.saved, .inr ⟨h.previous, h.active, h.candidate.isSome⟩⟩

theorem Exchanged.failing (h : Exchanged appId plan env data start w) :
    Failing appId plan env data w :=
  ⟨h.saved, h.tracked, .inr ⟨h.swapped, h.quiesced, h.previous⟩⟩

/-- The places of an update are different. -/
theorem Validating.guests {w' : World} (h : Validating appId plan data start w)
    (hg : Guests (· = .candidate plan.root) (fun s t => t = s) w w') :
    Validating appId plan data start w' where
  saved := by rw [hg.saved]; exact h.saved
  memory := by rw [hg.mem]; exact h.memory
  active := (hg.dirs _ (by simp)).trans h.active
  previous := (hg.dirs _ (by simp)).trans h.previous
  candidate := by
    obtain ⟨dir, hdir, hinode⟩ := h.candidate
    have hshell := hg.shells (.candidate plan.root)
    rw [hdir] at hshell
    obtain ⟨dir', hdir', heq⟩ := Option.map_eq_some_iff.1 hshell
    exact ⟨dir', hdir', by rw [show dir'.inode = dir.inode from congrArg Prod.fst heq]; exact hinode⟩
  detached := by
    obtain ⟨c, hc, hrelease⟩ := h.detached
    have hmap := hg.candidate
    rw [hc] at hmap
    obtain ⟨c', hc', heq⟩ := Option.map_eq_some_iff.1 hmap
    exact ⟨c', hc', (show c'.uncounted.release = c.uncounted.release by rw [heq]).trans hrelease⟩
  journal := hg.journal.trans h.journal
  quiesced := hg.oldQuiesced.trans h.quiesced
  swapped := hg.stateSwapped.trans h.swapped

/-! ## Validation -/

section

variable {P : Place → Prop} {M : State → State → Prop} (hM : Frame M)

include hM

end

/-- A run of guests on the candidate data. -/
theorem Validating.run {α : Type} {m : Run α}
    (h : Validating appId plan data start w)
    (hm : Within (Guests (· = .candidate plan.root) fun s t : State => t = s) env m) :
    wp m (fun _ => Validating appId plan data start) (fun _ => Validating appId plan data start)
      (Validating appId plan data start) env w :=
  hm.wp fun _ hg => h.guests hg

theorem Tended.none {place : Place} {w' : World} (ht : Tended appId env w w')
    (h : w.disk.dirs place = none) : w'.disk.dirs place = none := by
  have := ht.guests.isSome place
  rwa [h, Option.isSome_none, Option.isSome_eq_false_iff, Option.isNone_iff_eq_none] at this

theorem Guests.isSome_transaction {P : Place → Prop} {M : State → State → Prop} {w w' : World}
    (h : Guests P M w w') : w'.locals.transaction.isSome = w.locals.transaction.isSome := by
  have := congrArg Option.isSome h.journal
  rwa [Option.isSome_map, Option.isSome_map] at this

theorem Exchanged.guests {w' : World}
    (h : Exchanged appId plan env data start w)
    (hg : Guests (fun _ => False) (fun s t : State => t = s) w w') :
    Exchanged appId plan env data start w' where
  saved := by rw [hg.saved]; exact h.saved
  active := by
    obtain ⟨dir, hdir, hinode⟩ := h.active
    exact ⟨dir, (hg.dirs _ id).trans hdir, hinode⟩
  previous := by
    obtain ⟨dir, hdir, hwrote⟩ := h.previous
    exact ⟨dir, (hg.dirs _ id).trans hdir, hwrote⟩
  detached := by
    obtain ⟨c, hc, hrelease⟩ := h.detached
    have hmap := hg.candidate
    rw [hc] at hmap
    obtain ⟨c', hc', heq⟩ := Option.map_eq_some_iff.1 hmap
    exact ⟨c', hc', (show c'.uncounted.release = c.uncounted.release by rw [heq]).trans hrelease⟩
  tracked := ⟨by rw [hg.mem]; exact h.tracked.memory,
    hg.isSome_transaction.trans h.tracked.journal⟩
  quiesced := hg.oldQuiesced.trans h.quiesced
  swapped := hg.stateSwapped.trans h.swapped

end Vibapp.Daemon
