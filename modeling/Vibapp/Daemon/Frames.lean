import Vibapp.Daemon.Worker

/-!
# What guests can change

The frame of every operation on workers. A guest writes only the KV document of the directory its
worker is bound to; the daemon around it only counts generations and keeps the tables of services
and workers. `Guests P M`: storage changes only in KV documents of directories in `P`, and the
document in memory along `M`.
-/

namespace Vibapp.Daemon

open Prog

/-- A directory without its KV document. -/
def Directory.shell (d : Directory) : Nat × List (String × String) := (d.inode, d.files)

/-- A record without its count of generations. -/
def App.uncounted (app : App) : App := { app with serviceInstanceSequence := 0 }

/-- What a transaction keeps from its first journal entry on: its root, the candidate package and
the generation to go back to. -/
def UpdateTransaction.fixed (t : UpdateTransaction) :
    RootId × String × Option PreviousGeneration :=
  (t.transactionRoot, t.toPackageDigest, t.previous)

/-- Guests ran: no directory came or went, and only KV documents in `P` changed. -/
structure Guests (P : Place → Prop) (M : State → State → Prop) (w w' : World) : Prop where
  tick : w.tick ≤ w'.tick
  saved : w'.saved = w.saved
  mem : M w.mem w'.mem
  audit : w'.audit = w.audit
  packages : w'.disk.packages = w.disk.packages
  roots : w'.disk.roots = w.disk.roots
  dirs : ∀ p, ¬ P p → w'.disk.dirs p = w.disk.dirs p
  shells : ∀ p, (w'.disk.dirs p).map Directory.shell = (w.disk.dirs p).map Directory.shell
  oldQuiesced : w'.locals.oldQuiesced = w.locals.oldQuiesced
  stateSwapped : w'.locals.stateSwapped = w.locals.stateSwapped
  started : w'.locals.started = w.locals.started
  candidate : w'.locals.candidateApp.map App.uncounted = w.locals.candidateApp.map App.uncounted
  journal : w'.locals.transaction.map UpdateTransaction.fixed =
    w.locals.transaction.map UpdateTransaction.fixed

section

variable {P : Place → Prop} {M : State → State → Prop}

theorem frame_guests (hM : Frame M) : Frame (Guests P M) where
  refl w := ⟨Nat.le_refl _, rfl, hM.refl _, rfl, rfl, rfl, fun _ _ => rfl, fun _ => rfl, rfl, rfl,
    rfl, rfl, rfl⟩
  trans h h' := {
    tick := h.tick.trans h'.tick
    saved := h'.saved.trans h.saved
    mem := hM.trans h.mem h'.mem
    audit := h'.audit.trans h.audit
    packages := h'.packages.trans h.packages
    roots := h'.roots.trans h.roots
    dirs := fun p hp => (h'.dirs p hp).trans (h.dirs p hp)
    shells := fun p => (h'.shells p).trans (h.shells p)
    oldQuiesced := h'.oldQuiesced.trans h.oldQuiesced
    stateSwapped := h'.stateSwapped.trans h.stateSwapped
    started := h'.started.trans h.started
    candidate := h'.candidate.trans h.candidate
    journal := h'.journal.trans h.journal }

theorem Guests.mono {P' : Place → Prop} {M' : State → State → Prop} {w w' : World}
    (h : Guests P M w w') (hP : ∀ p, P p → P' p) (hM : ∀ {s t}, M s t → M' s t) :
    Guests P' M' w w' :=
  { h with mem := hM h.mem, dirs := fun p hp => h.dirs p fun h => hp (hP p h) }

/-- A directory is there after guests ran if and only if it was there before. -/
theorem Guests.isSome {w w' : World} (h : Guests P M w w') (p : Place) :
    (w'.disk.dirs p).isSome = (w.disk.dirs p).isSome := by
  have := congrArg Option.isSome (h.shells p)
  rwa [Option.isSome_map, Option.isSome_map] at this

theorem frame_eq {σ : Type} : Frame (fun s t : σ => t = s) :=
  ⟨fun _ => rfl, fun h h' => h'.trans h⟩

/-! ## Steps that change no storage -/

variable {env : Env}

section

variable (hM : Frame M)

include hM

theorem within_nextTick : Within (Guests P M) env nextTick :=
  (within_read (frame_guests hM) _).bind (frame_guests hM) fun _ =>
    (within_modify fun w => { (frame_guests hM).refl w with tick := Nat.le_succ _ }).bind
      (frame_guests hM) fun _ => within_pure (frame_guests hM) _

theorem within_clock : Within (Guests P M) env clock :=
  (within_nextTick hM).bind (frame_guests hM) fun _ => within_read (frame_guests hM) _

theorem within_refuse {α : Type} (code message : String) (retryable : Bool) :
    Within (Guests P M) env (refuse code message retryable : Run α) :=
  within_raise (frame_guests hM) _

theorem within_refuseIf (c : Prop) [Decidable c] (code message : String) (retryable : Bool) :
    Within (Guests P M) env (refuseIf c code message retryable) :=
  Within.ite (fun _ => within_refuse hM code message retryable)
    fun _ => within_pure (frame_guests hM) ()

theorem within_check {α : Type} (x : Py α) : Within (Guests P M) env (check x) := by
  rcases x with (e | e) | a
  · exact within_raise (frame_guests hM) _
  · exact within_raise (frame_guests hM) _
  · exact within_pure (frame_guests hM) a

theorem within_getApp (appId : String) : Within (Guests P M) env (getApp appId) := by
  refine (within_read (frame_guests hM) _).bind (frame_guests hM) ?_
  intro app
  cases app with
  | none => exact within_raise (frame_guests hM) _
  | some app => exact within_pure (frame_guests hM) app

theorem within_installedManifest (appId : String) (release : Release) :
    Within (Guests P M) env (installedManifest appId release) := by
  refine (within_read (frame_guests hM) _).bind (frame_guests hM) ?_
  intro package
  cases package with
  | none => exact within_refuse hM _ _ _
  | some package =>
    exact Within.ite (fun _ => within_pure (frame_guests hM) _) fun _ => within_refuse hM _ _ _

end

end

end Vibapp.Daemon
