import Vibapp.Daemon.Frames
import Mathlib.Logic.Relation

/-!
# What stopping and starting services can change

The frames of the operations on the services of an installed app. In the document they change the
services, the count of generations and the state revision of that app (`Serviced`); in the data
directories they change KV documents, by transactions of guests (`Documents`).
-/

namespace Vibapp.Daemon

open Prog

/-! ## The record -/

/-- Services were stopped and started. -/
structure Revived (a b : App) : Prop where
  eq : b = { a with
    services := b.services
    serviceInstanceSequence := b.serviceInstanceSequence
    state := { a.state with revision := b.state.revision } }
  revision : a.state.revision ≤ b.state.revision

theorem Revived.refl (a : App) : Revived a a := ⟨rfl, le_rfl⟩

theorem Revived.trans {a b c : App} (h : Revived a b) (h' : Revived b c) : Revived a c := by
  refine ⟨h'.eq.trans ?_, h.revision.trans h'.revision⟩
  rw [h.eq]

theorem Revived.release {a b : App} (h : Revived a b) : b.release = a.release := by
  have := congrArg App.release h.eq
  exact this

/-- The services of one app were stopped and started. -/
structure Serviced (appId : String) (s t : State) : Prop where
  others : ∀ k, k ≠ appId → t.apps.get? k = s.apps.get? k
  self : ∀ a, s.apps.get? appId = some a → ∃ b, t.apps.get? appId = some b ∧ Revived a b

/-- One step of a guest on a directory: transactions of one event, or the first document. -/
def Wrote₁ (env : Env) (a b : Option Directory) : Prop :=
  (∃ t target, b = a.map fun dir =>
      { dir with kv := dir.kv.map (KvDocument.commit target (env.turn t).commits) }) ∨
    ∃ dir revision, a = some dir ∧ dir.kv = none ∧ b = some { dir with kv := some ⟨revision, []⟩ }

/-- Guests wrote to a directory. -/
def Wrote (env : Env) : Option Directory → Option Directory → Prop :=
  Relation.ReflTransGen (Wrote₁ env)

/-- A directory stays where it is, with its files. -/
theorem Wrote.shell {env : Env} {a b : Option Directory} (h : Wrote env a b) :
    b.map Directory.shell = a.map Directory.shell := by
  induction h with
  | refl => rfl
  | tail _ hstep ih =>
    rw [← ih]
    rcases hstep with ⟨t, target, rfl⟩ | ⟨dir, revision, rfl, -, rfl⟩
    · rw [Option.map_map]
      rfl
    · rfl

/-- The data directories after guests ran. -/
def Documents (env : Env) (w w' : World) : Prop :=
  ∀ p, Wrote env (w.disk.dirs p) (w'.disk.dirs p)

variable {env : Env}

/-- Services of one app were stopped and started, and guests wrote to the directories. -/
structure Tended (appId : String) (env : Env) (w w' : World) : Prop where
  guests : Guests (fun _ => True) (Serviced appId) w w'
  documents : Documents env w w'

end Vibapp.Daemon
