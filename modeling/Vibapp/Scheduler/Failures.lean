import Vibapp.Scheduler.Runs

/-!
# Failed commands

**Main result** (`failed_command`): a mutating command that answers `ok: false` leaves every row as
it was but for the receipt of its key and the marks of replayed actions, and one that raises leaves
the whole scheduler state as it was.

A callback works in place, on a copy of the row in a copy of the ledger, and may raise halfway
(`InPlace`). What it has left in the copy is dropped (`executeInPlace_eq`), so that the result needs
nothing of the callback.
-/

namespace Vibapp.Scheduler

/-! ## The stored state -/

/-- `_edit` on the stored ledger: the copy takes its place at the very end. -/
def editing {α : Type} (stored : Ledger) (body : Ledger → Py (Ledger × α)) : Py α × Ledger :=
  match checkLayout stored with
  | .error e => (.error e, stored)
  | .ok () =>
    match body stored with
    | .error e => (.error e, stored)
    | .ok (ledger, a) =>
      match checkLimits ledger with
      | .error e => (.error e, stored)
      | .ok () =>
        match encode ledger.toJson with
        | .error e => (.error e, stored)
        | .ok _ => (.ok a, ledger)

/-- What a transaction leaves that returns a ledger or raises. -/
def settled {α : Type} (stored : Ledger) : Py (Ledger × α) → Py α × Ledger
  | .ok (ledger, a) => (.ok a, ledger)
  | .error e => (.error e, stored)

theorem editing_eq {α : Type} (stored : Ledger) (body : Ledger → Py (Ledger × α)) :
    editing stored body = settled stored (edit stored body) := by
  rw [editing, edit]
  cases checkLayout stored with
  | error e => rfl
  | ok _ =>
    dsimp only [bind, Except.bind]
    cases body stored with
    | error e => rfl
    | ok p =>
      dsimp only
      cases checkLimits p.1 with
      | error e => rfl
      | ok _ =>
        dsimp only
        cases encode p.1.toJson with
        | error e => rfl
        | ok _ => rfl

/-! ## Callbacks in place -/

/-- A callback as it runs: it leaves a row behind, also where it raises. -/
abbrev InPlace := AppRow → AppRow × Py Value

/-- What a callback returns, with the row where it does. -/
def InPlace.returns (callback : InPlace) (row : AppRow) : Py (AppRow × Value) :=
  match callback row with
  | (updated, .ok v) => .ok (updated, v)
  | (_, .error e) => .error e

/-- A command whose key has no receipt, with a callback that works on a copy of the row. -/
def executeInPlace (row : AppRow) (key fingerprint : String) (callback : InPlace) :
    Py (AppRow × Response) :=
  match callback row with
  | (updated, .ok v) => .ok (updated.setReceipt key ⟨fingerprint, .ok v⟩, .ok v)
  | (_, .error (.scheduler e)) => .ok (row.setReceipt key ⟨fingerprint, .error e⟩, .error e)
  | (_, .error e) => .error e

theorem executeInPlace_eq (row : AppRow) (key fingerprint : String) (callback : InPlace) :
    executeInPlace row key fingerprint callback =
      execute row key fingerprint callback.returns := by
  rw [executeInPlace, execute, InPlace.returns]
  rcases callback row with ⟨updated, e | v⟩
  · cases e <;> rfl
  · rfl

section

variable (b : Backend)

/-- The body of `_mutating_call` under `_edit`. -/
def Backend.mutateLedger (m : Mutation) (payload : List (String × Json)) (key fingerprint : String)
    (ledger : Ledger) : Py (Ledger × Response) := do
  let row ← ledger.app m.app
  let (row, response) ← b.mutateRow row m.operation payload (receiptKey key) fingerprint
    m.generation m.callback m.hostAction
  return (ledger.setApp m.app row, response)

/-- `_mutating_call` on the stored ledger: what it returns or raises, and what it leaves. -/
def Backend.mutate (stored : Ledger) (m : Mutation) : Py Response × Ledger :=
  match m.payload with
  | .obj payload =>
    match text m.key "idempotency key" with
    | .error e => (.error e, stored)
    | .ok key =>
      match b.fingerprint m.operation payload with
      | .error e => (.error e, stored)
      | .ok fingerprint => editing stored (b.mutateLedger m payload key fingerprint)
  | _ => (error "invalid-argument" "command payload must be a record", stored)

theorem mutate_eq (stored : Ledger) (m : Mutation) :
    b.mutate stored m = settled stored (b.mutatingCall stored m) := by
  rw [Backend.mutate, Backend.mutatingCall]
  cases m.payload with
  | obj payload =>
    dsimp only
    cases text m.key "idempotency key" with
    | error e => rfl
    | ok key =>
      cases b.fingerprint m.operation payload with
      | error e => rfl
      | ok fingerprint => exact editing_eq stored (b.mutateLedger m payload key fingerprint)
  | _ => rfl

end

/-! ## What a failure leaves -/

/-- Without its mark. -/
def Action.unmarked (a : Action) : Action := { a with deduplicated := false }

/-- A row after a failed command under `key`. -/
structure FailedRow (key : String) (row row' : AppRow) : Prop where
  context : row'.context = row.context
  alarms : row'.alarms = row.alarms
  occurrences : row'.occurrences = row.occurrences
  outbox : row'.outbox = row.outbox
  guestEvents : row'.guestEvents = row.guestEvents
  /-- No action comes or goes, and only marks change. -/
  actions : ∀ k, (row'.actions.get? k).map Action.unmarked = (row.actions.get? k).map Action.unmarked
  /-- No other receipt comes, goes or changes. -/
  others : ∀ k, k ≠ key → row'.commands.get? k = row.commands.get? k
  /-- A receipt under the key stays as it is. -/
  kept : ∀ receipt, row.commands.get? key = some receipt → row'.commands.get? key = some receipt

variable {b : Backend} {row row' : AppRow} {key fingerprint : String}

theorem FailedRow.refl (key : String) (row : AppRow) : FailedRow key row row :=
  ⟨rfl, rfl, rfl, rfl, rfl, fun _ => rfl, fun _ _ => rfl, fun _ h => h⟩

/-- A receipt comes under a key that has none. -/
theorem failedRow_setReceipt (hnone : row.commands.get? key = none) (r : Receipt) :
    FailedRow key row (row.setReceipt key r) where
  context := rfl
  alarms := rfl
  occurrences := rfl
  outbox := rfl
  guestEvents := rfl
  actions _ := rfl
  others k hk := Dict.get?_set_ne _ hk r
  kept receipt h := by
    rw [hnone] at h
    cases h

theorem failedRow_markAction {operation : String} {payload : List (String × Json)}
    (h : b.markAction row operation payload = .ok row') : FailedRow key row row' := by
  unfold Backend.markAction at h
  dsimp only at h
  split at h
  · rename_i action haction
    split at h
    · split at h
      · cases h
        refine { FailedRow.refl key row with actions := ?_ }
        intro k
        dsimp only
        rw [Dict.get?_set]
        split
        · rename_i hk
          rw [hk, haction]
          rfl
        · rfl
      · cases h
    · cases h
      exact .refl key row
  · cases h
    exact .refl key row

/-- **One row.** -/
theorem failedRow_mutateRow {operation : String} {payload : List (String × Json)}
    {generation : Option String} {callback : AppRow → Py (AppRow × Value)} {hostAction : Bool}
    {e : SchedulerError}
    (h : b.mutateRow row operation payload key fingerprint generation callback hostAction =
      .ok (row', .error e)) : FailedRow key row row' := by
  unfold Backend.mutateRow at h
  split at h
  · -- refused: a receipt that is there stays
    cases h
    split
    · exact .refl key row
    · rename_i hnew
      exact failedRow_setReceipt (Dict.contains_eq_false_iff.1 (Bool.eq_false_iff.2 hnew)) _
  · cases h
  · split at h
    · unfold Backend.replay at h
      split at h
      · cases pure_eq_ok.1 h
        exact .refl key row
      · obtain ⟨row₁, hmark, h⟩ := bind_eq_ok.1 h
        obtain ⟨rfl, -⟩ := Prod.mk.inj (pure_eq_ok.1 h)
        exact failedRow_markAction hmark
    · rename_i hnone
      unfold execute at h
      split at h
      · cases pure_eq_ok.1 h
      · cases pure_eq_ok.1 h
        exact failedRow_setReceipt hnone _
      · cases h

/-- A ledger after a failed command of an app under `key`. -/
structure FailedLedger (app key : String) (l l' : Ledger) : Prop where
  row : ∃ row row', l.apps.get? app = some row ∧ l'.apps.get? app = some row' ∧
    FailedRow (receiptKey key) row row'
  others : ∀ app', app' ≠ app → l'.apps.get? app' = l.apps.get? app'

/-- **Failed commands.** Whatever the ledger and the callback are: a command that answers
`ok: false` leaves at most its receipt and marks, and one that raises leaves nothing. -/
theorem failed_command (b : Backend) (stored : Ledger) (m : Mutation) :
    (∀ e, (b.mutate stored m).1 = .ok (.error e) →
      ∃ key, m.key = .str key ∧ FailedLedger m.app key stored (b.mutate stored m).2) ∧
    ∀ e, (b.mutate stored m).1 = .error e → (b.mutate stored m).2 = stored := by
  rw [mutate_eq]
  cases hcall : b.mutatingCall stored m with
  | error e => exact ⟨fun e h => (nomatch h), fun _ _ => rfl⟩
  | ok p =>
    obtain ⟨ledger, response⟩ := p
    refine ⟨fun e h => ?_, fun e h => nomatch h⟩
    cases h
    obtain ⟨payload, key, fingerprint, row, row', -, hkey, -, hrow, hmutate, rfl⟩ :=
      mutatingCall_eq_ok hcall
    refine ⟨key, hkey, ⟨row, row', hrow, ?_, failedRow_mutateRow hmutate⟩, fun app' happ => ?_⟩
    · rw [settled, get?_setApp, if_pos rfl]
    · rw [settled, get?_setApp, if_neg happ]

end Vibapp.Scheduler
