import Vibapp.Scheduler.Correspondence
import Vibapp.Scheduler.Failures

/-!
# Idempotent commands

A mutating call leaves a receipt under its idempotency key, and the key answers for it from then
on. `idempotency_laws` is about every run: the receipt of the first command under a key is there
after any number of other calls, a later command under the key is answered from it, and apart from
the mark of a replayed snooze nothing changes. Which command a receipt is of, its fingerprint says
(`fingerprint_inj`).
-/

namespace Vibapp.Scheduler

/-! ## Calls that carry a mutation -/

/-- The mutation of a mutating call, or what its own checks raise. -/
def Backend.mutation (b : Backend) : Call → Option (Py Mutation)
  | .command app command key nowUtc generation hostAction =>
    if isStatus command then none
    else some (b.alarmMutation app command key nowUtc generation hostAction)
  | .upsert app request generation nowUtc => some (b.upsertMutation app request generation nowUtc)
  | .toggle app id key generation nowUtc enable =>
    some (b.toggleMutation app id key generation nowUtc enable)
  | .acknowledge app occurrence outcome key generation token =>
    some (acknowledgeMutation app occurrence outcome key generation token)
  | _ => none

theorem perform_eq_respond {b : Backend} {c : Call} {m : Py Mutation} (h : b.mutation c = some m)
    (l : Ledger) : b.perform l c = b.respond l m := by
  cases c with
  | command =>
    unfold Backend.mutation at h
    dsimp only at h
    split at h
    · exact absurd h (by simp)
    · rename_i hs
      obtain rfl := Option.some.inj h
      exact if_neg hs
  | upsert =>
    obtain rfl := Option.some.inj h
    rfl
  | toggle =>
    obtain rfl := Option.some.inj h
    rfl
  | acknowledge =>
    obtain rfl := Option.some.inj h
    rfl
  | _ => exact absurd h (by simp [Backend.mutation])

/-! ## Receipts -/

/-- The receipt of an app's idempotency key. -/
def Ledger.receipt (l : Ledger) (app key : String) : Option Receipt :=
  (l.apps.get? app).bind fun row => row.commands.get? (receiptKey key)

/-- A row after a replay: only marks of actions may differ. -/
structure AppRow.Marked (row row' : AppRow) : Prop where
  rest : row' = { row with actions := row'.actions }
  actions : ∀ k, (row'.actions.get? k).map Action.unmarked = (row.actions.get? k).map Action.unmarked

theorem AppRow.Marked.refl (row : AppRow) : row.Marked row := ⟨rfl, fun _ => rfl⟩

/-- A ledger after a replay of a command of the app. -/
def Ledger.Marked (app : String) (l l' : Ledger) : Prop :=
  ∃ row row', l.apps.get? app = some row ∧ row.Marked row' ∧ l' = l.setApp app row'

section

variable {b : Backend} {row row' : AppRow} {operation key fingerprint : String}
  {payload : List (String × Json)} {generation : Option String}
  {callback : AppRow → Py (AppRow × Value)} {hostAction : Bool} {r : Response}

theorem markAction_marked (h : b.markAction row operation payload = .ok row') : row.Marked row' := by
  have hf : FailedRow "" row row' := failedRow_markAction h
  refine ⟨?_, hf.actions⟩
  unfold Backend.markAction at h
  dsimp only at h
  split at h
  · split at h
    · split at h <;> cases h
      rfl
    · cases h
      rfl
  · cases h
    rfl

/-- The first command under a key leaves its own receipt. -/
theorem mutateRow_of_new (hnone : row.commands.get? key = none)
    (h : b.mutateRow row operation payload key fingerprint generation callback hostAction =
      .ok (row', r)) : row'.commands.get? key = some ⟨fingerprint, r⟩ := by
  unfold Backend.mutateRow at h
  split at h
  · cases h
    rw [if_neg (by simp [Dict.contains, hnone])]
    exact Dict.get?_set_self _ _ _
  · cases h
  · rw [hnone] at h
    unfold execute at h
    dsimp only at h
    split at h
    · cases pure_eq_ok.1 h
      exact Dict.get?_set_self _ _ _
    · cases pure_eq_ok.1 h
      exact Dict.get?_set_self _ _ _
    · cases h

/-- The answer to a command whose key has a receipt: a refusal of the caller, a conflict with the
command of the receipt, or the recorded response. -/
inductive ReplayAnswer (row : AppRow) (generation : Option String) (hostAction : Bool)
    (fingerprint : String) (previous : Receipt) : Response → Prop
  | refused {e : SchedulerError} (h : authority row generation true hostAction = .error (.scheduler e)) :
      ReplayAnswer row generation hostAction fingerprint previous (.error e)
  | conflict (hauth : authority row generation true hostAction = .ok ())
      (h : previous.fingerprint ≠ fingerprint) :
      ReplayAnswer row generation hostAction fingerprint previous
        (.error ⟨"conflict", "idempotency-conflict", false⟩)
  | replayed (hauth : authority row generation true hostAction = .ok ())
      (h : previous.fingerprint = fingerprint) :
      ReplayAnswer row generation hostAction fingerprint previous previous.response.markDeduplicated

theorem mutateRow_of_receipt {previous : Receipt} (hprev : row.commands.get? key = some previous)
    (h : b.mutateRow row operation payload key fingerprint generation callback hostAction =
      .ok (row', r)) :
    row.Marked row' ∧ ReplayAnswer row generation hostAction fingerprint previous r := by
  unfold Backend.mutateRow at h
  split at h
  · rename_i e hauth
    cases h
    rw [if_pos (by simp [Dict.contains, hprev])]
    exact ⟨.refl row, .refused hauth⟩
  · cases h
  · rename_i hauth
    rw [hprev] at h
    dsimp only at h
    unfold Backend.replay at h
    split at h
    · rename_i hne
      cases pure_eq_ok.1 h
      exact ⟨.refl row, .conflict hauth hne⟩
    · rename_i heq
      obtain ⟨row₁, hmark, h⟩ := bind_eq_ok.1 h
      cases pure_eq_ok.1 h
      exact ⟨markAction_marked hmark, .replayed hauth (not_not.1 heq)⟩

end

/-! ## Fingerprints -/

theorem sortKeys_command (v w : Json) :
    (Json.obj [("operation", v), ("payload", w)]).sortKeys =
      .obj [("operation", v.sortKeys), ("payload", w.sortKeys)] := by
  have hle : ("operation" : String) ≤ "payload" := by decide
  simp [Json.sortKeys, Json.sortMembers, hle]

/-- Where the digest is injective, a fingerprint determines the operation and the payload, up to
the order of members and, of a snooze, the time its action was received. -/
theorem fingerprint_inj {sha : String → String} (hinj : Function.Injective sha) {b b' : Backend}
    (hb : b.sha256 = sha) (hb' : b'.sha256 = sha) {op op' : String} {ms ms' : List (String × Json)}
    {f : String} (h : b.fingerprint op ms = .ok f) (h' : b'.fingerprint op' ms' = .ok f) :
    op = op' ∧ (Json.obj (semanticPayload op ms)).sortKeys = (Json.obj (semanticPayload op' ms')).sortKeys := by
  have hsort := digest_inj hinj hb hb' h h'
  rw [sortKeys_command, sortKeys_command] at hsort
  have hms := Json.obj.inj hsort
  exact ⟨by simpa [Json.sortKeys] using congrArg List.head? hms, by simpa using congrArg List.tail hms⟩

/-! ## Commands over runs -/

/-- What an app's idempotency keys are good for, after any run. -/
structure IdempotencyLaws (app : String) (run : List Input) : Prop where
  /-- The first command under a key, whatever it answers, leaves a receipt of itself. -/
  recorded : ∀ b m key l' r, m.app = app → m.key = .str key →
    (after .empty run).receipt app key = none →
    Backend.mutatingCall b (after .empty run) m = .ok (l', r) →
    ∃ payload f, m.payload = .obj payload ∧ b.fingerprint m.operation payload = .ok f ∧
      l'.receipt app key = some ⟨f, r⟩
  /-- A receipt stays, whatever is called afterwards. -/
  kept : ∀ key receipt more, (after .empty run).receipt app key = some receipt →
    (after .empty (run ++ more)).receipt app key = some receipt
  /-- A command under a key with a receipt is answered from it, and changes only marks, or it does
  not get that far: its own checks refuse it, and nothing changes. -/
  answered : ∀ b c m key receipt l' r, Backend.mutation b c = some (.ok m) → m.app = app →
    m.key = .str key → (after .empty run).receipt app key = some receipt →
    b.perform (after .empty run) c = .ok (l', r) →
    (∃ e, b.mutatingCall (after .empty run) m = .error (.scheduler e) ∧
      r = .response (.error e) ∧ l' = after .empty run) ∨
    ∃ row payload f response, (after .empty run).apps.get? app = some row ∧
      m.payload = .obj payload ∧ b.fingerprint m.operation payload = .ok f ∧
      r = .response response ∧ ReplayAnswer row m.generation m.hostAction f receipt response ∧
      (after .empty run).Marked app l'
  /-- Where the digest is injective, commands of one fingerprint are one command. -/
  same : ∀ (b b' : Backend) op op' payload payload' f, Function.Injective b.sha256 → b'.sha256 = b.sha256 →
    b.fingerprint op payload = .ok f → b'.fingerprint op' payload' = .ok f →
    op = op' ∧ (Json.obj (semanticPayload op payload)).sortKeys =
      (Json.obj (semanticPayload op' payload')).sortKeys

section

variable {b : Backend} {l l' : Ledger} {app key : String} {m : Mutation}

theorem receipt_eq_none {row : AppRow} (hrow : l.apps.get? app = some row)
    (h : l.receipt app key = none) : row.commands.get? (receiptKey key) = none := by
  unfold Ledger.receipt at h
  rwa [hrow] at h

theorem receipt_eq_some {rc : Receipt} (h : l.receipt app key = some rc) :
    ∃ row, l.apps.get? app = some row ∧ row.commands.get? (receiptKey key) = some rc :=
  Option.bind_eq_some_iff.1 h

theorem recorded_of_new {r : Response} (happ : m.app = app) (hkey : m.key = .str key)
    (hnone : l.receipt app key = none) (h : b.mutatingCall l m = .ok (l', r)) :
    ∃ payload f, m.payload = .obj payload ∧ b.fingerprint m.operation payload = .ok f ∧
      l'.receipt app key = some ⟨f, r⟩ := by
  obtain ⟨payload, key', f, row, row', hp, hkey', hf, hrow, hmut, rfl⟩ := mutatingCall_eq_ok h
  subst happ
  obtain rfl : key' = key := Json.str.inj (hkey'.symm.trans hkey)
  refine ⟨payload, f, hp, hf, ?_⟩
  unfold Ledger.receipt
  rw [get?_setApp, if_pos rfl]
  exact mutateRow_of_new (receipt_eq_none hrow hnone) hmut

theorem answered_of_receipt {c : Call} {rc : Receipt} {r : Reply} (hc : b.mutation c = some (.ok m))
    (happ : m.app = app) (hkey : m.key = .str key) (hrc : l.receipt app key = some rc)
    (h : b.perform l c = .ok (l', r)) :
    (∃ e, b.mutatingCall l m = .error (.scheduler e) ∧ r = .response (.error e) ∧ l' = l) ∨
    ∃ row payload f response, l.apps.get? app = some row ∧ m.payload = .obj payload ∧
      b.fingerprint m.operation payload = .ok f ∧ r = .response response ∧
      ReplayAnswer row m.generation m.hostAction f rc response ∧ l.Marked app l' := by
  rw [perform_eq_respond hc] at h
  obtain ⟨⟨l₁, response⟩, hcaught, h⟩ := bind_eq_ok.1 h
  cases pure_eq_ok.1 h
  have hm : (do b.mutatingCall l (← (Except.ok m : Py Mutation))) = b.mutatingCall l m := rfl
  rw [hm] at hcaught
  unfold caught at hcaught
  split at hcaught
  · rename_i e he
    cases hcaught
    exact .inl ⟨e, he, rfl, rfl⟩
  · obtain ⟨payload, key', f, row, row', hp, hkey', hf, hrow, hmut, rfl⟩ := mutatingCall_eq_ok hcaught
    subst happ
    obtain rfl : key' = key := Json.str.inj (hkey'.symm.trans hkey)
    obtain ⟨row₀, hrow₀, hget⟩ := receipt_eq_some hrc
    obtain rfl := Option.some.inj (hrow₀.symm.trans hrow)
    obtain ⟨hmarked, hanswer⟩ := mutateRow_of_receipt hget hmut
    exact .inr ⟨row₀, payload, f, response, hrow, hp, hf, rfl, hanswer, row₀, row', hrow, hmarked, rfl⟩

/-- **Idempotency.** After every run: the first command under a key leaves a receipt of what it was
and what it was answered; the receipt outlasts every later call; and a command under a used key is
refused, conflicts with the recorded one, or is that command, which is answered as it was. -/
theorem idempotency_laws (app : String) (run : List Input) : IdempotencyLaws app run where
  recorded _ _ _ _ _ happ hkey hnone h := recorded_of_new happ hkey hnone h
  kept key rc more h := by
    obtain ⟨row, hrow, hget⟩ := receipt_eq_some h
    obtain ⟨row', hrow', hgrows⟩ := after_grows ⟨run, rfl⟩ more hrow
    obtain ⟨rc', hget', heq⟩ := hgrows.commands hget
    rw [after_append]
    unfold Ledger.receipt
    rw [hrow']
    exact hget'.trans (congrArg some heq.symm)
  answered _ _ _ _ _ _ _ hc happ hkey hrc h := answered_of_receipt hc happ hkey hrc h
  same _ _ _ _ _ _ _ hinj hsha h h' := fingerprint_inj hinj rfl hsha h h'

end

end Vibapp.Scheduler
