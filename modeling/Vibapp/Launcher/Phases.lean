import Vibapp.Launcher.Laws
import Vibapp.Lib.Json

/-!
# Phases of a job

**Settled** (`Settled`). A cancel of the job is accepted, or its backend has been seen in a terminal
state. The record keeps this in its state or in `pending_terminal`.

**Orderly calls** (`Orderly`). What the executor answers about a job that is settled is understood, a
terminal observation is well formed, and there is room for the events. Only then is the fact kept: an
observation that is not understood sets `pending_terminal` back to `None`, and a full list of events
overwrites the state.

**Main result** (`job_phases`). In a run of orderly calls a settled job stays settled and never shows
as running, and a confirmed terminal observation makes it terminal.
-/

namespace Vibapp.Launcher

open Prog

namespace JobRecord

variable {sha256 : List UInt8 → String} {r : JobRecord}

/-- A cancel is accepted, or the backend has been seen in a terminal state. -/
def Settled (r : JobRecord) : Prop :=
  r.state.terminal = true ∨ r.state = .cancelRequested ∨
    r.state = .cleanupPending ∧ r.pendingTerminal ≠ none

/-- There is room for the last two events. -/
def Room (r : JobRecord) : Prop :=
  r.events.length < maxEventsPerJob ∧ (r.events.length + 1 < maxEventsPerJob ∨
    r.events.getLast?.map Prod.snd = some (.quiescing, .cleanupPending))

theorem Settled.not_running (h : Settled r) : r.state ≠ .running := by
  intro heq
  rcases h with h | h | ⟨h, -⟩ <;> rw [heq] at h <;> cases h

/-! ## Events -/

theorem appendEvent_of_full (phase : EventPhase) (code : EventCode)
    (h : maxEventsPerJob ≤ r.events.length) : (r.appendEvent phase code).state = .cleanupPending := by
  unfold appendEvent
  rw [if_pos h]

theorem appendEvent_of_room (phase : EventPhase) (code : EventCode)
    (h : r.events.length < maxEventsPerJob) : (r.appendEvent phase code).state = r.state := by
  unfold appendEvent
  rw [if_neg (Nat.not_le.2 h)]
  split_ifs <;> rfl

theorem appendEvent_pending (r : JobRecord) (phase : EventPhase) (code : EventCode) :
    (r.appendEvent phase code).pendingTerminal = r.pendingTerminal := by
  unfold appendEvent
  split_ifs <;> rfl

/-- `Room` is room behind the event that `finish` adds first. -/
theorem room_iff : (r.appendEvent .quiescing .cleanupPending).events.length < maxEventsPerJob ↔
    Room r := by
  unfold Room appendEvent
  split_ifs with hfull hlast
  · exact ⟨fun h => absurd h (Nat.not_lt.2 hfull), fun h => h.1⟩
  · exact ⟨fun h => ⟨h, .inr hlast⟩, fun h => h.1⟩
  · dsimp only
    rw [List.length_append]
    constructor
    · intro h
      exact ⟨Nat.lt_of_succ_lt h, .inl h⟩
    · rintro ⟨-, h | h⟩
      · exact h
      · exact absurd h hlast

/-- A terminal state is kept if there is room for its event. -/
theorem appendEvent_terminal_iff (phase : EventPhase) (code : EventCode)
    (h : r.state.terminal = true) :
    (r.appendEvent phase code).state.terminal = true ↔ r.events.length < maxEventsPerJob := by
  constructor
  · intro hterminal
    by_contra hfull
    rw [appendEvent_of_full phase code (Nat.not_lt.1 hfull)] at hterminal
    cases hterminal
  · intro hroom
    rw [appendEvent_of_room phase code hroom, h]

theorem hold_terminal_iff (failureCode : String) :
    (r.hold failureCode).state.terminal = true ↔ r.events.length < maxEventsPerJob :=
  appendEvent_terminal_iff (r := { r with
    state := .held, failureCode := some failureCode, success := none }) _ _ rfl

/-! ## Observations -/

/-- **Completion.** A confirmed terminal observation makes a record terminal exactly if there is room
for its events. -/
theorem finish_terminal_iff {state : BackendState} {success : Reported} (hstate : state ≠ .running)
    (hsuccess : success ≠ .other) :
    (r.finish sha256 state success).2.state.terminal = true ↔ Room r := by
  rw [← room_iff]
  unfold finish
  dsimp only
  cases state with
  | running => exact absurd rfl hstate
  | succeeded =>
    cases success with
    | none => exact hold_terminal_iff _
    | other => exact absurd rfl hsuccess
    | success value =>
      dsimp only
      split_ifs
      · exact appendEvent_terminal_iff _ _ rfl
      · exact hold_terminal_iff _
  | failed =>
    dsimp only
    split_ifs
    · exact hold_terminal_iff _
    · exact appendEvent_terminal_iff _ _ rfl
  | cancelled =>
    dsimp only
    split_ifs
    · exact hold_terminal_iff _
    · exact appendEvent_terminal_iff _ _ rfl

/-- A terminal observation of the execution. -/
structure Ended (o : BackendObservation) (id : String) (final : BackendState) : Prop where
  execution : requireBackendExecutionId o.backendExecutionId = .ok id
  state : o.state = some final
  terminal : final ≠ .running

/-- The flags of a terminal observation are there, and its success is none or a `BackendSuccess`. -/
structure WellFormed (o : BackendObservation) : Prop where
  cleanup : o.cleanupConfirmed ≠ none
  quiescent : o.wholeJobQuiescent ≠ none
  success : o.success ≠ .other

/-- The cleanup is confirmed, and the whole job is quiescent. -/
def Quiet (o : BackendObservation) : Prop :=
  o.cleanupConfirmed = some true ∧ o.wholeJobQuiescent = some true

/-- An observation that a settled record understands. -/
def Understood (r : JobRecord) (o : BackendObservation) : Prop :=
  ∃ id, r.backendExecutionId = some id ∧
    requireBackendExecutionId o.backendExecutionId = .ok id ∧
    (o.state = some .running ∧ o.success = .none ∨ ∃ final, Ended o id final)

/-- An observation that keeps what is known of a record. -/
structure Fits (r : JobRecord) (o : BackendObservation) : Prop where
  understood : Settled r → Understood r o
  wellFormed : ∀ id final, r.backendExecutionId = some id → Ended o id final → WellFormed o
  room : ∀ id final, r.backendExecutionId = some id → Ended o id final → Quiet o → Room r

theorem applyObservation_ended {o : BackendObservation} {id : String} {final : BackendState}
    (hown : r.backendExecutionId = some id) (hended : Ended o id final) (hform : WellFormed o) :
    r.applyObservation sha256 o = if o.cleanupConfirmed = some true ∧ o.wholeJobQuiescent = some true
      then r.finish sha256 final o.success
      else (.done (), r.quiescencePending "cleanup-not-confirmed" (some final)) := by
  obtain ⟨cleanup, hcleanup⟩ := Option.ne_none_iff_exists'.1 hform.cleanup
  obtain ⟨quiescent, hquiescent⟩ := Option.ne_none_iff_exists'.1 hform.quiescent
  unfold applyObservation
  rw [hended.execution]
  dsimp only
  rw [if_neg (fun hne => hne hown.symm), hended.state, hcleanup, hquiescent]
  have hterminal := hended.terminal
  cases final with
  | running => exact absurd rfl hterminal
  | succeeded => cases cleanup <;> cases quiescent <;> rfl
  | failed => cases cleanup <;> cases quiescent <;> rfl
  | cancelled => cases cleanup <;> cases quiescent <;> rfl

theorem settled_quiescencePending (failureCode : String) {pending : Option BackendState}
    (h : pending ≠ none) : Settled (r.quiescencePending failureCode pending) := by
  refine .inr (.inr ⟨quiescencePending_state _ _ _, ?_⟩)
  unfold quiescencePending
  rw [appendEvent_pending]
  exact h

/-- A terminal observation that fits settles a record. -/
theorem settled_of_ended {o : BackendObservation} {id : String} {final : BackendState}
    (hown : r.backendExecutionId = some id) (hended : Ended o id final) (hfits : Fits r o) :
    Settled (r.applyObservation sha256 o).2 := by
  have hform := hfits.wellFormed id final hown hended
  rw [applyObservation_ended hown hended hform]
  split_ifs with hquiet
  · have hroom := hfits.room id final hown hended hquiet
    exact .inl ((finish_terminal_iff hended.terminal hform.success).2 hroom)
  · exact settled_quiescencePending _ (Option.some_ne_none _)

/-- An observation that fits keeps a record settled. -/
theorem settled_applyObservation (hsettled : Settled r) (hrun : r.state.terminal = false)
    {o : BackendObservation} (hfits : Fits r o) : Settled (r.applyObservation sha256 o).2 := by
  obtain ⟨id, hown, hid, ⟨hstate, hsuccess⟩ | ⟨final, hended⟩⟩ := hfits.understood hsettled
  · unfold applyObservation
    rw [hid]
    dsimp only
    rw [if_neg (fun hne => hne hown.symm), hstate, hsuccess]
    dsimp only
    unfold observeRunning
    rw [if_neg (fun hne => hne rfl)]
    by_cases hpending : r.pendingTerminal = none
    · rw [if_neg (fun hne => hne hpending)]
      rcases hsettled with h | h | ⟨-, h⟩
      · rw [hrun] at h
        cases h
      · rw [if_neg (fun hne => hne h)]
        exact .inr (.inl h)
      · exact absurd hpending h
    · rw [if_pos hpending]
      exact settled_quiescencePending _ hpending
  · exact settled_of_ended hown hended hfits

theorem settled_requestCancel (h : r.events.length < maxEventsPerJob) : Settled r.requestCancel :=
  .inr (.inl (appendEvent_of_room (r := { r with state := .cancelRequested }) _ _ h))

end JobRecord

/-! ## Orderly calls -/

variable {digests : Digests} {e : Executor} {s t : Service} {key : JobKey} {r q : JobRecord}

/-- What the executor answers in a call about a job fits, and a cancel has room for its event. -/
def Orderly (e : Executor) (call : Call) (key : JobKey) (r : JobRecord) : Prop :=
  call.Asks key → r.state.terminal = false →
    if call.cancels then
      r.events.length < maxEventsPerJob ∧ ∀ o, e.cancel = .observed o → r.requestCancel.Fits o
    else ∀ o, e.status = .observed o → r.Fits o

/-- An orderly call. -/
def OrderlyStep (digests : Digests) (label : Call × Executor) (s t : Service) : Prop :=
  CallStep digests label s t ∧ ∀ key r, s.jobs.get? key = some r → Orderly label.2 label.1 key r

/-- What `Orderly` says of a move. -/
def MoveFits (e : Executor) (cancels : Bool) (r : JobRecord) : Prop :=
  if cancels then
    r.events.length < maxEventsPerJob ∧ ∀ o, e.cancel = .observed o → r.requestCancel.Fits o
  else ∀ o, e.status = .observed o → r.Fits o

section

variable {cancels : Bool} {seen : Option BackendObservation}

theorem requestCancel_running (r : JobRecord) (hroom : r.events.length < maxEventsPerJob) :
    r.requestCancel.state.terminal = false := by
  have hstate := JobRecord.appendEvent_of_room (r := { r with state := .cancelRequested })
    .quiescing .cancelRequested hroom
  unfold JobRecord.requestCancel
  rw [hstate]
  rfl

/-- A move that fits leaves a record settled, and a cancel or a terminal observation settles it. -/
theorem Move.settled (hmove : Move digests e r cancels q seen) (hrun : r.state.terminal = false)
    (hown : r.backendExecutionId ≠ none) (hfits : MoveFits e cancels r)
    (hwhy : r.Settled ∨ cancels = true ∨ ∃ o id final, seen = some o ∧
      r.backendExecutionId = some id ∧ JobRecord.Ended o id final) : q.Settled := by
  cases hmove with
  | status id o own reply =>
    have hfit : r.Fits o := hfits o reply
    rcases hwhy with hsettled | hcancels | ⟨o', id', final, hseen, hown', hended⟩
    · exact JobRecord.settled_applyObservation hsettled hrun hfit
    · cases hcancels
    · cases hseen
      exact JobRecord.settled_of_ended hown' hended hfit
  | cancel id o own reply =>
    have hsettled := JobRecord.settled_requestCancel hfits.1
    exact JobRecord.settled_applyObservation hsettled (requestCancel_running r hfits.1)
      (hfits.2 o reply)
  | asked => exact JobRecord.settled_requestCancel hfits.1
  | lost own code => exact absurd own hown
  | lostCancel own code => exact absurd own hown

end

/-! ## Runs -/

/-- A job whose backend has been seen in a terminal state is settled. -/
structure PhaseInv (s : Service) : Prop where
  known : ∀ key o, (key, o) ∈ s.observations → ∃ r, s.jobs.get? key = some r
  settled : ∀ key r o id final, s.jobs.get? key = some r → (key, o) ∈ s.observations →
    r.backendExecutionId = some id → JobRecord.Ended o id final → r.Settled

/-- A job that is settled stays so. -/
def StaysSettled (s t : Service) : Prop := ∀ key r, s.jobs.get? key = some r → r.Settled →
  ∃ q, t.jobs.get? key = some q ∧ q.Settled

theorem JobInv.execution_ne (h : JobInv digests s key r) : r.backendExecutionId ≠ none := by
  rw [h.execution]
  exact Option.some_ne_none _

/-- One orderly call. -/
theorem OrderlyStep.phases {label : Call × Executor} (hstep : OrderlyStep digests label s t)
    (hinv : Inv digests s) (hphase : PhaseInv s) : PhaseInv t ∧ StaysSettled s t := by
  have heffect := CallStep.effect hstep.1 hinv
  cases heffect with
  | none => exact ⟨hphase, fun key r hr hs => ⟨r, hr, hs⟩⟩
  | launch request profile newKey newIdempotencyKey hvalid hexecutor hl =>
    have hold : ∀ {k r}, s.jobs.get? k = some r → t.jobs.get? k = some r := by
      intro k r hr
      rw [hl.jobs, if_neg, hr]
      intro heq
      rw [heq, newKey] at hr
      cases hr
    refine ⟨⟨fun k o ho => ?_, fun k r o id final hr ho hown hended => ?_⟩,
      fun k r hr hs => ⟨r, hold hr, hs⟩⟩
    · rw [hl.observations] at ho
      obtain ⟨r, hr⟩ := hphase.known k o ho
      exact ⟨r, hold hr⟩
    · rw [hl.observations] at ho
      obtain ⟨r', hr'⟩ := hphase.known k o ho
      rw [hold hr'] at hr
      cases hr
      exact hphase.settled k r o id final hr' ho hown hended
  | move key r q seen hr hrun hasks hmove hw =>
    have hfits : MoveFits label.2 label.1.cancels r := hstep.2 key r hr hasks hrun
    have hown := (hinv.jobs key r hr).execution_ne
    have hsame := hmove.sameJob
    have hkeep : r.Settled → q.Settled := fun hs => hmove.settled hrun hown hfits (.inl hs)
    have hkey : t.jobs.get? key = some q := by rw [hw.jobs, if_pos rfl]
    have hother : ∀ {k}, k ≠ key → t.jobs.get? k = s.jobs.get? k := by
      intro k hk
      rw [hw.jobs, if_neg hk]
    refine ⟨⟨fun k o ho => ?_, fun k r' o id final hr' ho hexec hended => ?_⟩, fun k r' hr' hs => ?_⟩
    · by_cases hk : k = key
      · exact ⟨q, hk ▸ hkey⟩
      · rw [hw.observations] at ho
        rcases List.mem_append.1 ho with ho | ho
        · obtain ⟨_, -, heq⟩ := List.mem_map.1 ho
          exact absurd (Prod.mk.inj heq).1.symm hk
        · obtain ⟨r', hr'⟩ := hphase.known k o ho
          exact ⟨r', (hother hk).trans hr'⟩
    · by_cases hk : k = key
      · subst hk
        rw [hkey] at hr'
        cases hr'
        rw [hsame.execution] at hexec
        rw [hw.observations] at ho
        rcases List.mem_append.1 ho with ho | ho
        · obtain ⟨o', hseen, heq⟩ := List.mem_map.1 ho
          cases heq
          exact hmove.settled hrun hown hfits
            (.inr (.inr ⟨o, id, final, Option.mem_toList.1 hseen, hexec, hended⟩))
        · exact hkeep (hphase.settled k r o id final hr ho hexec hended)
      · rw [hother hk] at hr'
        rw [hw.observations] at ho
        rcases List.mem_append.1 ho with ho | ho
        · obtain ⟨_, -, heq⟩ := List.mem_map.1 ho
          exact absurd (Prod.mk.inj heq).1.symm hk
        · exact hphase.settled k r' o id final hr' ho hexec hended
    · by_cases hk : k = key
      · subst hk
        rw [hr] at hr'
        cases hr'
        exact ⟨q, hkey, hkeep hs⟩
      · exact ⟨r', (hother hk).trans hr', hs⟩

/-- The steps of an orderly run are calls. -/
theorem calls_of_orderly {labels : List (Call × Executor)}
    (hsteps : Steps (OrderlyStep digests) labels s t) : Steps (CallStep digests) labels s t := by
  induction hsteps with
  | nil s => exact .nil s
  | cons head _ ih => exact .cons head.1 ih

theorem steps_phases {labels : List (Call × Executor)}
    (hsteps : Steps (OrderlyStep digests) labels s t) (hinv : Inv digests s) (hphase : PhaseInv s) :
    (Inv digests t ∧ PhaseInv t) ∧ StaysSettled s t := by
  have hboth : Inv digests t ∧ PhaseInv t :=
    hsteps.invariant (P := fun u => Inv digests u ∧ PhaseInv u) ⟨hinv, hphase⟩ fun _ hstep hs =>
      ⟨(CallStep.effect hstep.1 hs.1).inv hs.1, (hstep.phases hs.1 hs.2).1⟩
  refine ⟨hboth, hsteps.rel (Q := StaysSettled) (P := fun u => Inv digests u ∧ PhaseInv u)
    (fun s key r hr hs => ⟨r, hr, hs⟩) (fun h h' key r hr hs => ?_) ⟨hinv, hphase⟩ fun _ hstep hs => ?_⟩
  · obtain ⟨q, hq, hsettled⟩ := h key r hr hs
    exact h' key q hq hsettled
  · obtain ⟨hphase', hstays⟩ := hstep.phases hs.1 hs.2
    exact ⟨⟨(CallStep.effect hstep.1 hs.1).inv hs.1, hphase'⟩, hstays⟩

/-! ## The laws -/

/-- The view of a cancel that is answered shows a job that is settled. -/
theorem settled_of_cancel {jobId attemptId : Scalar} {view : JobView} (hinv : Inv digests s)
    (hstep : OrderlyStep digests (.cancel jobId attemptId, e) s t)
    (h : perform digests (.cancel jobId attemptId) e s = (.done (.job view), t)) :
    ∃ q, t.jobs.get? (view.jobId, view.attemptId) = some q ∧ q.Settled := by
  obtain ⟨_, hcall, ⟨⟩⟩ := map_eq_done (m := cancel digests jobId attemptId) h
  have hacts := (cancel_spec jobId attemptId).done hcall
  have htinv := hacts.effect.inv hinv
  obtain ⟨q, hq, rfl⟩ := hacts.shows.job htinv
  refine ⟨q, hq, ?_⟩
  obtain ⟨key, r, hr, hasks, ⟨hterminal, rfl, hview⟩ | ⟨hrun, q', seen, hmove, hw, hview⟩⟩ := hacts
  · have hkey := (hinv.jobs key r hr).own
    have hids : (q.view.jobId, q.view.attemptId) = key := by
      rw [hview, hkey]
      rfl
    rw [hids, hr] at hq
    cases hq
    exact .inl hterminal
  · have hget : t.jobs.get? key = some q' := by rw [hw.jobs, if_pos rfl]
    have hids : (q.view.jobId, q.view.attemptId) = key := by
      rw [hview, (htinv.jobs key q' hget).own]
      rfl
    rw [hids, hget] at hq
    cases hq
    exact hmove.settled hrun (hinv.jobs key r hr).execution_ne (hstep.2 key r hr hasks hrun)
      (.inr (.inl rfl))

/-- `status` of a running job with an answer of its executor. -/
theorem status_of_observed (hinv : Inv digests s) (hr : s.jobs.get? key = some r)
    (hrun : r.state.terminal = false) {o : BackendObservation} (ho : e.status = .observed o)
    (hdone : (r.applyObservation digests.bytes o).1 = .done ()) : ∃ t,
    perform digests (.status (.str key.1) (.str key.2)) e s =
      (.done (.job (r.applyObservation digests.bytes o).2.view), t) ∧
    t.jobs.get? key = some (r.applyObservation digests.bytes o).2 := by
  have hjob := hinv.jobs key r hr
  have hids : requireId (.str key.1) "job_id" = .ok key.1 ∧
      requireId (.str key.2) "attempt_id" = .ok key.2 := by
    unfold requireId require requireString
    dsimp only [Bind.bind, Except.bind]
    rw [if_pos hjob.jobId, if_pos hjob.attemptId]
    exact ⟨rfl, rfl⟩
  obtain ⟨q, hq⟩ : ∃ q, q = (r.applyObservation digests.bytes o).2 := ⟨_, rfl⟩
  have happly : r.applyObservation digests.bytes o = (.done (), q) := by rw [hq, ← hdone]
  have hfound : wp (getJob (.str key.1) (.str key.2)) (fun p t => s = t ∧ p = (key, r))
      (fun _ _ => False) (fun _ => False) e s := by
    unfold getJob
    rw [hids.1, hids.2]
    refine wp_bind.2 (wp_pure.2 (wp_bind.2 (wp_pure.2 (wp_read_bind.2 ?_))))
    rw [show s.jobs.get? (key.1, key.2) = some r from hr]
    exact ⟨rfl, rfl⟩
  have hpoll : wp (poll digests key r Executor.status) (fun p t => p = q ∧ t.jobs.get? key = some q)
      (fun _ _ => False) (fun _ => False) e s := by
    unfold poll observe
    refine wp_read_bind.2 ?_
    rw [if_neg (not_not.2 hjob.executor)]
    refine wp_bind.2 (wp_read_bind.2 ?_)
    rw [ho]
    refine wp_modify_bind.2 ?_
    rw [wp_pure, happly]
    exact ⟨rfl, Dict.get?_set_self _ _ _⟩
  have hstatus : wp (status digests (.str key.1) (.str key.2))
      (fun view t => view = q.view ∧ t.jobs.get? key = some q) (fun _ _ => False) (fun _ => False)
      e s := by
    unfold status
    refine wp_seq hfound ?_
    rintro _ _ ⟨rfl, rfl⟩
    dsimp only
    rw [if_neg (Bool.eq_false_iff.1 hrun)]
    cases hid : r.backendExecutionId with
    | none => exact absurd hid hjob.execution_ne
    | some id =>
      refine wp_seq hpoll ?_
      rintro _ t ⟨rfl, ht⟩
      exact ⟨rfl, ht⟩
  obtain ⟨view, t, hrun', rfl, ht⟩ := hstatus.total
  rw [← hq]
  exact ⟨t, bind_of_done hrun', ht⟩

/-- **The laws of the phases**, after a run of orderly calls that leads to `s`. -/
structure PhaseLaws (digests : Digests) (s : Service) : Prop where
  /-- A job whose backend has been seen in a terminal state is settled. -/
  observed : ∀ key r o id final, s.jobs.get? key = some r → (key, o) ∈ s.observations →
    r.backendExecutionId = some id → JobRecord.Ended o id final → r.Settled
  /-- So is a job after a cancel that is answered. -/
  cancelled : ∀ e jobId attemptId view t, OrderlyStep digests (.cancel jobId attemptId, e) s t →
    perform digests (.cancel jobId attemptId) e s = (.done (.job view), t) →
      ∃ q, t.jobs.get? (view.jobId, view.attemptId) = some q ∧ q.Settled
  /-- A settled job stays so, and no later view shows it as running. -/
  stays : ∀ key r, s.jobs.get? key = some r → r.Settled → ∀ labels u,
    Steps (OrderlyStep digests) labels s u → ∃ q, u.jobs.get? key = some q ∧ q.Settled
  views : ∀ key r, s.jobs.get? key = some r → r.Settled → ∀ label t view,
    OrderlyStep digests label s t → perform digests label.1 label.2 s = (.done (.job view), t) →
      (view.jobId, view.attemptId) = key → view.state ≠ .running
  /-- A confirmed terminal observation makes a job terminal, if and only if there is room for its
  events. -/
  completes : ∀ key r e o id final, s.jobs.get? key = some r → r.state.terminal = false →
    r.backendExecutionId = some id → e.status = .observed o → JobRecord.Ended o id final →
      JobRecord.WellFormed o → JobRecord.Quiet o →
        ∃ view t, perform digests (.status (.str key.1) (.str key.2)) e s = (.done (.job view), t) ∧
          (view.state.terminal = true ↔ r.Room)

/-- A confirmed terminal observation is answered. -/
theorem finish_done {state : BackendState} {success : Reported} (hsuccess : success ≠ .other) :
    (r.finish digests.bytes state success).1 = .done () := by
  unfold JobRecord.finish
  dsimp only
  cases state with
  | succeeded =>
    cases success with
    | none => rfl
    | other => exact absurd rfl hsuccess
    | success value =>
      dsimp only
      split_ifs <;> rfl
  | running =>
    dsimp only
    split_ifs <;> rfl
  | failed =>
    dsimp only
    split_ifs <;> rfl
  | cancelled =>
    dsimp only
    split_ifs <;> rfl

theorem phaseLaws (hinv : Inv digests s) (hphase : PhaseInv s) : PhaseLaws digests s := by
  refine ⟨hphase.settled, fun e j a view t hstep h => settled_of_cancel hinv hstep h, ?_, ?_, ?_⟩
  · intro key r hr hs labels u hsteps
    exact (steps_phases hsteps hinv hphase).2 key r hr hs
  · intro key r hr hs label t view hstep h hkey
    obtain ⟨htinv, hshows⟩ := perform_inv hinv h
    obtain ⟨q, hq, rfl⟩ := (hshows view rfl).job htinv
    obtain ⟨q', hq', hsettled⟩ := (hstep.phases hinv hphase).2 key r hr hs
    rw [hkey, hq'] at hq
    cases hq
    exact hsettled.not_running
  · intro key r e o id final hr hrun hown ho hended hform hquiet
    have happly : r.applyObservation digests.bytes o = r.finish digests.bytes final o.success := by
      rw [JobRecord.applyObservation_ended hown hended hform]
      exact if_pos hquiet
    have hdone : (r.applyObservation digests.bytes o).1 = .done () := by
      rw [happly]
      exact finish_done hform.success
    obtain ⟨t, hperform, -⟩ := status_of_observed hinv hr hrun ho hdone
    refine ⟨_, t, hperform, ?_⟩
    rw [happly]
    exact JobRecord.finish_terminal_iff hended.terminal hform.success

/-- **Phases.** In a run of orderly calls the phases of a job are monotone, and it can complete. -/
theorem job_phases (digests : Digests) {profiles : List ProviderProfile}
    {executors : List ExecutorKind} {s₀ : Service} (hinit : init profiles executors = .ok s₀)
    {labels : List (Call × Executor)} (hsteps : Steps (OrderlyStep digests) labels s₀ s) :
    PhaseLaws digests s := by
  have hinv : Inv digests s₀ := init_inv hinit
  have hnone : s₀.observations = [] := by
    unfold init at hinit
    obtain ⟨table, -, hinit⟩ := bind_eq_ok.1 hinit
    by_cases hnodup : executors.Nodup
    · rw [if_neg (not_not.2 hnodup)] at hinit
      cases hinit
      rfl
    · rw [if_pos hnodup] at hinit
      cases hinit
  have hphase : PhaseInv s₀ := by
    refine ⟨fun key o ho => ?_, fun key r o id final _ ho => ?_⟩
    · rw [hnone] at ho
      exact absurd ho List.not_mem_nil
    · rw [hnone] at ho
      exact absurd ho List.not_mem_nil
  obtain ⟨⟨hinv, hphase⟩, -⟩ := steps_phases hsteps hinv hphase
  exact phaseLaws hinv hphase

/-! ## Samples -/

theorem sampleRunning_fits : sampleRunning.Fits (sampleObservation .succeeded sampleSuccess) := by
  have hended : JobRecord.Ended (sampleObservation .succeeded sampleSuccess) sampleId .succeeded :=
    ⟨rfl, rfl, fun h => by cases h⟩
  refine ⟨fun _ => ⟨sampleId, rfl, rfl, .inr ⟨.succeeded, hended⟩⟩, fun id final _ _ => ?_,
    fun id final _ _ _ => ⟨by decide, .inl (by decide)⟩⟩
  exact ⟨Option.some_ne_none _, Option.some_ne_none _, Reported.noConfusion⟩

theorem job_phases_sample : PhaseLaws sampleDigests sampleFinished := by
  refine @job_phases sampleFinished sampleDigests [sampleProfile] [.docker] sampleStart rfl
    [sampleSubmit, sampleStatus (sampleObservation .succeeded sampleSuccess)]
    (.cons ⟨sampleSubmit_step, fun _ _ _ hasks => hasks.elim⟩ (.single ⟨rfl, ?_⟩))
  rintro ⟨job, attempt⟩ r hr ⟨hjob, hattempt⟩ hrun
  cases hjob
  cases hattempt
  cases hr
  intro o ho
  cases ho
  exact sampleRunning_fits

/-- The state that a call shows. -/
def shown (outcome : Ends Error Answer × Service) : Option LauncherState :=
  match outcome.1 with
  | .done (.job view) => some view.state
  | _ => none

def sampleCancel : Call × Executor :=
  (.cancel (.str "job-1") (.str "attempt-1"), sampleExecutor (sampleObservation .running .none))

/-- An observation of another execution. -/
def sampleStranger : BackendObservation := { sampleObservation .running .none with
  backendExecutionId := .str "vibapp-other" }

/-- The service after a sequence of calls. -/
def runAll (digests : Digests) (labels : List (Call × Executor)) (s : Service) : Service :=
  labels.foldl (fun s label => (perform digests label.1 label.2 s).2) s

theorem steps_runAll (labels : List (Call × Executor)) (s : Service) :
    Steps (CallStep digests) labels s (runAll digests labels s) := by
  induction labels generalizing s with
  | nil => exact .nil s
  | cons label labels ih => exact .cons rfl (ih _)

/-- The calls that fill the events of the sample. -/
def sampleNoise : List (Call × Executor) :=
  (List.replicate 15
    [sampleStatus sampleStranger, sampleStatus (sampleObservation .running .none)]).flatten

/-- A job whose cancel is accepted shows as running after an observation of another execution, and a
job whose events are full is not completed by a confirmed success. -/
theorem phases_break :
    init [sampleProfile] [.docker] = .ok sampleStart ∧
    Steps (CallStep sampleDigests) [sampleSubmit] sampleStart sampleLaunched ∧
    shown (perform sampleDigests sampleCancel.1 sampleCancel.2 sampleLaunched) =
      some .cancelRequested ∧
    Steps (CallStep sampleDigests) [sampleCancel, sampleStatus sampleStranger] sampleLaunched
      (runAll sampleDigests [sampleCancel, sampleStatus sampleStranger] sampleLaunched) ∧
    shown (perform sampleDigests (sampleStatus (sampleObservation .running .none)).1
      (sampleStatus (sampleObservation .running .none)).2
        (runAll sampleDigests [sampleCancel, sampleStatus sampleStranger] sampleLaunched)) =
      some .running ∧
    Steps (CallStep sampleDigests) sampleNoise sampleLaunched
      (runAll sampleDigests sampleNoise sampleLaunched) ∧
    shown (perform sampleDigests (sampleStatus (sampleObservation .succeeded sampleSuccess)).1
      (sampleStatus (sampleObservation .succeeded sampleSuccess)).2
        (runAll sampleDigests sampleNoise sampleLaunched)) = some .cleanupPending := by
  refine ⟨rfl, .single sampleSubmit_step, ?_, steps_runAll _ _, ?_, steps_runAll _ _, ?_⟩
  · decide +kernel
  · decide +kernel
  · decide +kernel

end Vibapp.Launcher
