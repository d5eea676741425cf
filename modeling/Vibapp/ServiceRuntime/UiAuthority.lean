import Vibapp.ServiceRuntime.RunLoop

/-!
# Authority over UI actions

**Main result** (`ui_authority`): in every run of the service runtime, whatever the guest does, an
action that is sent to the guest is one of the update that was published last, enabled there, and its
fields are declared there; a surface that was replaced, or that was never published, gives no authority.
**Second result** (`rejection_harmless`): the host calls an error a rejection of the input only behind
an action during which the guest has not tried to write. **Third result** (`last_of_fatal`): any other
error of a call is the last thing that the process says.
-/

namespace Vibapp.ServiceRuntime

variable {host : Host} {s : Session} {t : Turn}

/-! ## What is published -/

/-- The update of a response. -/
def Response.published : Response → Option SurfaceUpdate
  | .uiUpdated _ [update] _ _ => some update
  | _ => none

/-- The word of the host that an input was refused. -/
def Response.rejection : Response → Option UiInputRejection
  | .error _ _ _ _ rejection => rejection
  | _ => none

/-- The update that an effect publishes. -/
def Effect.published : Effect → Option SurfaceUpdate
  | .emitted response => response.published
  | _ => none

/-- The update that was published last. -/
def lastPublished (log : List Effect) : Option SurfaceUpdate :=
  (log.filterMap Effect.published).getLast?

theorem lastPublished_append_of_none {log effects : List Effect}
    (h : ∀ e ∈ effects, e.published = none) : lastPublished (log ++ effects) = lastPublished log := by
  have hnil : effects.filterMap Effect.published = [] := List.filterMap_eq_nil_iff.2 h
  rw [lastPublished, List.filterMap_append, hnil, List.append_nil]
  rfl

theorem lastPublished_concat {log : List Effect} {response : Response} {update : SurfaceUpdate}
    (h : response.published = some update) :
    lastPublished (log ++ [.emitted response]) = some update := by
  have hone : [Effect.emitted response].filterMap Effect.published = [update] := by
    simp [Effect.published, h]
  rw [lastPublished, List.filterMap_append, hone, List.getLast?_concat]

/-! ## Attempts to write -/

def HostCall.isTransact (c : HostCall) : Bool :=
  match c.call with
  | .transact _ => true
  | _ => false

theorem attempts_transactLocked {sha256 : String → String} (state : RuntimeState) (io : Io)
    (file : KvFile) (request : TransactionRequest) :
    (transactLocked state io file request (sha256 request.text)).state.kvTransactionAttempts =
      state.kvTransactionAttempts := by
  unfold transactLocked
  split
  · rfl
  · dsimp only
    split
    · rfl
    · rfl
    · split <;> rfl

/-- The counter of one call. -/
theorem attempts_leaves (sha256 : String → String) (state : RuntimeState) (c : HostCall) :
    (c.leaves sha256 state).kvTransactionAttempts =
      if c.isTransact = true then min (state.kvTransactionAttempts + 1) u64Max
      else state.kvTransactionAttempts := by
  obtain ⟨io, file, call⟩ := c
  cases call with
  | get key =>
    simp only [HostCall.leaves, perform, get, HostCall.isTransact]
    split
    · rfl
    · split
      · rfl
      · split <;> rfl
  | scanPrefix start limit =>
    simp only [HostCall.leaves, perform, scanPrefix, HostCall.isTransact]
    split
    · rfl
    · split
      · rfl
      · split <;> rfl
  | transact request =>
    simp only [HostCall.leaves, perform, transact, HostCall.isTransact]
    split
    · rfl
    · split
      · rfl
      · split
        · rfl
        · exact attempts_transactLocked _ _ _ _

/-- The counter does not run back. -/
theorem attempts_le_foldl (sha256 : String → String) (cs : List HostCall) (state : RuntimeState)
    (h : state.kvTransactionAttempts ≤ u64Max) :
    state.kvTransactionAttempts ≤ (cs.foldl (HostCall.leaves sha256) state).kvTransactionAttempts ∧
      (cs.foldl (HostCall.leaves sha256) state).kvTransactionAttempts ≤ u64Max := by
  induction cs generalizing state with
  | nil => exact ⟨le_rfl, h⟩
  | cons c cs ih =>
    have hstep := attempts_leaves sha256 state c
    have hone : state.kvTransactionAttempts ≤ (c.leaves sha256 state).kvTransactionAttempts ∧
        (c.leaves sha256 state).kvTransactionAttempts ≤ u64Max := by
      rw [hstep]
      split <;> omega
    rw [List.foldl_cons]
    exact ⟨hone.1.trans (ih _ hone.2).1, (ih _ hone.2).2⟩

/-- **A guest that tries to write is counted.** -/
theorem no_transact_of_attempts (sha256 : String → String) (cs : List HostCall)
    (state : RuntimeState) (hlt : state.kvTransactionAttempts < u64Max)
    (h : (cs.foldl (HostCall.leaves sha256) state).kvTransactionAttempts =
      state.kvTransactionAttempts) : ∀ c ∈ cs, c.isTransact = false := by
  induction cs generalizing state with
  | nil => exact List.forall_mem_nil _
  | cons c cs ih =>
    have hstep := attempts_leaves sha256 state c
    rw [List.foldl_cons] at h
    cases hc : c.isTransact with
    | true =>
      rw [hc, if_pos rfl, min_eq_left hlt] at hstep
      have hle := (attempts_le_foldl sha256 cs (c.leaves sha256 state) (by omega)).1
      omega
    | false =>
      rw [hc, if_neg Bool.false_ne_true] at hstep
      exact List.forall_mem_cons.2 ⟨hc, ih _ (hstep ▸ hlt) (h.trans hstep.symm)⟩

/-! ## What an arm may do -/

/-- The surface gives authority for the call. -/
def AuthorisedBy (uiSurface : Option UiSurfaceState) : GuestCall → Prop
  | .handleEvent _ (.action session surface route action fields) =>
    ∃ current, uiSurface = some current ∧ current.session = session ∧ current.surface = surface ∧
      current.route = route ∧ ∀ update, current.Shows update → update.view.Declares action fields
  | .handleEvent _ (.reopen _ session surface route _) =>
    ∃ current, uiSurface = some current ∧ current.session = session ∧ current.surface = surface ∧
      current.route = route
  | _ => True

/-- What is done for one command: nothing, or a call of the guest and what it calls on the host. -/
def Calls (called : List Effect) : Prop :=
  called = [] ∨ ∃ call, ∃ performed : List HostCall,
    called = .sent call :: performed.map .performed

/-- The rejection is that of an action, and the guest has not tried to write meanwhile. -/
def Rejects (called : List Effect) (rejection : UiInputRejection) : Prop :=
  ∃ context action fields, ∃ performed : List HostCall,
    called = .sent (.handleEvent context
      (.action rejection.session rejection.surface rejection.route action fields)) ::
        performed.map .performed ∧
    context.eventId = rejection.eventId ∧ context.generation = rejection.generation ∧
      ∀ c ∈ performed, c.isTransact = false

/-- What is sent has authority, and a surface is replaced by one that is published. -/
structure Mediates (s s' : Session) (called : List Effect) (response : Response) : Prop where
  sent : ∀ call, .sent call ∈ called → AuthorisedBy s.uiSurface call
  calls : Calls called
  rejects : ∀ rejection ∈ response.rejection, Rejects called rejection
  surface : response.published = none ∧ s'.uiSurface = s.uiSurface ∨
    ∃ update state, response.published = some update ∧ s'.uiSurface = some state ∧
      state.Shows update

def Arm.Mediated (s : Session) : Arm → Prop
  | .failed => True
  | .refused s' response => Mediates s s' [] response
  | .answered s' called response => Mediates s s' called response
  | .stopped s' called response => Mediates s s' called response

theorem mem_effects {α : Type} {g : GuestRun α} {call call' : GuestCall}
    (h : .sent call' ∈ g.effects call) : call' = call := by
  unfold GuestRun.effects at h
  rcases List.mem_cons.1 h with h | h
  · cases h
    rfl
  · obtain ⟨c, -, hc⟩ := List.mem_map.1 h
    cases hc

theorem Calls.published {called : List Effect} (h : Calls called) :
    ∀ e ∈ called, e.published = none := by
  rcases h with rfl | ⟨call, performed, rfl⟩
  · exact List.forall_mem_nil _
  · refine List.forall_mem_cons.2 ⟨rfl, fun e he => ?_⟩
    obtain ⟨c, -, rfl⟩ := List.mem_map.1 he
    rfl

/-- A response that publishes no update and says of no input that it was refused. -/
def Response.Plain (response : Response) : Prop :=
  response.published = none ∧ response.rejection = none

/-- A round without a guest. -/
theorem mediates_nil {s' : Session} {response : Response} (hsurface : s'.uiSurface = s.uiSurface)
    (h : response.Plain) : Mediates s s' [] response :=
  ⟨fun _ hcall => (by cases hcall), .inl rfl, fun _ hr => (by rw [h.2] at hr; cases hr),
    .inl ⟨h.1, hsurface⟩⟩

/-- A call that has authority, and no new surface. -/
theorem mediates_call {α : Type} {g : GuestRun α} {call : GuestCall} {s' : Session}
    {response : Response} (hcall : AuthorisedBy s.uiSurface call)
    (hsurface : s'.uiSurface = s.uiSurface) (h : response.Plain) :
    Mediates s s' (g.effects call) response :=
  ⟨fun _ hmem => mem_effects hmem ▸ hcall, .inr ⟨call, g.hostCalls, rfl⟩,
    fun _ hr => (by rw [h.2] at hr; cases hr), .inl ⟨h.1, hsurface⟩⟩

theorem published_uiGuestError {requestId operation session surface route : String}
    {error : AppError} {context : CallContext} {before after : Nat × Nat} :
    (uiGuestError requestId error operation context session surface route before after).published =
      none := by
  unfold uiGuestError
  split <;> rfl

/-- When the host speaks of a rejection. -/
theorem rejection_uiGuestError {requestId operation session surface route : String}
    {error : AppError} {context : CallContext} {before after : Nat × Nat}
    {rejection : UiInputRejection}
    (h : rejection ∈ (uiGuestError requestId error operation context session surface route before
      after).rejection) :
    operation = "UI action" ∧ before = after ∧ before.2 < u64Max ∧
      rejection = ⟨context.generation, session, surface, route, context.eventId, after.1⟩ := by
  unfold uiGuestError at h
  split at h
  · rename_i hcondition
    exact ⟨hcondition.1, hcondition.2.2.1, hcondition.2.2.2.2, (Option.some.inj h).symm⟩
  · cases h

/-- The event is the one that the operation is for. -/
def EventOf (operation session surface route : String) (event : AppEvent) : Prop :=
  operation = "UI action" → ∃ action fields, event = .action session surface route action fields

theorem mediated_callUiEvent {requestId operation : String} {context : CallContext}
    {event : AppEvent} {session surface route : String}
    (hcall : AuthorisedBy s.uiSurface (.handleEvent context event))
    (hevent : EventOf operation session surface route event) :
    (callUiEvent host s t requestId operation context event session surface route).Mediated s := by
  unfold callUiEvent
  dsimp only
  split
  · rename_i output _
    split
    · rename_i binding hbinding
      obtain ⟨update, hsurfaces, hshows, -⟩ := shows_of_validateUiOutput hbinding
      refine ⟨fun _ hmem => mem_effects hmem ▸ hcall, .inr ⟨_, _, rfl⟩, fun _ hr => (by cases hr),
        .inr ⟨update, binding, ?_, rfl, hshows⟩⟩
      rw [hsurfaces]
      rfl
    · exact mediates_call hcall rfl ⟨rfl, rfl⟩
  · refine ⟨fun _ hmem => mem_effects hmem ▸ hcall, .inr ⟨_, _, rfl⟩, fun rejection hr => ?_,
      .inl ⟨published_uiGuestError, rfl⟩⟩
    obtain ⟨hoperation, hsame, hlt, rfl⟩ := rejection_uiGuestError hr
    obtain ⟨action, fields, rfl⟩ := hevent hoperation
    exact ⟨context, action, fields, t.event.hostCalls, rfl, rfl, rfl,
      no_transact_of_attempts host.sha256 _ s.state hlt (congrArg Prod.snd hsame).symm⟩
  · exact mediates_call hcall rfl ⟨rfl, rfl⟩

theorem mediated_uiEvent {requestId unsupported operation : String} {context : CallContext}
    {event : AppEvent} {session surface route : String}
    (hcall : AuthorisedBy s.uiSurface (.handleEvent context event))
    (hevent : EventOf operation session surface route event) :
    (uiEvent host s t requestId unsupported operation context event session surface route).Mediated
      s := by
  unfold uiEvent
  split
  · trivial
  · split
    · exact mediates_nil rfl ⟨rfl, rfl⟩
    · exact mediated_callUiEvent hcall hevent
    · exact mediated_callUiEvent hcall hevent

variable {requestId : String} {command : Json}

theorem mediated_uiLaunch : (uiLaunch host s t requestId command).Mediated s := by
  unfold uiLaunch
  split
  · exact mediated_uiEvent trivial fun h => absurd h (by decide)
  · exact mediates_nil rfl ⟨rfl, rfl⟩

/-- **Only what the surface declares reaches the guest.** -/
theorem mediated_uiAction : (uiAction host s t requestId command).Mediated s := by
  unfold uiAction
  split
  · split
    · exact mediates_nil rfl ⟨rfl, rfl⟩
    · rename_i current hcurrent
      split
      · exact mediates_nil rfl ⟨rfl, rfl⟩
      · rename_i hbinding
        rw [not_or, not_or, not_not, not_not, not_not] at hbinding
        split
        · exact mediates_nil rfl ⟨rfl, rfl⟩
        · rename_i action fields hparsed
          split
          · exact mediates_nil rfl ⟨rfl, rfl⟩
          · exact mediated_uiEvent ⟨current, hcurrent, hbinding.1, hbinding.2.1, hbinding.2.2,
              fun update hshows => declares_of_parseActionFields hshows hparsed⟩
              fun _ => ⟨action, fields, rfl⟩
  · exact mediates_nil rfl ⟨rfl, rfl⟩

theorem mediated_uiRefresh : (uiRefresh host s t requestId command).Mediated s := by
  unfold uiRefresh
  split
  · split
    · exact mediates_nil rfl ⟨rfl, rfl⟩
    · rename_i current hcurrent
      split
      · exact mediates_nil rfl ⟨rfl, rfl⟩
      · rename_i hbinding
        rw [not_or, not_or, not_not, not_not, not_not] at hbinding
        exact mediated_uiEvent ⟨current, hcurrent, hbinding⟩ fun h => absurd h (by decide)
  · exact mediates_nil rfl ⟨rfl, rfl⟩

/-! ### The other arms -/

/-- A service event. -/
theorem mediates_callEvent {operation tag : String} {context : CallContext} {event : AppEvent}
    (hcall : AuthorisedBy s.uiSurface (.handleEvent context event)) :
    Mediates s (callEvent host s t requestId operation tag context event).1
      (callEvent host s t requestId operation tag context event).2.1
      (callEvent host s t requestId operation tag context event).2.2 := by
  refine mediates_call hcall rfl ?_
  unfold callEvent
  dsimp only
  split
  · split <;> exact ⟨rfl, rfl⟩
  · exact ⟨rfl, rfl⟩
  · exact ⟨rfl, rfl⟩

theorem mediated_start : (start host s t requestId command).Mediated s := by
  unfold start
  split
  · trivial
  · split
    · exact mediates_nil rfl ⟨rfl, rfl⟩
    · split
      · exact mediates_nil rfl ⟨rfl, rfl⟩
      · exact mediates_callEvent trivial
    · split
      · exact mediates_nil rfl ⟨rfl, rfl⟩
      · exact mediates_callEvent trivial

theorem mediated_trigger : (trigger host s t requestId command).Mediated s := by
  unfold trigger
  split
  · split
    · trivial
    · split
      · exact mediates_nil rfl ⟨rfl, rfl⟩
      · exact mediates_callEvent trivial
      · exact mediates_callEvent trivial
  · exact mediates_nil rfl ⟨rfl, rfl⟩

theorem mediated_stop : (stop host s t requestId command).Mediated s := by
  unfold stop
  split
  · trivial
  · split
    · exact mediates_nil rfl ⟨rfl, rfl⟩
    · split
      · exact mediates_nil rfl ⟨rfl, rfl⟩
      · exact mediates_callEvent trivial
    · split
      · exact mediates_nil rfl ⟨rfl, rfl⟩
      · exact mediates_callEvent trivial

theorem mediated_validate : (validate host s t requestId).Mediated s := by
  unfold validate
  split
  · trivial
  · refine mediates_call trivial rfl ?_
    split <;> exact ⟨rfl, rfl⟩

theorem mediated_health : (health host s t requestId).Mediated s := by
  unfold health
  split
  · trivial
  · refine mediates_call trivial rfl ?_
    split
    · split <;> exact ⟨rfl, rfl⟩
    · exact ⟨rfl, rfl⟩
    · exact ⟨rfl, rfl⟩

theorem plain_migrationResponse {target : Nat} : (migrationResponse t requestId target).Plain := by
  unfold migrationResponse
  split
  · split <;> exact ⟨rfl, rfl⟩
  · exact ⟨rfl, rfl⟩
  · exact ⟨rfl, rfl⟩

theorem mediated_migrate : (migrate host s t requestId command).Mediated s := by
  unfold migrate
  split
  · split
    · exact mediates_nil rfl ⟨rfl, rfl⟩
    · split
      · trivial
      · dsimp only
        split
        · exact mediates_nil rfl ⟨rfl, rfl⟩
        · unfold migrateBegun
          dsimp only
          split
          · rename_i rejection hresponse
            exact mediates_call trivial rfl ⟨rfl,
              (congrArg Response.rejection hresponse).symm.trans plain_migrationResponse.2⟩
          · refine mediates_call trivial rfl ?_
            split
            · exact plain_migrationResponse
            · exact ⟨rfl, rfl⟩
  · exact mediates_nil rfl ⟨rfl, rfl⟩

theorem mediated_rebindState : (rebindState s t requestId command).Mediated s := by
  unfold rebindState
  split
  · exact mediates_nil rfl ⟨rfl, rfl⟩
  · split <;> exact mediates_nil rfl ⟨rfl, rfl⟩

/-- **Every arm keeps to the surface.** -/
theorem mediated_arm : (arm host s t requestId command).Mediated s := by
  unfold arm
  split
  · exact mediated_validate
  · exact mediated_uiLaunch
  · exact mediated_uiAction
  · exact mediated_uiRefresh
  · exact mediated_start
  · exact mediated_trigger
  · exact mediated_health
  · exact mediated_migrate
  · exact mediated_rebindState
  · exact mediated_stop
  · exact mediates_nil rfl ⟨rfl, rfl⟩

/-! ## Runs -/

/-- The surface of the session is that of the update that was published last. -/
def Backs : Option UiSurfaceState → Option SurfaceUpdate → Prop
  | none, none => True
  | some state, some update => state.Shows update
  | _, _ => False

/-- The last update that was published gives authority for the call. -/
def Authorised (published : Option SurfaceUpdate) : GuestCall → Prop
  | .handleEvent _ (.action session surface route action fields) =>
    ∃ update, published = some update ∧ update.session = session ∧ update.surface = surface ∧
      update.route = route ∧ update.view.Declares action fields
  | .handleEvent _ (.reopen _ session surface route _) =>
    ∃ update, published = some update ∧ update.session = session ∧ update.surface = surface ∧
      update.route = route
  | _ => True

theorem Authorised.of_backs {uiSurface : Option UiSurfaceState} {published : Option SurfaceUpdate}
    {call : GuestCall} (hbacks : Backs uiSurface published) (h : AuthorisedBy uiSurface call) :
    Authorised published call := by
  -- a surface that is there is backed by an update
  have hupdate : ∀ current, uiSurface = some current →
      ∃ update, published = some update ∧ current.Shows update := by
    rintro current rfl
    cases published with
    | none => exact hbacks.elim
    | some update => exact ⟨update, rfl, hbacks⟩
  cases call with
  | handleEvent context event =>
    cases event with
    | action session surface route action fields =>
      obtain ⟨current, hcurrent, rfl, rfl, rfl, hdeclares⟩ := h
      obtain ⟨update, hpublished, hshows⟩ := hupdate current hcurrent
      exact ⟨update, hpublished, hshows.session, hshows.surface, hshows.route,
        hdeclares update hshows⟩
    | reopen entrypoint session surface route reason =>
      obtain ⟨current, hcurrent, rfl, rfl, rfl⟩ := h
      obtain ⟨update, hpublished, hshows⟩ := hupdate current hcurrent
      exact ⟨update, hpublished, hshows.session, hshows.surface, hshows.route⟩
    | _ => trivial
  | _ => trivial

/-- What one round does, as seen from outside: a call or none, and the response if it is written. -/
structure Round (s : Session) (left : Left) (called : List Effect) (response : Option Response) :
    Prop where
  effects : left.effects = called ++ (response.map Effect.emitted).toList
  calls : Calls called
  sent : ∀ call, .sent call ∈ called → AuthorisedBy s.uiSurface call
  rejects : ∀ r ∈ response, ∀ rejection ∈ r.rejection, Rejects called rejection
  written : left.running = true → response.isSome
  fatal : ∀ r ∈ response, called ≠ [] → r.isFatal = true → left.running = false
  surface : ∀ r ∈ response, r.published = none ∧ left.session.uiSurface = s.uiSurface ∨
    ∃ update state, r.published = some update ∧ left.session.uiSurface = some state ∧
      state.Shows update

theorem round_nil {left : Left} (heffects : left.effects = []) (hrunning : left.running = false) :
    Round s left [] none where
  effects := heffects
  calls := .inl rfl
  sent := fun _ hcall => by cases hcall
  rejects := fun _ hr => by cases hr
  written := fun h => by rw [hrunning] at h; cases h
  fatal := fun _ hr => by cases hr
  surface := fun _ hr => by cases hr

theorem round_emit {s' : Session} {called : List Effect} {response : Response} {more : Bool}
    (h : Mediates s s' called response)
    (hfatal : called ≠ [] → response.isFatal = true → more = false) :
    ∃ written, Round s (emit t s' called response more) called written := by
  refine ⟨if t.emitted = true then some response else none, ?_⟩
  unfold emit
  cases hemitted : t.emitted with
  | true =>
    exact {
      effects := rfl
      calls := h.calls
      sent := h.sent
      rejects := fun r hr => by
        cases hr
        exact h.rejects
      written := fun _ => rfl
      fatal := fun r hr hcalled hr' => by
        cases hr
        exact hfatal hcalled hr'
      surface := fun r hr => by
        cases hr
        exact h.surface }
  | false =>
    exact {
      effects := rfl
      calls := h.calls
      sent := h.sent
      rejects := fun r hr => by cases hr
      written := fun hrunning => by cases hrunning
      fatal := fun r hr => by cases hr
      surface := fun r hr => by cases hr }

theorem round_left {a : Arm} (h : a.Mediated s) :
    ∃ called written, Round s (a.left t s) called written := by
  cases a with
  | failed => exact ⟨[], none, round_nil rfl rfl⟩
  | refused s' response => exact ⟨[], round_emit h fun hne => absurd rfl hne⟩
  | answered s' called response =>
    exact ⟨called, round_emit h fun _ hfatal => by rw [hfatal]; rfl⟩
  | stopped s' called response => exact ⟨called, round_emit h fun _ _ => rfl⟩

/-- **The step lemma.** -/
theorem round_turn (host : Host) (s : Session) (t : Turn) :
    ∃ called written, Round s (host.turn s t) called written := by
  unfold Host.turn
  split
  · exact ⟨[], none, round_nil rfl rfl⟩
  · split
    · exact ⟨[], round_emit (mediates_nil rfl ⟨rfl, rfl⟩) fun _ _ => rfl⟩
    · split
      · exact ⟨[], round_emit (mediates_nil rfl ⟨rfl, rfl⟩) fun _ _ => rfl⟩
      · rename_i command _
        -- the number of the command is no part of the surface
        obtain ⟨called, written, h⟩ := round_left (t := t) (@mediated_arm host
          { s with sequence := min (s.sequence + 1) u64Max } t (requestIdOf command) command)
        exact ⟨called, written, h.effects, h.calls, h.sent, h.rejects, h.written, h.fatal,
          h.surface⟩

/-- An item of a longer list is one of the list, or of what was added. -/
theorem split_append {α : Type} {log effects before after : List α} {x : α}
    (h : log ++ effects = before ++ x :: after) :
    (∃ rest, log = before ++ x :: rest ∧ after = rest ++ effects) ∨
      ∃ first, before = log ++ first ∧ effects = first ++ x :: after := by
  rcases List.append_eq_append_iff.1 h with ⟨first, hbefore, heffects⟩ | ⟨rest, hlog, hafter⟩
  · exact .inr ⟨first, hbefore, heffects⟩
  · cases rest with
    | nil =>
      rw [List.append_nil] at hlog
      exact .inr ⟨[], by rw [hlog, List.append_nil], hafter.symm⟩
    | cons y rest =>
      cases hafter
      exact .inl ⟨rest, hlog, rfl⟩

/-- Nothing but the last effect of a round is a response. -/
theorem Calls.emitted {called : List Effect} (h : Calls called) {response : Response} :
    .emitted response ∉ called := by
  rcases h with rfl | ⟨call, performed, rfl⟩
  · exact List.not_mem_nil
  · intro hmem
    rcases List.mem_cons.1 hmem with hmem | hmem
    · cases hmem
    · obtain ⟨c, -, hc⟩ := List.mem_map.1 hmem
      cases hc

/-- A response in a round ends it. -/
theorem Round.split_emitted {left : Left} {called : List Effect} {written : Option Response}
    (h : Round s left called written) {first after : List Effect} {response : Response}
    (heffects : left.effects = first ++ .emitted response :: after) :
    first = called ∧ written = some response ∧ after = [] := by
  rcases split_append (h.effects.symm.trans heffects) with ⟨rest, hin, -⟩ | ⟨last, hfirst, hout⟩
  · exact absurd (by rw [hin]; simp) (@Calls.emitted called h.calls response)
  · cases written with
    | none => cases last <;> cases hout
    | some r =>
      cases last with
      | nil =>
        cases hout
        exact ⟨by rw [hfirst, List.append_nil], rfl, rfl⟩
      | cons y last => cases last <;> cases hout

/-- A call in a round starts it. -/
theorem Round.split_sent {left : Left} {called : List Effect} {written : Option Response}
    (h : Round s left called written) {first after : List Effect} {call : GuestCall}
    (heffects : left.effects = first ++ .sent call :: after) :
    first = [] ∧ .sent call ∈ called := by
  have hsplit := h.effects.symm.trans heffects
  rcases h.calls with rfl | ⟨call', performed, rfl⟩
  · cases written with
    | none => cases first <;> cases hsplit
    | some r => cases first with
      | nil => cases hsplit
      | cons y first => cases first <;> cases hsplit
  · cases first with
    | nil =>
      cases hsplit
      exact ⟨rfl, List.mem_cons_self⟩
    | cons y first =>
      -- behind the call of the round there are only calls on the host, and the response
      have htail : performed.map Effect.performed ++ (written.map Effect.emitted).toList =
          first ++ .sent call :: after := (List.cons.inj hsplit).2
      have hsent : .sent call ∈ first ++ .sent call :: after := by simp
      rw [← htail] at hsent
      rcases List.mem_append.1 hsent with hmem | hmem
      · obtain ⟨c, -, hc⟩ := List.mem_map.1 hmem
        cases hc
      · cases written <;> simp at hmem

/-- What holds of a process at any time. -/
structure Mediated (r : Run) : Prop where
  backs : r.running = true → Backs r.session.uiSurface (lastPublished r.log)
  sent : ∀ before call after, r.log = before ++ .sent call :: after →
    Authorised (lastPublished before) call
  rejects : ∀ before response after, r.log = before ++ .emitted response :: after →
    ∀ rejection ∈ response.rejection, ∃ earlier called, before = earlier ++ called ∧
      Rejects called rejection
  closed : r.running = true → ∀ e ∈ r.log.getLast?, ∃ response, e = .emitted response
  fatal : ∀ before call (performed : List HostCall) response after,
    r.log = before ++ .sent call :: (performed.map .performed ++ .emitted response :: after) →
      response.isFatal = true → after = [] ∧ r.running = false

theorem mediated_start_run (state : RuntimeState) : Mediated (Run.start state) where
  backs := fun _ => trivial
  sent := fun before _ _ h => by cases before <;> cases h
  rejects := fun before _ _ h => by cases before <;> cases h
  closed := fun _ _ h => by cases h
  fatal := fun before _ _ _ _ h => by cases before <;> cases h

theorem Mediated.next {r : Run} (h : Mediated r) (t : Turn) : Mediated (r.next host t) := by
  unfold Run.next
  by_cases hrunning : r.running = true
  · rw [if_pos hrunning]
    have hbacks := h.backs hrunning
    obtain ⟨called, written, hround⟩ := round_turn host r.session t
    have hsilent := hround.calls.published
    refine ⟨fun hleft => ?_, ?_, ?_, fun hleft => ?_, ?_⟩
    · dsimp only at hleft ⊢
      cases written with
      | none => cases hround.written hleft
      | some response =>
        rw [hround.effects, ← List.append_assoc]
        rcases hround.surface response rfl with ⟨hnone, hsame⟩ | ⟨update, state, hupdate, hstate, hshows⟩
        · rw [lastPublished_append_of_none, lastPublished_append_of_none hsilent, hsame]
          · exact hbacks
          · exact List.forall_mem_singleton.2 hnone
        · change Backs _ (lastPublished (_ ++ [Effect.emitted response]))
          rw [lastPublished_concat hupdate, hstate]
          exact hshows
    · intro before call after hlog
      rcases split_append hlog with ⟨rest, hold, -⟩ | ⟨first, rfl, heffects⟩
      · exact h.sent before call rest hold
      · obtain ⟨rfl, hcall⟩ := hround.split_sent heffects
        rw [List.append_nil]
        exact Authorised.of_backs hbacks (hround.sent call hcall)
    · intro before response after hlog
      rcases split_append hlog with ⟨rest, hold, -⟩ | ⟨first, rfl, heffects⟩
      · exact h.rejects before response rest hold
      · obtain ⟨rfl, rfl, -⟩ := hround.split_emitted heffects
        exact fun rejection hr => ⟨r.log, first, rfl, hround.rejects response rfl rejection hr⟩
    · dsimp only at hleft ⊢
      intro e he
      cases written with
      | none => cases hround.written hleft
      | some response =>
        rw [hround.effects, ← List.append_assoc] at he
        change e ∈ (_ ++ [Effect.emitted response]).getLast? at he
        rw [List.getLast?_concat] at he
        exact ⟨response, (Option.some.inj he).symm⟩
    · intro before call performed response after hlog hfatal
      rcases split_append hlog with ⟨rest, hold, hafter⟩ | ⟨first, rfl, heffects⟩
      · rcases split_append hafter.symm with ⟨rest', hrest, -⟩ | ⟨first, hperformed, -⟩
        · have hstopped := (h.fatal before call performed response rest' (hrest ▸ hold) hfatal).2
          rw [hrunning] at hstopped
          cases hstopped
        · -- the round of the call is closed, so its response is in the log
          have hne : (Effect.sent call :: rest) ≠ [] := List.cons_ne_nil _ _
          obtain ⟨response', hlast⟩ := h.closed hrunning _ (by
            rw [hold, List.getLast?_append_of_ne_nil _ hne, List.getLast?_eq_some_getLast hne]
            rfl)
          have hmem := List.getLast_mem hne
          rw [hlast] at hmem
          rcases List.mem_cons.1 hmem with hmem | hmem
          · cases hmem
          · have hin : .emitted response' ∈ performed.map Effect.performed := by
              rw [hperformed]
              exact List.mem_append_left _ hmem
            obtain ⟨c, -, hc⟩ := List.mem_map.1 hin
            cases hc
      · obtain ⟨rfl, -⟩ := hround.split_sent heffects
        -- behind the calls on the host stands the response that ends the round
        have hends : (host.turn r.session t).effects =
            (.sent call :: performed.map .performed) ++ .emitted response :: after := heffects
        obtain ⟨rfl, rfl, hafter⟩ := hround.split_emitted hends
        exact ⟨hafter, hround.fatal response rfl (List.cons_ne_nil _ _) hfatal⟩
  · rw [if_neg hrunning]
    exact h

/-- **Run lemma.** -/
theorem Mediated.after {r : Run} (h : Mediated r) (turns : List Turn) :
    Mediated (r.after host turns) := by
  induction turns generalizing r with
  | nil => exact h
  | cons t turns ih => exact ih (h.next t)

theorem mediated_after (host : Host) (state : RuntimeState) (turns : List Turn) :
    Mediated ((Run.start state).after host turns) := (mediated_start_run state).after turns

/-! ### A guest that refuses an input, and then fails -/

def sampleView : View :=
  ⟨"root", [⟨"root", none, .listContainer⟩, ⟨"save", some "root", .button ⟨"save", false⟩⟩,
    ⟨"name", some "root", .field ⟨"name", .text, false⟩⟩]⟩

def sampleUpdate : SurfaceUpdate := ⟨"s", "main", "/", sampleView⟩

def sampleCommands : String → Option Json
  | "launch" =>
    some (.obj [("command", .str "ui-launch"), ("session", .str "s"), ("surface", .str "main"),
      ("route", .str "/")])
  | "save" =>
    some (.obj [("command", .str "ui-action"), ("session", .str "s"), ("surface", .str "main"),
      ("route", .str "/"), ("action", .str "save"), ("event_id", .str "e"),
      ("fields", .arr [.obj [("field", .str "name"), ("value", .str "Ada")]])])
  | _ => none

def sampleHost : Host where
  arguments := ⟨"demo", "1.0.0", "g", "main", "launcher-ui", "demo"⟩
  bindings := .ui
  sha256 := sampleSha256
  fromStr := sampleCommands
  stored := fun value => (asStr value).map .text

/-- A round in which nothing fails but what the guest returns. -/
def sampleTurn (line : String) (result : Except AppError EventOutput) : Turn where
  line := .ok line
  armed := .ok ()
  describe := ⟨[], .error ""⟩
  event := ⟨[], .ok result⟩
  health := ⟨[], .error ""⟩
  migrate := ⟨[], .error ""⟩
  beginIo := allWell
  beginFile := ⟨emptyDocument, 64⟩
  finishIo := allWell
  finishFile := ⟨emptyDocument, 64⟩
  rebound := .ok ()
  rebindIo := allWell
  rebindFile := ⟨emptyDocument, 64⟩
  emitted := true

def sampleTurns : List Turn :=
  [sampleTurn "launch" (.ok ⟨[sampleUpdate], none, .ok 64⟩),
    sampleTurn "save" (.error ⟨.invalidArgument, "name", false⟩),
    sampleTurn "save" (.error ⟨.internal, "name", false⟩)]

def sampleContext (sequence : String) : CallContext :=
  ⟨"e", "e", "cancel-" ++ sequence, "g", .desktop, 250⟩

def sampleAction (sequence : String) : Effect :=
  .sent (.handleEvent (sampleContext sequence) (.action "s" "main" "/" "save" [⟨"name", .text "Ada"⟩]))

def sampleLaunched : List Effect :=
  [.sent (.handleEvent ⟨"event-1", "unknown", "cancel-1", "g", .desktop, 250⟩
      (.launch "main" "s" "main" "/" .user)),
    .emitted (.uiUpdated "unknown" [sampleUpdate] none 7)]

def sampleRejection : UiInputRejection := ⟨"g", "s", "main", "/", "e", 7⟩

def sampleRejected : Response :=
  .error "unknown" "invalid-argument" "name" false (some sampleRejection)

def sampleFailed : Response := .error "unknown" "internal" "name" false none

theorem log_sample : ((Run.start sampleState).after sampleHost sampleTurns).log =
    sampleLaunched ++ [sampleAction "2", .emitted sampleRejected, sampleAction "3",
      .emitted sampleFailed] := by
  rfl

/-! ## Results -/

/-- **Main result.** An action that is sent is declared, enabled and with its fields, by the update
that was published last. -/
theorem ui_authority (host : Host) (state : RuntimeState) (turns : List Turn)
    {before after : List Effect} {call : GuestCall}
    (h : ((Run.start state).after host turns).log = before ++ .sent call :: after) :
    Authorised (lastPublished before) call :=
  (mediated_after host state turns).sent before call after h

theorem ui_authority_sample : ∃ update, lastPublished sampleLaunched = some update ∧
    update.session = "s" ∧ update.surface = "main" ∧ update.route = "/" ∧
      update.view.Declares "save" [⟨"name", .text "Ada"⟩] :=
  ui_authority sampleHost sampleState sampleTurns log_sample

/-- **A rejection of the input is harmless**: it answers an action of which the guest has made nothing
that is kept. -/
theorem rejection_harmless (host : Host) (state : RuntimeState) (turns : List Turn)
    {before after : List Effect} {response : Response} {rejection : UiInputRejection}
    (h : ((Run.start state).after host turns).log = before ++ .emitted response :: after)
    (hrejection : rejection ∈ response.rejection) :
    ∃ earlier called, before = earlier ++ called ∧ Rejects called rejection :=
  (mediated_after host state turns).rejects before response after h rejection hrejection

theorem rejection_harmless_sample : ∃ earlier called,
    sampleLaunched ++ [sampleAction "2"] = earlier ++ called ∧ Rejects called sampleRejection :=
  rejection_harmless sampleHost sampleState sampleTurns log_sample rfl

/-- **Any other error of a call is the last word.** -/
theorem last_of_fatal (host : Host) (state : RuntimeState) (turns : List Turn)
    {before after : List Effect} {call : GuestCall} {performed : List HostCall}
    {response : Response}
    (h : ((Run.start state).after host turns).log =
      before ++ .sent call :: (performed.map .performed ++ .emitted response :: after))
    (hfatal : response.isFatal = true) :
    after = [] ∧ ((Run.start state).after host turns).running = false :=
  (mediated_after host state turns).fatal before call performed response after h hfatal

theorem last_of_fatal_sample :
    ([] : List Effect) = [] ∧ ((Run.start sampleState).after sampleHost sampleTurns).running = false :=
  have hlog : ((Run.start sampleState).after sampleHost sampleTurns).log =
      (sampleLaunched ++ [sampleAction "2", .emitted sampleRejected]) ++ sampleAction "3" ::
        (([] : List HostCall).map .performed ++ .emitted sampleFailed :: []) := log_sample
  last_of_fatal sampleHost sampleState sampleTurns hlog rfl

end Vibapp.ServiceRuntime
