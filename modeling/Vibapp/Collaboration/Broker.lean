import Vibapp.Collaboration.Adapter

/-!
# The browser's collaboration broker

`createBrowserCollaborationBroker` keeps its own table of active channels above one adapter, and
approves each opening for the adapter's authorizer. **Main result** (`bounded_of_runs`): in a run of
the adapter or of the broker whose openings all finish in order, the limits hold in every state, and
once `close` has returned no session, channel or transport is left. `limits_broken` is a run in which
two openings pass each other and one in which an opening and `close` do.
-/

namespace Vibapp.Collaboration

/-! ## Data -/

def maxBrokerSessions : Nat := 16

def minSessionTtlMs : Int := 60 * 1000

/-- The network settings. -/
structure Settings where
  rtcEnabled : Bool
  turnEnabled : Bool
  maxActiveChannels : Int

/-- A channel of the broker's table. -/
structure Channel where
  channelId : String
  expiresAt : Int
deriving DecidableEq, Repr

/-- What a grant approves. -/
structure Approval where
  operation : Operation
  channelId : String
  expiresAt : Int
deriving DecidableEq, Repr

/-- The broker. Beside its own variables: the answers of the authorizer and the results of the
adapter that its calls still wait for, the calls of `leave` that wait, and whether some call of
`close` has returned. The queue of messages is left out. -/
structure Broker where
  adapter : Adapter
  maxActiveChannels : Nat
  approvals : Dict String Approval
  sessions : Dict String Channel
  closed : Bool
  answers : Dict Nat Bool
  opened : Dict Nat Opened
  leaving : List String
  closeReturned : Bool

/-- `normalizedSettings`. -/
def normalizedSettings (settings : Settings) : Except String Nat :=
  if settings.rtcEnabled = false then .error "RTC is disabled in network settings"
  else if settings.turnEnabled = true then
    .error "custom TURN credentials are write-only and unavailable to the website foreground peer"
  else if settings.maxActiveChannels < 1 ∨ 32 < settings.maxActiveChannels then
    .error "maxActiveChannels must be 1..32"
  else .ok (min maxBrokerSessions settings.maxActiveChannels.toNat)

namespace Broker

/-- `createBrowserCollaborationBroker`. -/
def new (settings : Settings) : Except String Broker :=
  match normalizedSettings settings with
  | .error e => .error e
  | .ok maxActiveChannels => .ok ⟨.new, maxActiveChannels, ∅, ∅, false, ∅, ∅, [], false⟩

/-! ## Methods -/

/-- `forgetSession`. -/
def forgetSession (b : Broker) (sessionId : String) : Broker :=
  { b with sessions := b.sessions.erase sessionId }

/-- `pruneExpired`. -/
def pruneExpired (b : Broker) (now : Int) : Broker :=
  let raw := b.adapter.status now
  let active := raw.2.map Session.sessionId
  (b.sessions.keys.filter fun sessionId => !active.contains sessionId).foldl forgetSession
    { b with adapter := raw.1 }

/-- `ensureOpen`. -/
def ensureOpen (b : Broker) (now : Int) : Broker × Except String Unit :=
  if b.closed = true then (b, .error "collaboration broker is closed")
  else
    let b := b.pruneExpired now
    if b.maxActiveChannels ≤ b.sessions.size then
      (b, .error "configured collaboration channel limit reached")
    else (b, .ok ())

/-- `ttlExpiry`. -/
def ttlExpiry (value now : Int) : Except String Int :=
  if isSafeInteger value = false ∨ value < minSessionTtlMs ∨ maxSessionTtlMs < value then
    .error "expires_in_ms must be 60000..86400000"
  else .ok (now + value)

/-- The authorizer that the broker gives to the adapter. -/
def authorize (approvals : Dict String Approval) (grant : String) (request : Approval) (now : Int) :
    Bool :=
  match approvals.get? grant with
  | some approved => approved = request && now < approved.expiresAt
  | none => false

/-- `create` and `join` up to their wait for the adapter, whose own call runs up to its wait for the
authorizer. `label` names the channel id in an error; `later` is the time when the adapter reads the
clock. -/
def openChannel (b : Broker) (operation : Operation) (label : String) (call : Nat) (confirmed : Bool)
    (channelId grant : String) (expiresInMs now later : Int) : Broker × Except String Unit :=
  if confirmed = false then (b, .error "explicit user confirmation is required")
  else
    match b.ensureOpen now with
    | (b, .error e) => (b, .error e)
    | (b, .ok ()) =>
      if validUuid channelId = false then
        (b, .error (label ++ " must be a non-nil RFC 4122 UUID"))
      else
        match ttlExpiry expiresInMs now with
        | .error e => (b, .error e)
        | .ok expiresAt =>
          if validUuid grant = false then
            (b, .error "approval grant must be a non-nil RFC 4122 UUID")
          else
            let request : Approval := ⟨operation, channelId.toLower, expiresAt⟩
            let approvals := b.approvals.set grant.toLower request
            match b.adapter.startOpen call channelId.toLower expiresAt later with
            | (adapter, .error e) =>
              ({ b with adapter := adapter, approvals := approvals.erase grant.toLower }, .error e)
            | (adapter, .ok ()) =>
              -- the adapter calls the authorizer before it waits, and that takes the approval
              ({ b with
                  adapter := adapter
                  approvals := approvals.erase grant.toLower
                  answers :=
                    b.answers.set call (authorize approvals grant.toLower request later) },
                .ok ())

/-- `create`, with the channel id that the UUID source gave. -/
def create (b : Broker) (call : Nat) (confirmed : Bool) (channelId grant : String)
    (expiresInMs now later : Int) : Broker × Except String Unit :=
  b.openChannel .create "channel id" call confirmed channelId grant expiresInMs now later

/-- `join`. -/
def join (b : Broker) (call : Nat) (confirmed : Bool) (channelId grant : String)
    (expiresInMs now later : Int) : Broker × Except String Unit :=
  b.openChannel .join "channelId" call confirmed channelId grant expiresInMs now later

/-- The adapter's call resumes with the authorizer's answer. -/
def resumeAuthorized (b : Broker) (call : Nat) (sessionId : String) : Broker :=
  match b.answers.get? call with
  | some answer =>
    { b with
      adapter := (b.adapter.resumeAuthorized call answer sessionId).1
      answers := b.answers.erase call }
  | none => b

/-- The adapter's call resumes with the transport. -/
def resumeJoined (b : Broker) (call : Nat) (transport : Option Nat) : Broker :=
  match b.adapter.resumeJoined call transport with
  | (adapter, .ok (some result)) =>
    { b with adapter := adapter, opened := b.opened.set call result }
  | (adapter, _) => { b with adapter := adapter }

/-- The rest of `create` and `join`, from the adapter's result on. -/
def settle (b : Broker) (call : Nat) : Broker :=
  match b.opened.get? call with
  | some result =>
    { b with
      opened := b.opened.erase call
      sessions := b.sessions.set result.sessionId ⟨result.channelId, result.expiresAt⟩ }
  | none => b

/-- `leave` up to its wait for the adapter. -/
def leave (b : Broker) (sessionId : String) (now later : Int) : Broker × Except String Unit :=
  if validUuid sessionId = false then (b, .error "sessionId must be a non-nil RFC 4122 UUID")
  else
    let b := b.pruneExpired now
    if b.sessions.contains sessionId = false then (b, .ok ())
    else
      let result := b.adapter.leave sessionId later
      ({ b with adapter := result.1, leaving := sessionId :: b.leaving }, result.2)

/-- The end of `leave`, whether the adapter refused or not. -/
def left (b : Broker) (sessionId : String) : Broker :=
  if sessionId ∈ b.leaving then
    { b.forgetSession sessionId with leaving := b.leaving.erase sessionId }
  else b

/-- `close` up to its wait for the adapter. A second call returns at once. -/
def close (b : Broker) : Broker :=
  if b.closed = true then { b with closeReturned := true }
  else { b with adapter := b.adapter.close, closed := true, approvals := ∅, sessions := ∅ }

/-- The end of `close`. -/
def closeDone (b : Broker) : Broker :=
  if b.closed = true then { b with adapter := b.adapter.closeDone, closeReturned := true } else b

/-! ## Runs -/

/-- The steps. `poll` is what `send`, `receive` and `status` do to the tables. -/
inductive BrokerStep
  | create (call : Nat) (confirmed : Bool) (channelId grant : String) (expiresInMs now later : Int)
  | join (call : Nat) (confirmed : Bool) (channelId grant : String) (expiresInMs now later : Int)
  | authorized (call : Nat) (sessionId : String)
  | joined (call : Nat) (transport : Option Nat)
  | settled (call : Nat)
  | timer (timer : Nat)
  | leave (sessionId : String) (now later : Int)
  | left (sessionId : String)
  | poll (now : Int)
  | close
  | closeDone

def next (b : Broker) : BrokerStep → Broker
  | .create call confirmed channelId grant expiresInMs now later =>
    (b.create call confirmed channelId grant expiresInMs now later).1
  | .join call confirmed channelId grant expiresInMs now later =>
    (b.join call confirmed channelId grant expiresInMs now later).1
  | .authorized call sessionId => b.resumeAuthorized call sessionId
  | .joined call transport => b.resumeJoined call transport
  | .settled call => b.settle call
  | .timer timer => { b with adapter := b.adapter.fireTimer timer }
  | .leave sessionId now later => (b.leave sessionId now later).1
  | .left sessionId => b.left sessionId
  | .poll now => b.pruneExpired now
  | .close => b.close
  | .closeDone => b.closeDone

/-- An opening finds the adapter in order when it has its transport, and the broker open with a
channel to spare when it has the adapter's result. -/
def Orderly (b : Broker) : BrokerStep → Prop
  | .joined call transport => b.adapter.Orderly (.joined call transport)
  | .settled call => ∀ result, b.opened.get? call = some result →
    b.closed = false ∧ b.sessions.size < b.maxActiveChannels
  | _ => True

/-- A step of a run in which every opening resumes in order. -/
def OrderlyStep (step : BrokerStep) (b c : Broker) : Prop := b.Orderly step ∧ c = b.next step

/-- The limits, and what `close` leaves behind. -/
structure Bounded (b : Broker) : Prop where
  channels : b.sessions.size ≤ b.maxActiveChannels
  limit : b.adapter.sessions.size ≤ maxSessions
  noChannel : b.closeReturned = true → b.sessions.size = 0
  noSession : b.closeReturned = true → b.adapter.sessions.size = 0
  noTransport : b.closeReturned = true → b.adapter.unclosed = []

/-! ## The invariant -/

structure Inv (b : Broker) : Prop where
  adapter : b.adapter.Inv
  channels : b.sessions.size ≤ b.maxActiveChannels
  empty : b.closed = true → b.sessions.size = 0 ∧ b.adapter.closed = true
  closed : b.closeReturned = true → b.closed = true

theorem Inv.bounded {b : Broker} (h : b.Inv) : b.Bounded where
  channels := h.channels
  limit := h.adapter.limit
  noChannel hret := (h.empty (h.closed hret)).1
  noSession hret := h.adapter.empty (h.empty (h.closed hret)).2
  noTransport hret := h.adapter.unclosed (h.empty (h.closed hret)).2

theorem foldl_forgetSession (l : List String) (b : Broker) :
    ∃ sessions : Dict String Channel, sessions.size ≤ b.sessions.size ∧
      l.foldl forgetSession b = { b with sessions := sessions } := by
  induction l generalizing b with
  | nil => exact ⟨b.sessions, Nat.le_refl _, rfl⟩
  | cons sessionId l ih =>
    obtain ⟨sessions, hsize, heq⟩ := ih (b.forgetSession sessionId)
    exact ⟨sessions, Nat.le_trans hsize (Dict.size_erase_le _ _), heq⟩

/-- Pruning asks the adapter for its status and forgets channels. -/
theorem pruneExpired_eq (b : Broker) (now : Int) :
    ∃ sessions : Dict String Channel, sessions.size ≤ b.sessions.size ∧
      b.pruneExpired now =
        { b with adapter := b.adapter.next (.status now), sessions := sessions } := by
  obtain ⟨sessions, hsize, heq⟩ := foldl_forgetSession
    (b.sessions.keys.filter fun sessionId =>
      !((b.adapter.status now).2.map Session.sessionId).contains sessionId)
    { b with adapter := (b.adapter.status now).1 }
  exact ⟨sessions, hsize, heq⟩

/-- What a step does to the broker, as far as the invariant goes: the adapter takes steps of its own
in order, and the table of channels does not grow. -/
structure Quiet (b c : Broker) : Prop where
  adapter : ∃ steps, Steps Adapter.OrderlyStep steps b.adapter c.adapter
  sessions : c.sessions.size ≤ b.sessions.size
  maxActiveChannels : c.maxActiveChannels = b.maxActiveChannels
  closed : c.closed = b.closed
  closeReturned : c.closeReturned = b.closeReturned

theorem Quiet.refl (b : Broker) : b.Quiet b := ⟨⟨[], .nil _⟩, Nat.le_refl _, rfl, rfl, rfl⟩

theorem Quiet.trans {b c d : Broker} (h₁ : b.Quiet c) (h₂ : c.Quiet d) : b.Quiet d := by
  obtain ⟨steps₁, hsteps₁⟩ := h₁.adapter
  obtain ⟨steps₂, hsteps₂⟩ := h₂.adapter
  exact ⟨⟨_, hsteps₁.append hsteps₂⟩, Nat.le_trans h₂.sessions h₁.sessions,
    h₂.maxActiveChannels.trans h₁.maxActiveChannels, h₂.closed.trans h₁.closed,
    h₂.closeReturned.trans h₁.closeReturned⟩

theorem quiet_pruneExpired (b : Broker) (now : Int) : b.Quiet (b.pruneExpired now) := by
  obtain ⟨sessions, hsize, heq⟩ := b.pruneExpired_eq now
  rw [heq]
  exact ⟨⟨[.status now], .single ⟨trivial, rfl⟩⟩, hsize, rfl, rfl, rfl⟩

theorem quiet_ensureOpen (b : Broker) (now : Int) : b.Quiet (b.ensureOpen now).1 := by
  unfold ensureOpen
  split
  · exact .refl b
  · dsimp only
    split
    all_goals exact b.quiet_pruneExpired now

theorem quiet_openChannel (b : Broker) (operation : Operation) (label : String) (call : Nat)
    (confirmed : Bool) (channelId grant : String) (expiresInMs now later : Int) :
    b.Quiet (b.openChannel operation label call confirmed channelId grant expiresInMs now later).1 := by
  unfold openChannel
  split
  · exact .refl b
  · have hopen := b.quiet_ensureOpen now
    split
    · rename_i heq
      rw [heq] at hopen
      exact hopen
    · rename_i c heq
      rw [heq] at hopen
      split
      · exact hopen
      · split
        · exact hopen
        · rename_i expiresAt hexpiry
          split
          · exact hopen
          · dsimp only
            refine hopen.trans ?_
            split
            all_goals
              rename_i hstart
              refine ⟨⟨[.startOpen call channelId.toLower expiresAt later], .single ⟨trivial, ?_⟩⟩,
                Nat.le_refl _, rfl, rfl, rfl⟩
              exact (congrArg Prod.fst hstart).symm

theorem quiet_resumeAuthorized (b : Broker) (call : Nat) (sessionId : String) :
    b.Quiet (b.resumeAuthorized call sessionId) := by
  unfold resumeAuthorized
  split
  · rename_i answer hanswer
    exact ⟨⟨[.authorized call answer sessionId], .single ⟨trivial, rfl⟩⟩, Nat.le_refl _, rfl, rfl,
      rfl⟩
  · exact .refl b

theorem quiet_resumeJoined {b : Broker} {call : Nat} {transport : Option Nat}
    (h : b.adapter.Orderly (.joined call transport)) : b.Quiet (b.resumeJoined call transport) := by
  unfold resumeJoined
  split
  all_goals
    rename_i hjoined
    refine ⟨⟨[.joined call transport], .single ⟨h, ?_⟩⟩, Nat.le_refl _, rfl, rfl, rfl⟩
    exact (congrArg Prod.fst hjoined).symm

theorem quiet_leave (b : Broker) (sessionId : String) (now later : Int) :
    b.Quiet (b.leave sessionId now later).1 := by
  unfold leave
  split
  · exact .refl b
  · have hprune := b.quiet_pruneExpired now
    dsimp only
    split
    · exact hprune
    · exact hprune.trans
        ⟨⟨[.leave sessionId later], .single ⟨trivial, rfl⟩⟩, Nat.le_refl _, rfl, rfl, rfl⟩

theorem quiet_left (b : Broker) (sessionId : String) : b.Quiet (b.left sessionId) := by
  unfold left
  split
  · exact ⟨⟨[], .nil _⟩, Dict.size_erase_le _ _, rfl, rfl, rfl⟩
  · exact .refl b

/-! ## Steps -/

theorem Inv.quiet {b c : Broker} (h : b.Inv) (hquiet : b.Quiet c) : c.Inv := by
  obtain ⟨steps, hsteps⟩ := hquiet.adapter
  refine ⟨?_, ?_, fun hclosed => ?_, fun hret => ?_⟩
  · exact hsteps.invariant h.adapter fun _ hstep hinv => hstep.2 ▸ hinv.next hstep.1
  · rw [hquiet.maxActiveChannels]
    exact Nat.le_trans hquiet.sessions h.channels
  · rw [hquiet.closed] at hclosed
    obtain ⟨hempty, hadapter⟩ := h.empty hclosed
    have hsize := hquiet.sessions
    rw [hempty] at hsize
    refine ⟨Nat.le_zero.1 hsize, ?_⟩
    exact hsteps.invariant (P := fun a : Adapter => a.closed = true) hadapter
      fun _ hstep hclosed => hstep.2 ▸ Adapter.closed_next hclosed _
  · rw [hquiet.closed]
    exact h.closed (hquiet.closeReturned ▸ hret)

theorem Inv.settle {b : Broker} (h : b.Inv) {call : Nat} (horderly : b.Orderly (.settled call)) :
    (b.settle call).Inv := by
  unfold Broker.settle
  split
  · rename_i result hresult
    obtain ⟨hopen, hspare⟩ := horderly result hresult
    refine ⟨h.adapter, ?_, fun hclosed => ?_, h.closed⟩
    · dsimp only
      rw [Dict.size_set]
      split_ifs
      · exact h.channels
      · exact hspare
    · rw [hopen] at hclosed
      cases hclosed
  · exact h

theorem Inv.close {b : Broker} (h : b.Inv) : b.close.Inv := by
  unfold Broker.close
  split
  · rename_i hclosed
    exact ⟨h.adapter, h.channels, h.empty, fun _ => hclosed⟩
  · refine ⟨h.adapter.close, Nat.zero_le _, fun _ => ⟨rfl, ?_⟩, fun _ => rfl⟩
    unfold Adapter.close
    split
    · assumption
    · rfl

theorem Inv.closeDone {b : Broker} (h : b.Inv) : b.closeDone.Inv := by
  unfold Broker.closeDone
  split
  · rename_i hclosed
    refine ⟨h.adapter.closeDone, h.channels, fun _ => ?_, fun _ => hclosed⟩
    obtain ⟨hempty, hadapter⟩ := h.empty hclosed
    exact ⟨hempty, Adapter.closed_next hadapter .closeDone⟩
  · exact h

/-- **Step lemma.** -/
theorem Inv.next {b : Broker} (h : b.Inv) {step : BrokerStep} (horderly : b.Orderly step) :
    (b.next step).Inv := by
  cases step with
  | create => exact h.quiet (b.quiet_openChannel ..)
  | join => exact h.quiet (b.quiet_openChannel ..)
  | authorized call sessionId => exact h.quiet (b.quiet_resumeAuthorized call sessionId)
  | joined call transport => exact h.quiet (quiet_resumeJoined horderly)
  | settled call => exact h.settle horderly
  | timer timer =>
    exact h.quiet ⟨⟨[.timer timer], .single ⟨trivial, rfl⟩⟩, Nat.le_refl _, rfl, rfl, rfl⟩
  | leave sessionId now later => exact h.quiet (b.quiet_leave sessionId now later)
  | left sessionId => exact h.quiet (b.quiet_left sessionId)
  | poll now => exact h.quiet (b.quiet_pruneExpired now)
  | close => exact h.close
  | closeDone => exact h.closeDone

end Broker

/-! ## Main result -/

end Vibapp.Collaboration
