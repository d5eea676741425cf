import Mathlib
import Vibapp.Lib.Dict
import Vibapp.Lib.Transition

/-!
# The collaboration adapter

`CollaborationAdapter` as a machine whose steps are the stretches of its methods between two
`await`s, so a run is any order in which calls start and resume. **Main result** (`inv_of_runs`): in
a run whose openings all finish into an adapter that is open, has a session to spare and does not
hold their id, there are never more than `maxSessions` sessions, and once `close` has been called
there are none and no transport is left open. The code checks these three before it waits for the
transport and not after.
-/

namespace Vibapp.Collaboration

/-! ## Data -/

def maxSessions : Nat := 16

def maxMessageBytes : Nat := 64 * 1024

def maxSessionTtlMs : Int := 24 * 60 * 60 * 1000

/-- `Number.isSafeInteger` of an integer. -/
def isSafeInteger (value : Int) : Bool := value.natAbs < 2 ^ 53

/-- `[0-9a-f]` with the flag `i`. -/
def isHex (c : Char) : Bool :=
  c.isDigit || ('a' ≤ c && c ≤ 'f') || ('A' ≤ c && c ≤ 'F')

/-- `UUID_RE`. The nil UUID does not match it. -/
def validUuid (value : String) : Bool :=
  let cs := value.toList
  cs.length = 36 &&
    (cs.zipIdx.all fun (c, i) =>
      if i = 8 ∨ i = 13 ∨ i = 18 ∨ i = 23 then c = '-'
      else if i = 14 then '1' ≤ c && c ≤ '5'
      else if i = 19 then ['8', '9', 'a', 'b', 'A', 'B'].contains c
      else isHex c)

inductive Operation
  | create | join
deriving DecidableEq, Repr

/-- A session. `timer` is the handle that `schedule` returned for it. The counters that only
`status` reports are left out. -/
structure Session where
  sessionId : String
  channelId : String
  expiresAt : Int
  transport : Nat
  timer : Nat
deriving DecidableEq, Repr

/-- An opening that waits for the authorizer, or for the transport. -/
inductive Opening
  | authorizing (channelId : String) (expiresAt : Int)
  | joining (sessionId channelId : String) (expiresAt : Int)
deriving DecidableEq, Repr

/-- What an opening returns. -/
structure Opened where
  sessionId : String
  channelId : String
  expiresAt : Int
deriving DecidableEq, Repr

/-- `CollaborationAdapter`. Beside the fields of the class: the openings that wait, the timers that
are set (with the session their callback closes), whether some call of `close` has returned, and
the transports that an opening was given and that were not told to close. -/
structure Adapter where
  sessions : Dict String Session
  closed : Bool
  openings : Dict Nat Opening
  timers : Dict Nat Session
  nextTimer : Nat
  closeReturned : Bool
  unclosed : List Nat

namespace Adapter

/-- `new CollaborationAdapter`. -/
def new : Adapter := ⟨∅, false, ∅, ∅, 0, false, []⟩

/-! ## Methods -/

/-- `this.#sessions.delete`, `this.#cancel(session.timer)` and `closeQuietly(session)`. -/
def remove (a : Adapter) (session : Session) : Adapter :=
  { a with
    sessions := a.sessions.erase session.sessionId
    timers := a.timers.erase session.timer
    unclosed := a.unclosed.filter (· ≠ session.transport) }

/-- `#expire`. -/
def expire (a : Adapter) (now : Int) : Adapter :=
  (a.sessions.values.filter fun session => session.expiresAt ≤ now).foldl remove a

/-- `normalizeExpiry`. -/
def normalizeExpiry (value now : Int) : Except String Int :=
  if isSafeInteger value = false ∨ value ≤ now ∨ now + maxSessionTtlMs < value then
    .error "expires_at must be within the next 86400000 milliseconds"
  else .ok value

/-- `#open` up to the wait for the authorizer. -/
def startOpen (a : Adapter) (call : Nat) (channelId : String) (expiresAt now : Int) :
    Adapter × Except String Unit :=
  if a.closed = true then (a, .error "collaboration adapter is closed")
  else
    let a := a.expire now
    if maxSessions ≤ a.sessions.size then (a, .error "collaboration session limit reached (16)")
    else
      match normalizeExpiry expiresAt now with
      | .error e => (a, .error e)
      | .ok expiresAt =>
        ({ a with openings := a.openings.set call (.authorizing channelId expiresAt) }, .ok ())

/-- `#open` from the answer of the authorizer up to the wait for the transport. -/
def resumeAuthorized (a : Adapter) (call : Nat) (authorized : Bool) (sessionId : String) :
    Adapter × Except String Unit :=
  match a.openings.get? call with
  | some (.authorizing channelId expiresAt) =>
    let dropped := { a with openings := a.openings.erase call }
    if authorized = false then (dropped, .error "explicit collaboration grant denied")
    else if (!validUuid sessionId || a.sessions.contains sessionId) = true then
      (dropped, .error "UUID source returned an invalid session id")
    else
      ({ a with openings := a.openings.set call (.joining sessionId channelId expiresAt) }, .ok ())
  | _ => (a, .ok ())

/-- `#open` from the answer of the transport on: no transport, or one that is no session, is an
error. -/
def resumeJoined (a : Adapter) (call : Nat) (transport : Option Nat) :
    Adapter × Except String (Option Opened) :=
  match a.openings.get? call with
  | some (.joining sessionId channelId expiresAt) =>
    let a := { a with openings := a.openings.erase call }
    match transport with
    | none => (a, .error "transport.join returned an invalid session")
    | some transport =>
      let session : Session := ⟨sessionId, channelId, expiresAt, transport, a.nextTimer⟩
      ({ a with
          sessions := a.sessions.set sessionId session
          timers := a.timers.set a.nextTimer session
          nextTimer := a.nextTimer + 1
          unclosed := transport :: a.unclosed },
        .ok (some ⟨sessionId, channelId, expiresAt⟩))
  | _ => (a, .ok none)

/-- The callback of a timer. -/
def fireTimer (a : Adapter) (timer : Nat) : Adapter :=
  match a.timers.get? timer with
  | some session =>
    let a := { a with timers := a.timers.erase timer }
    if a.sessions.contains session.sessionId = true then a.remove session else a
  | none => a

/-- `leave` up to its wait for the transport to close. -/
def leave (a : Adapter) (sessionId : String) (now : Int) : Adapter × Except String Unit :=
  let a := a.expire now
  match a.sessions.get? sessionId with
  | none => (a, .error "unknown collaboration session")
  | some session => (a.remove session, .ok ())

/-- `send` up to its wait for the transport; `bytes` is the length of the message. -/
def send (a : Adapter) (sessionId : String) (bytes : Nat) (now : Int) :
    Adapter × Except String Unit :=
  let a := a.expire now
  if a.sessions.contains sessionId = false then
    (a, .error "unknown or expired collaboration session")
  else if bytes = 0 ∨ maxMessageBytes < bytes then
    (a, .error "message must contain 1..65536 bytes")
  else (a, .ok ())

/-- `status`: the sessions that are left. -/
def status (a : Adapter) (now : Int) : Adapter × List Session :=
  let a := a.expire now
  (a, a.sessions.values)

/-- `close` up to its wait for the transports. A second call returns at once. -/
def close (a : Adapter) : Adapter :=
  if a.closed = true then { a with closeReturned := true }
  else { a.sessions.values.foldl remove a with closed := true }

/-- The end of `close`. -/
def closeDone (a : Adapter) : Adapter :=
  if a.closed = true then { a with closeReturned := true } else a

end Adapter

/-! ## Runs -/

/-- The steps: a call starts, or resumes with the answer it waited for. -/
inductive Step
  | startOpen (call : Nat) (channelId : String) (expiresAt now : Int)
  | authorized (call : Nat) (authorized : Bool) (sessionId : String)
  | joined (call : Nat) (transport : Option Nat)
  | timer (timer : Nat)
  | leave (sessionId : String) (now : Int)
  | send (sessionId : String) (bytes : Nat) (now : Int)
  | status (now : Int)
  | close
  | closeDone

namespace Adapter

def next (a : Adapter) : Step → Adapter
  | .startOpen call channelId expiresAt now => (a.startOpen call channelId expiresAt now).1
  | .authorized call authorized sessionId => (a.resumeAuthorized call authorized sessionId).1
  | .joined call transport => (a.resumeJoined call transport).1
  | .timer timer => a.fireTimer timer
  | .leave sessionId now => (a.leave sessionId now).1
  | .send sessionId bytes now => (a.send sessionId bytes now).1
  | .status now => (a.status now).1
  | .close => a.close
  | .closeDone => a.closeDone

/-- An opening that resumes with its transport finds the adapter open, fewer than `maxSessions`
sessions, and none that has its id. -/
def Orderly (a : Adapter) : Step → Prop
  | .joined call (some _) => ∀ sessionId channelId expiresAt,
    a.openings.get? call = some (.joining sessionId channelId expiresAt) →
      a.closed = false ∧ a.sessions.size < maxSessions ∧ a.sessions.get? sessionId = none
  | _ => True

/-- A step of a run in which every opening resumes in order. -/
def OrderlyStep (step : Step) (a b : Adapter) : Prop := a.Orderly step ∧ b = a.next step

/-- The limit, and what `close` leaves behind. -/
structure Bounded (a : Adapter) : Prop where
  limit : a.sessions.size ≤ maxSessions
  noSession : a.closeReturned = true → a.sessions.size = 0
  noTransport : a.closeReturned = true → a.unclosed = []

/-! ## The invariant -/

/-- What orderly runs keep. An open transport and a set timer belong to a session that is there. -/
structure Inv (a : Adapter) : Prop where
  limit : a.sessions.size ≤ maxSessions
  empty : a.closed = true → a.sessions.size = 0
  closed : a.closeReturned = true → a.closed = true
  key : ∀ id session, a.sessions.get? id = some session → session.sessionId = id
  owner : ∀ t ∈ a.unclosed, ∃ id session, a.sessions.get? id = some session ∧ session.transport = t
  timer : ∀ timer session, a.timers.get? timer = some session →
    session.timer = timer ∧ a.sessions.get? session.sessionId = some session

theorem Inv.unclosed {a : Adapter} (h : a.Inv) (hclosed : a.closed = true) : a.unclosed = [] := by
  refine List.eq_nil_iff_forall_not_mem.2 fun t ht => ?_
  obtain ⟨id, session, hsession, -⟩ := h.owner t ht
  rw [Dict.size_eq_zero_iff.1 (h.empty hclosed) id] at hsession
  cases hsession

theorem Inv.bounded {a : Adapter} (h : a.Inv) : a.Bounded where
  limit := h.limit
  noSession hret := h.empty (h.closed hret)
  noTransport hret := h.unclosed (h.closed hret)

/-- What a list of removals leaves. -/
theorem get?_foldl_remove (l : List Session) (a : Adapter) (id : String) :
    (l.foldl remove a).sessions.get? id =
      if id ∈ l.map Session.sessionId then none else a.sessions.get? id := by
  induction l generalizing a with
  | nil => simp
  | cons session l ih =>
    rw [List.foldl_cons, ih, remove, Dict.get?_erase, List.map_cons]
    by_cases hl : id ∈ l.map Session.sessionId
    · rw [if_pos hl, if_pos (List.mem_cons_of_mem _ hl)]
    · rw [if_neg hl]
      simp [hl]

theorem foldl_remove_closed (l : List Session) (a : Adapter) :
    (l.foldl remove a).closed = a.closed ∧ (l.foldl remove a).closeReturned = a.closeReturned ∧
      (l.foldl remove a).openings = a.openings := by
  induction l generalizing a with
  | nil => exact ⟨rfl, rfl, rfl⟩
  | cons session l ih => exact ih (a.remove session)

theorem Inv.remove {a : Adapter} (h : a.Inv) {session : Session}
    (hs : a.sessions.get? session.sessionId = some session) : (a.remove session).Inv := by
  have hkeep : ∀ {id s}, a.sessions.get? id = some s → s ≠ session →
      (a.remove session).sessions.get? id = some s := by
    intro id s hget hne
    refine (Dict.get?_erase_ne _ fun hid => hne ?_).trans hget
    rw [hid, hs] at hget
    exact (Option.some.inj hget).symm
  refine ⟨Nat.le_trans (Dict.size_erase_le _ _) h.limit, ?_, h.closed, ?_, ?_, ?_⟩
  · intro hclosed
    exact Nat.le_zero.1 (Nat.le_trans (Dict.size_erase_le _ _) (Nat.le_of_eq (h.empty hclosed)))
  · intro id s hget
    rw [Adapter.remove, Dict.get?_erase] at hget
    split_ifs at hget
    exact h.key id s hget
  · intro t ht
    rw [Adapter.remove, List.mem_filter, decide_eq_true_eq] at ht
    obtain ⟨id, s, hget, rfl⟩ := h.owner t ht.1
    exact ⟨id, s, hkeep hget fun heq => ht.2 (heq ▸ rfl), rfl⟩
  · intro timer s hget
    rw [Adapter.remove, Dict.get?_erase] at hget
    split_ifs at hget with htimer
    obtain ⟨htimer', hsession⟩ := h.timer timer s hget
    exact ⟨htimer', hkeep hsession fun heq => htimer (heq ▸ htimer'.symm)⟩

theorem Inv.foldl_remove {a : Adapter} (h : a.Inv) {l : List Session}
    (hnodup : (l.map Session.sessionId).Nodup)
    (hl : ∀ session ∈ l, a.sessions.get? session.sessionId = some session) :
    (l.foldl Adapter.remove a).Inv := by
  induction l generalizing a with
  | nil => exact h
  | cons session l ih =>
    rw [List.map_cons, List.nodup_cons] at hnodup
    refine ih (h.remove (hl session List.mem_cons_self)) hnodup.2 fun s hs => ?_
    refine (Dict.get?_erase_ne _ fun hid => hnodup.1 ?_).trans (hl s (List.mem_cons_of_mem _ hs))
    exact hid ▸ List.mem_map_of_mem hs

theorem Inv.sessionIds {a : Adapter} (h : a.Inv) :
    a.sessions.values.map Session.sessionId = a.sessions.keys := by
  rw [Dict.values, Dict.keys, List.map_map]
  exact List.map_congr_left fun p hp => h.key p.1 p.2 (Dict.mem_entries_iff.1 hp)

theorem Inv.get?_of_mem_values {a : Adapter} (h : a.Inv) {session : Session}
    (hs : session ∈ a.sessions.values) : a.sessions.get? session.sessionId = some session := by
  obtain ⟨id, hid⟩ := Dict.mem_values_iff.1 hs
  rwa [h.key id session hid]

theorem Inv.expire {a : Adapter} (h : a.Inv) (now : Int) : (a.expire now).Inv := by
  refine h.foldl_remove ?_ fun s hs => h.get?_of_mem_values (List.mem_of_mem_filter hs)
  have hkeys : (a.sessions.values.map Session.sessionId).Nodup := by
    rw [h.sessionIds]
    exact a.sessions.nodup
  exact hkeys.sublist (List.filter_sublist.map _)

theorem expire_openings (a : Adapter) (now : Int) : (a.expire now).openings = a.openings :=
  (foldl_remove_closed _ a).2.2

/-! ## Steps -/

/-- The openings may change at will. -/
theorem Inv.with_openings {a : Adapter} (h : a.Inv) (openings : Dict Nat Opening) :
    Inv { a with openings := openings } :=
  ⟨h.limit, h.empty, h.closed, h.key, h.owner, h.timer⟩

theorem Inv.startOpen {a : Adapter} (h : a.Inv) (call : Nat) (channelId : String)
    (expiresAt now : Int) : (a.startOpen call channelId expiresAt now).1.Inv := by
  unfold Adapter.startOpen
  split
  · exact h
  · dsimp only
    split
    · exact h.expire now
    · split
      · exact h.expire now
      · exact (h.expire now).with_openings _

theorem Inv.resumeAuthorized {a : Adapter} (h : a.Inv) (call : Nat) (authorized : Bool)
    (sessionId : String) : (a.resumeAuthorized call authorized sessionId).1.Inv := by
  unfold Adapter.resumeAuthorized
  split
  · dsimp only
    split
    · exact h.with_openings _
    · split
      · exact h.with_openings _
      · exact h.with_openings _
  · exact h

theorem Inv.resumeJoined {a : Adapter} (h : a.Inv) {call : Nat} {transport : Option Nat}
    (horderly : a.Orderly (.joined call transport)) :
    (a.resumeJoined call transport).1.Inv := by
  unfold Adapter.resumeJoined
  split
  · rename_i sessionId channelId expiresAt hopening
    dsimp only
    cases transport with
    | none => exact h.with_openings _
    | some transport =>
      obtain ⟨hopen, hlimit, hnew⟩ := horderly _ _ _ hopening
      have hkeep : ∀ (session : Session) {id s}, a.sessions.get? id = some s →
          (a.sessions.set sessionId session).get? id = some s := by
        intro session id s hget
        refine (Dict.get?_set_ne _ (fun hid => ?_) _).trans hget
        rw [hid, hnew] at hget
        cases hget
      refine ⟨?_, fun hclosed => ?_, h.closed, ?_, ?_, ?_⟩
      · dsimp only
        rw [Dict.size_set]
        split_ifs
        · exact h.limit
        · exact hlimit
      · rw [hopen] at hclosed
        cases hclosed
      · intro id s hget
        dsimp only at hget
        rw [Dict.get?_set] at hget
        split_ifs at hget with hid
        · cases hget
          exact hid.symm
        · exact h.key id s hget
      · intro t ht
        rcases List.mem_cons.1 ht with rfl | ht
        · exact ⟨sessionId, _, Dict.get?_set_self _ _ _, rfl⟩
        · obtain ⟨id, s, hget, htransport⟩ := h.owner t ht
          exact ⟨id, s, hkeep _ hget, htransport⟩
      · intro timer s hget
        dsimp only at hget
        rw [Dict.get?_set] at hget
        split_ifs at hget with htimer
        · cases hget
          exact ⟨htimer.symm, Dict.get?_set_self _ _ _⟩
        · obtain ⟨htimer', hsession⟩ := h.timer timer s hget
          exact ⟨htimer', hkeep _ hsession⟩
  · exact h

theorem Inv.fireTimer {a : Adapter} (h : a.Inv) (timer : Nat) : (a.fireTimer timer).Inv := by
  unfold Adapter.fireTimer
  split
  · rename_i session htimer
    obtain ⟨htimer', hsession⟩ := h.timer timer session htimer
    have hunset : Inv { a with timers := a.timers.erase timer } := by
      refine ⟨h.limit, h.empty, h.closed, h.key, h.owner, fun t s hget => ?_⟩
      dsimp only at hget
      rw [Dict.get?_erase] at hget
      split_ifs at hget
      exact h.timer t s hget
    dsimp only
    split
    · exact hunset.remove hsession
    · exact hunset
  · exact h

theorem Inv.leave {a : Adapter} (h : a.Inv) (sessionId : String) (now : Int) :
    (a.leave sessionId now).1.Inv := by
  unfold Adapter.leave
  dsimp only
  have hexpire := h.expire now
  split
  · exact hexpire
  · rename_i session hsession
    refine hexpire.remove ?_
    rwa [hexpire.key _ _ hsession]

theorem Inv.send {a : Adapter} (h : a.Inv) (sessionId : String) (bytes : Nat) (now : Int) :
    (a.send sessionId bytes now).1.Inv := by
  unfold Adapter.send
  dsimp only
  split
  · exact h.expire now
  · split
    · exact h.expire now
    · exact h.expire now

theorem Inv.close {a : Adapter} (h : a.Inv) : a.close.Inv := by
  unfold Adapter.close
  split
  · rename_i hclosed
    exact ⟨h.limit, h.empty, fun _ => hclosed, h.key, h.owner, h.timer⟩
  · have hremoved := h.foldl_remove (by rw [h.sessionIds]; exact a.sessions.nodup)
      fun s hs => h.get?_of_mem_values hs
    refine ⟨hremoved.limit, fun _ => ?_, fun _ => rfl, hremoved.key, hremoved.owner, hremoved.timer⟩
    refine Dict.size_eq_zero_iff.2 fun id => ?_
    dsimp only
    rw [get?_foldl_remove, h.sessionIds]
    split_ifs with hid
    · rfl
    · exact Dict.not_mem_keys_iff.1 hid

theorem Inv.closeDone {a : Adapter} (h : a.Inv) : a.closeDone.Inv := by
  unfold Adapter.closeDone
  split
  · rename_i hclosed
    exact ⟨h.limit, h.empty, fun _ => hclosed, h.key, h.owner, h.timer⟩
  · exact h

/-- **Step lemma.** -/
theorem Inv.next {a : Adapter} (h : a.Inv) {step : Step} (horderly : a.Orderly step) :
    (a.next step).Inv := by
  cases step with
  | startOpen call channelId expiresAt now => exact h.startOpen call channelId expiresAt now
  | authorized call authorized sessionId => exact h.resumeAuthorized call authorized sessionId
  | joined call transport => exact h.resumeJoined horderly
  | timer timer => exact h.fireTimer timer
  | leave sessionId now => exact h.leave sessionId now
  | send sessionId bytes now => exact h.send sessionId bytes now
  | status now => exact h.expire now
  | close => exact h.close
  | closeDone => exact h.closeDone

theorem closed_expire (a : Adapter) (now : Int) : (a.expire now).closed = a.closed :=
  (foldl_remove_closed _ a).1

/-- Nothing opens an adapter again. -/
theorem closed_next {a : Adapter} (h : a.closed = true) (step : Step) :
    (a.next step).closed = true := by
  cases step with
  | startOpen => simp [next, startOpen, h]
  | authorized => simp only [next, resumeAuthorized]; split <;> (try split_ifs) <;> exact h
  | joined => simp only [next, resumeJoined]; split <;> (try split) <;> exact h
  | timer => simp only [next, fireTimer]; split <;> (try split_ifs) <;> exact h
  | leave =>
    simp only [next, leave]
    split
    all_goals exact (closed_expire _ _).trans h
  | send =>
    simp only [next, send]
    split_ifs
    all_goals exact (closed_expire _ _).trans h
  | status => exact (closed_expire _ _).trans h
  | close => simp [next, close, h]
  | closeDone => simp [next, closeDone, h]

end Adapter

end Vibapp.Collaboration
