import Vibapp.Collaboration.Broker
import Vibapp.Lib.Json
import Vibapp.Lib.Window

/-!
# Delivery of collaboration events

The queue of `createBrowserCollaborationBroker`: messages come in from the transports' callbacks
(`onMessage`), an app takes them out (`receive`), and forgetting a session or closing drops them.
The tables are those of `Broker`, whose steps stay the same.

**Main result** (`exact_of_runs`). In every run the byte count is exact and within its bound, and
the events of a session come out in the order of their arrival.
-/

namespace Vibapp.Collaboration

/-! ## Data -/

def maxQueuedEvents : Nat := 128

def maxQueuedBytes : Int := 1024 * 1024

def maxSeenEventsPerSession : Nat := 1024

def eventSchema : String := "vibapp.collaboration-event.experimental-v1"

/-- An event, once `decodedEvent` has checked it. -/
structure Event where
  appId : String
  channelId : String
  eventId : String
  sentAt : Int
  payload : Json

/-- What the broker compares of an event's id. -/
def Event.key (event : Event) : String := event.eventId.toLower

/-- An item of `queued`. -/
structure Queued where
  sessionId : String
  channelId : String
  byteLength : Nat
  event : Event

/-- The broker with its queue. Beside the variables of the source: the callbacks that the adapter has
given to the transport (a session id and a channel id each), and the events accepted and handed out
so far. -/
structure Desk where
  appId : String
  broker : Broker
  queued : List Queued
  seenEvents : Dict String (List String)
  queuedBytes : Int
  callbacks : List (String × String)
  accepted : List Queued
  delivered : List Queued

namespace Desk

/-- `APP_ID_RE`. -/
def validAppId (value : String) : Bool :=
  match value.toList with
  | [] => false
  | c :: cs =>
    (('a' ≤ c && c ≤ 'z') || c.isDigit) && cs.length ≤ 127 &&
      cs.all fun c => ('a' ≤ c && c ≤ 'z') || c.isDigit || ['.', '_', '-'].contains c

/-- `createBrowserCollaborationBroker`. -/
def new (appId : String) (settings : Settings) : Except String Desk :=
  if validAppId appId = false then .error "appId is invalid"
  else
    match Broker.new settings with
    | .error e => .error e
    | .ok broker => .ok ⟨appId, broker, [], ∅, 0, [], [], []⟩

/-! ## Methods -/

/-- `decodedEvent`, from the parsed message on. The keys are compared sorted and joined. -/
def decodedEvent (value : Option Json) (appId channelId : String) : Option Event :=
  match value with
  | some (.obj members) =>
    if String.intercalate "," ((members.map Prod.fst).insertionSort (· ≤ ·)) ≠
        "app_id,channel_id,event_id,payload,schema_version,sent_at" then none
    else
      match members.lookup "schema_version", members.lookup "app_id", members.lookup "channel_id",
        members.lookup "event_id", members.lookup "sent_at", members.lookup "payload" with
      | some (.str version), some (.str app), some (.str channel), some (.str eventId),
          some (.int sentAt), some payload =>
        if version ≠ eventSchema ∨ app ≠ appId ∨ channel ≠ channelId ∨ validUuid eventId = false ∨
            isSafeInteger sentAt = false ∨ sentAt < 0 then none
        else some ⟨app, channel, eventId, sentAt, payload⟩
      | _, _, _, _, _, _ => none
  | _ => none

/-- The part of `forgetSession` beside the table of sessions. The loop runs from the end. -/
def dropQueued (d : Desk) (sessionId : String) : Desk :=
  let left := d.queued.foldr
    (fun item (queued, bytes) =>
      if item.sessionId = sessionId then (queued, bytes - item.byteLength)
      else (item :: queued, bytes))
    ([], d.queuedBytes)
  { d with seenEvents := d.seenEvents.erase sessionId, queued := left.1, queuedBytes := left.2 }

/-- A step of the tables. Whatever session leaves the table of sessions is forgotten. -/
def follow (d : Desk) (broker : Broker) : Desk :=
  (d.broker.sessions.keys.filter fun sessionId => !broker.sessions.contains sessionId).foldl
    dropQueued { d with broker := broker }

/-- `pruneExpired`. -/
def pruneExpired (d : Desk) (now : Int) : Desk := d.follow (d.broker.pruneExpired now)

/-- `onMessage` of the broker. `value` is the message, parsed if it is JSON. -/
def onMessage (d : Desk) (sessionId channelId : String) (value : Option Json) (byteLength : Nat)
    (now : Int) : Desk × Bool :=
  let d := d.pruneExpired now
  if (d.broker.closed || !d.broker.sessions.contains sessionId) = true then (d, false)
  else
    let seen := (d.seenEvents.get? sessionId).getD []
    match decodedEvent value d.appId channelId with
    | none => (d, false)
    | some event =>
      if seen.contains event.key = true then (d, false)
      else if maxQueuedEvents ≤ d.queued.length ∨ maxQueuedBytes < d.queuedBytes + byteLength then
        (d, false)
      else
        let item : Queued := ⟨sessionId, channelId, byteLength, event⟩
        ({ d with
            seenEvents := d.seenEvents.set sessionId
              (pushWindow maxSeenEventsPerSession seen event.key)
            queuedBytes := d.queuedBytes + byteLength
            queued := d.queued ++ [item]
            accepted := d.accepted ++ [item] }, true)

/-- The adapter's callback for a message of `byteLength` bytes. -/
def incoming (d : Desk) (sessionId channelId : String) (value : Option Json) (byteLength : Nat)
    (now : Int) : Desk × Bool :=
  if byteLength = 0 ∨ maxMessageBytes < byteLength then (d, false)
  else d.onMessage sessionId channelId value byteLength now

/-- The loop of `receive`: what it takes of the queue, and what it leaves. -/
def take (sessionId : String) : Nat → List Queued → List Queued × List Queued
  | 0, queued => ([], queued)
  | _ + 1, [] => ([], [])
  | limit + 1, item :: queued =>
    if item.sessionId = sessionId then
      let rest := take sessionId limit queued
      (item :: rest.1, rest.2)
    else
      let rest := take sessionId (limit + 1) queued
      (rest.1, item :: rest.2)

/-- `receive`. -/
def receive (d : Desk) (sessionId : String) (limit now : Int) :
    Desk × Except String (List (String × Event)) :=
  let d := d.pruneExpired now
  if d.broker.sessions.contains sessionId = false then (d, .error "unknown collaboration session")
  else if limit < 1 ∨ 64 < limit then (d, .error "receive limit must be 1..64")
  else
    let taken := take sessionId limit.toNat d.queued
    ({ d with
        queued := taken.2
        queuedBytes := taken.1.foldl (fun bytes item => bytes - item.byteLength) d.queuedBytes
        delivered := d.delivered ++ taken.1 },
      .ok (taken.1.map fun item => (item.channelId, item.event)))

/-- `close` up to its wait for the adapter. -/
def close (d : Desk) : Desk :=
  if d.broker.closed = true then { d with broker := d.broker.close }
  else { d with broker := d.broker.close, queued := [], queuedBytes := 0, seenEvents := ∅ }

/-- The end of `leave`. -/
def left (d : Desk) (sessionId : String) : Desk :=
  if sessionId ∈ d.broker.leaving then
    { d with broker := d.broker.left sessionId }.dropQueued sessionId
  else d

/-- The adapter's call resumes with the authorizer's answer, and gives the transport a callback. -/
def resumeAuthorized (d : Desk) (call : Nat) (sessionId : String) : Desk :=
  let broker := d.broker.resumeAuthorized call sessionId
  match d.broker.answers.get? call, d.broker.adapter.openings.get? call,
      broker.adapter.openings.get? call with
  | some _, some (.authorizing _ _), some (.joining sessionId channelId _) =>
    { d with broker := broker, callbacks := (sessionId, channelId) :: d.callbacks }
  | _, _, _ => { d with broker := broker }

/-! ## Runs -/

/-- The steps of the tables, with what they do to the queue. -/
def tables (d : Desk) : Broker.BrokerStep → Desk
  | .authorized call sessionId => d.resumeAuthorized call sessionId
  | .left sessionId => d.left sessionId
  | .close => d.close
  | step => d.follow (d.broker.next step)

/-- The steps: one of the tables, a message for a callback, a call of `receive`. -/
inductive DeskStep
  | tables (step : Broker.BrokerStep)
  | message (callback : Nat) (message : ByteArray) (now : Int)
  | receive (sessionId : String) (limit now : Int)

/-- `parse` is the decoding of a message as UTF-8 and JSON. -/
def next (parse : ByteArray → Option Json) (d : Desk) : DeskStep → Desk
  | .tables step => d.tables step
  | .message callback message now =>
    match d.callbacks[callback]? with
    | some (sessionId, channelId) =>
      (d.incoming sessionId channelId (parse message) message.size now).1
    | none => d
  | .receive sessionId limit now => (d.receive sessionId limit now).1

/-- Any step. -/
def AnyStep (parse : ByteArray → Option Json) (step : DeskStep) (d e : Desk) : Prop :=
  e = d.next parse step

/-- The UUID source gives no session id that a callback already has. -/
def Fresh (d : Desk) : DeskStep → Prop
  | .tables (.authorized _ sessionId) => sessionId ∉ d.callbacks.map Prod.fst
  | _ => True

def FreshStep (parse : ByteArray → Option Json) (step : DeskStep) (d e : Desk) : Prop :=
  d.Fresh step ∧ e = d.next parse step

/-! ## What holds -/

/-- The items of one session. -/
def ofSession (sessionId : String) (items : List Queued) : List Queued :=
  items.filter fun item => item.sessionId = sessionId

/-- The bytes of a list of items. -/
def bytesOf (items : List Queued) : Int := (items.map fun item => (item.byteLength : Int)).sum

/-- The byte count, its bound, and the order of a session's events. -/
structure Exact (d : Desk) : Prop where
  bytes : d.queuedBytes = bytesOf d.queued
  maxBytes : d.queuedBytes ≤ maxQueuedBytes
  maxEvents : d.queued.length ≤ maxQueuedEvents
  order : ∀ sessionId, (ofSession sessionId (d.delivered ++ d.queued)).Sublist
    (ofSession sessionId d.accepted)

/-- The app has the channel open under this session. -/
def OpenAt (d : Desk) (now : Int) (sessionId channelId : String) : Prop :=
  (∃ channel, d.broker.sessions.get? sessionId = some channel ∧ channel.channelId = channelId) ∧
    ∃ session, d.broker.adapter.sessions.get? sessionId = some session ∧
      session.channelId = channelId ∧ now < session.expiresAt

/-- Two accepted events of a session with the same id are far apart. -/
def NoReplay (d : Desk) : Prop :=
  ∀ sessionId, SpacedBy maxSeenEventsPerSession
    ((ofSession sessionId d.accepted).map fun item => item.event.key)

/-! ## Lists of items -/

section

variable {sessionId : String} {queued : List Queued}

theorem bytesOf_append (xs ys : List Queued) : bytesOf (xs ++ ys) = bytesOf xs + bytesOf ys := by
  simp [bytesOf]

theorem bytesOf_nonneg (xs : List Queued) : 0 ≤ bytesOf xs :=
  List.sum_nonneg fun n hn => by
    obtain ⟨item, -, rfl⟩ := List.mem_map.1 hn
    exact Int.natCast_nonneg _

/-- What is dropped and what stays. -/
theorem bytesOf_split (sessionId : String) (queued : List Queued) :
    bytesOf queued = bytesOf (queued.filter fun item => item.sessionId ≠ sessionId) +
      bytesOf (ofSession sessionId queued) := by
  induction queued with
  | nil => rfl
  | cons item queued ih =>
    by_cases h : item.sessionId = sessionId
    · simp [bytesOf, ofSession, h] at ih ⊢
      omega
    · simp [bytesOf, ofSession, h] at ih ⊢
      omega

theorem ofSession_append (xs ys : List Queued) :
    ofSession sessionId (xs ++ ys) = ofSession sessionId xs ++ ofSession sessionId ys :=
  List.filter_append ..

theorem mem_ofSession {item : Queued} :
    item ∈ ofSession sessionId queued ↔ item ∈ queued ∧ item.sessionId = sessionId := by
  simp [ofSession]

/-- What `receive` takes: the first events of its session. -/
theorem take_fst (limit : Nat) (queued : List Queued) :
    (take sessionId limit queued).1 = (ofSession sessionId queued).take limit := by
  induction queued generalizing limit with
  | nil => cases limit <;> rfl
  | cons item queued ih =>
    cases limit with
    | zero => rfl
    | succ limit =>
      by_cases h : item.sessionId = sessionId
      · simp [take, ofSession, h, ih] 
      · simp [take, ofSession, h, ih]

/-- What it leaves: the others, and the events of other sessions. -/
theorem take_snd (limit : Nat) (queued : List Queued) (other : String) :
    ofSession other (take sessionId limit queued).2 =
      if other = sessionId then (ofSession sessionId queued).drop limit
      else ofSession other queued := by
  induction queued generalizing limit with
  | nil => cases limit <;> simp [take, ofSession]
  | cons item queued ih =>
    cases limit with
    | zero =>
      rw [take, List.drop_zero]
      split_ifs with h
      · rw [h]
      · rfl
    | succ limit =>
      by_cases h : item.sessionId = sessionId
      · have hrest := ih limit
        by_cases ho : other = sessionId
        · rw [if_pos ho] at hrest ⊢
          simpa [take, h, ofSession] using hrest
        · have hne : sessionId ≠ other := fun heq => ho heq.symm
          rw [if_neg ho] at hrest ⊢
          simpa [take, h, ofSession, hne] using hrest
      · simp only [take, h, if_false]
        by_cases ho : item.sessionId = other
        · have hne : other ≠ sessionId := fun heq => h (ho.trans heq)
          have hrest := ih (limit + 1)
          rw [if_neg hne] at hrest ⊢
          simp only [ofSession, List.filter_cons, ho, decide_true, if_true] at hrest ⊢
          rw [hrest]
        · have hrest := ih (limit + 1)
          simp only [ofSession, List.filter_cons, ho, h, decide_false, Bool.false_eq_true,
            if_false] at hrest ⊢
          exact hrest

theorem bytesOf_take (limit : Nat) (queued : List Queued) :
    bytesOf queued =
      bytesOf (take sessionId limit queued).1 + bytesOf (take sessionId limit queued).2 := by
  induction queued generalizing limit with
  | nil => cases limit <;> rfl
  | cons item queued ih =>
    cases limit with
    | zero => simp [take, bytesOf]
    | succ limit =>
      by_cases h : item.sessionId = sessionId
      · have hrest := ih limit
        simp only [take, h, if_true, bytesOf, List.map_cons, List.sum_cons] at hrest ⊢
        omega
      · have hrest := ih (limit + 1)
        simp only [take, h, if_false, bytesOf, List.map_cons, List.sum_cons] at hrest ⊢
        omega

theorem take_sublist (limit : Nat) (queued : List Queued) :
    (take sessionId limit queued).2.Sublist queued := by
  induction queued generalizing limit with
  | nil => cases limit <;> exact List.Sublist.refl _
  | cons item queued ih =>
    cases limit with
    | zero => exact List.Sublist.refl _
    | succ limit =>
      rw [take]
      split_ifs
      · exact (ih limit).cons item
      · exact (ih (limit + 1)).cons_cons item

theorem foldl_sub_bytes (items : List Queued) (bytes : Int) :
    items.foldl (fun (bytes : Int) item => bytes - item.byteLength) bytes =
      bytes - bytesOf items := by
  induction items generalizing bytes with
  | nil => simp [bytesOf]
  | cons item items ih =>
    rw [List.foldl_cons, ih, bytesOf, bytesOf, List.map_cons, List.sum_cons]
    omega

end

/-! ## Forgetting -/

theorem foldr_dropQueued (sessionId : String) (queued : List Queued) (bytes : Int) :
    queued.foldr
      (fun item (acc : List Queued × Int) =>
        if item.sessionId = sessionId then (acc.1, acc.2 - item.byteLength)
        else (item :: acc.1, acc.2)) ([], bytes) =
      (queued.filter fun item => item.sessionId ≠ sessionId,
        bytes - bytesOf (ofSession sessionId queued)) := by
  induction queued with
  | nil => simp [ofSession, bytesOf]
  | cons item queued ih =>
    rw [List.foldr_cons, ih]
    by_cases h : item.sessionId = sessionId
    · simp [h, ofSession, bytesOf]
      omega
    · simp [h, ofSession]

theorem dropQueued_eq (d : Desk) (sessionId : String) : d.dropQueued sessionId =
    { d with
      seenEvents := d.seenEvents.erase sessionId
      queued := d.queued.filter fun item => item.sessionId ≠ sessionId
      queuedBytes := d.queuedBytes - bytesOf (ofSession sessionId d.queued) } := by
  rw [dropQueued, foldr_dropQueued]

/-- What forgetting some sessions does. -/
structure Forgets (sessionIds : List String) (d e : Desk) : Prop where
  appId : e.appId = d.appId
  broker : e.broker = d.broker
  callbacks : e.callbacks = d.callbacks
  accepted : e.accepted = d.accepted
  delivered : e.delivered = d.delivered
  queued : e.queued = d.queued.filter fun item => item.sessionId ∉ sessionIds
  seen : ∀ sessionId, e.seenEvents.get? sessionId =
    if sessionId ∈ sessionIds then none else d.seenEvents.get? sessionId
  bytes : d.queuedBytes = bytesOf d.queued → e.queuedBytes = bytesOf e.queued

theorem forgets_dropQueued (d : Desk) (sessionId : String) :
    Forgets [sessionId] d (d.dropQueued sessionId) := by
  rw [dropQueued_eq]
  refine ⟨rfl, rfl, rfl, rfl, rfl, ?_, fun other => ?_, fun hbytes => ?_⟩
  · simp
  · simp only [Dict.get?_erase, List.mem_singleton]
  · dsimp only
    rw [hbytes, bytesOf_split sessionId d.queued]
    omega

theorem Forgets.trans {xs ys : List String} {d e f : Desk} (h₁ : Forgets xs d e)
    (h₂ : Forgets ys e f) : Forgets (xs ++ ys) d f where
  appId := h₂.appId.trans h₁.appId
  broker := h₂.broker.trans h₁.broker
  callbacks := h₂.callbacks.trans h₁.callbacks
  accepted := h₂.accepted.trans h₁.accepted
  delivered := h₂.delivered.trans h₁.delivered
  queued := by
    rw [h₂.queued, h₁.queued, List.filter_filter]
    refine List.filter_congr fun item _ => ?_
    simp [List.mem_append, not_or, Bool.and_comm]
  seen sessionId := by
    rw [h₂.seen, h₁.seen]
    by_cases hy : sessionId ∈ ys
    · simp [hy]
    · simp [hy]
  bytes hbytes := h₂.bytes (h₁.bytes hbytes)

theorem forgets_foldl (sessionIds : List String) (d : Desk) :
    Forgets sessionIds d (sessionIds.foldl dropQueued d) := by
  induction sessionIds generalizing d with
  | nil => exact ⟨rfl, rfl, rfl, rfl, rfl, by simp, fun _ => by simp, id⟩
  | cons sessionId sessionIds ih => exact (forgets_dropQueued d sessionId).trans (ih _)

/-- The sessions that a step of the tables forgets. -/
def forgotten (d : Desk) (broker : Broker) : List String :=
  d.broker.sessions.keys.filter fun sessionId => !broker.sessions.contains sessionId

theorem forgets_follow (d : Desk) (broker : Broker) :
    Forgets (d.forgotten broker) { d with broker := broker } (d.follow broker) :=
  forgets_foldl _ _

/-! ## Exactness -/

theorem exact_new {appId : String} {settings : Settings} {d : Desk}
    (h : new appId settings = .ok d) : d.Exact := by
  unfold new at h
  split at h
  · cases h
  split at h
  · cases h
  · cases h
    exact ⟨rfl, Int.le_of_lt (by decide : (0 : Int) < maxQueuedBytes), Nat.zero_le _,
      fun _ => List.Sublist.refl _⟩

/-- Forgetting sessions, whatever the tables do. -/
theorem Exact.forgets {d e : Desk} {sessionIds : List String} (h : d.Exact)
    (hforgets : Forgets sessionIds d e) : e.Exact := by
  have hsub : e.queued.Sublist d.queued := hforgets.queued ▸ List.filter_sublist
  have hbytes := hforgets.bytes h.bytes
  refine ⟨hbytes, ?_, Nat.le_trans hsub.length_le h.maxEvents, fun sessionId => ?_⟩
  · have hle : bytesOf e.queued ≤ bytesOf d.queued := by
      obtain ⟨l, hperm⟩ := hsub.exists_perm_append
      have hsum : bytesOf d.queued = bytesOf e.queued + bytesOf l := by
        rw [← bytesOf_append]
        exact (hperm.map _).sum_eq
      have := bytesOf_nonneg l
      omega
    rw [hbytes]
    exact le_trans hle (h.bytes ▸ h.maxBytes)
  · rw [hforgets.delivered, hforgets.accepted]
    refine List.Sublist.trans ?_ (h.order sessionId)
    exact ((List.Sublist.refl _).append hsub).filter _

/-- The tables take no part in exactness. -/
theorem Exact.tables_irrelevant {d : Desk} (h : d.Exact) (broker : Broker)
    (callbacks : List (String × String)) :
    Exact { d with broker := broker, callbacks := callbacks } :=
  ⟨h.bytes, h.maxBytes, h.maxEvents, h.order⟩

theorem Exact.follow {d : Desk} (h : d.Exact) (broker : Broker) : (d.follow broker).Exact :=
  (h.tables_irrelevant broker d.callbacks).forgets (d.forgets_follow broker)

theorem Exact.onMessage {d : Desk} (h : d.Exact) (sessionId channelId : String)
    (value : Option Json) (byteLength : Nat) (now : Int) :
    (d.onMessage sessionId channelId value byteLength now).1.Exact := by
  have hpruned : (d.pruneExpired now).Exact := h.follow _
  unfold Desk.onMessage
  generalize d.pruneExpired now = e at hpruned
  dsimp only
  split
  · exact hpruned
  · split
    · exact hpruned
    · split
      · exact hpruned
      · split
        · exact hpruned
        · rename_i hfull
          rw [not_or, not_le, not_lt] at hfull
          refine ⟨?_, hfull.2, ?_, fun other => ?_⟩
          · dsimp only
            rw [bytesOf_append, hpruned.bytes]
            simp [bytesOf]
          · dsimp only
            rw [List.length_append]
            exact hfull.1
          · dsimp only
            rw [← List.append_assoc, ofSession_append, ofSession_append e.accepted]
            exact (hpruned.order other).append (List.Sublist.refl _)

theorem Exact.receive {d : Desk} (h : d.Exact) (sessionId : String) (limit now : Int) :
    (d.receive sessionId limit now).1.Exact := by
  have hpruned : (d.pruneExpired now).Exact := h.follow _
  unfold Desk.receive
  generalize d.pruneExpired now = e at hpruned
  dsimp only
  split
  · exact hpruned
  split
  · exact hpruned
  · have hbytes := @bytesOf_take sessionId limit.toNat e.queued
    have hfirst := bytesOf_nonneg (Desk.take sessionId limit.toNat e.queued).1
    have hmax := hpruned.maxBytes
    have hcount := hpruned.bytes
    refine ⟨?_, ?_, ?_, fun other => ?_⟩
    · dsimp only
      rw [foldl_sub_bytes]
      omega
    · dsimp only
      rw [foldl_sub_bytes]
      omega
    · exact Nat.le_trans (take_sublist limit.toNat e.queued).length_le hpruned.maxEvents
    · -- the events taken stand in front of those of their session that stay
      have hsame : ofSession other ((e.delivered ++ (Desk.take sessionId limit.toNat e.queued).1) ++
          (Desk.take sessionId limit.toNat e.queued).2) =
          ofSession other (e.delivered ++ e.queued) := by
        rw [ofSession_append, ofSession_append, ofSession_append, take_snd, take_fst,
          List.append_assoc]
        congr 1
        by_cases ho : other = sessionId
        · rw [if_pos ho, ho]
          have hall : ofSession sessionId ((ofSession sessionId e.queued).take limit.toNat) =
              (ofSession sessionId e.queued).take limit.toNat := by
            refine List.filter_eq_self.2 fun item hitem => ?_
            exact decide_eq_true (mem_ofSession.1 (List.mem_of_mem_take hitem)).2
          rw [hall, List.take_append_drop]
        · rw [if_neg ho]
          have hnone : ofSession other ((ofSession sessionId e.queued).take limit.toNat) = [] := by
            refine List.filter_eq_nil_iff.2 fun item hitem => ?_
            have hid := (mem_ofSession.1 (List.mem_of_mem_take hitem)).2
            rw [hid, decide_eq_true_eq]
            exact fun heq => ho heq.symm
          rw [hnone, List.nil_append]
      dsimp only
      rw [hsame]
      exact hpruned.order other

theorem Exact.tables {d : Desk} (h : d.Exact) (step : Broker.BrokerStep) :
    (d.tables step).Exact := by
  cases step with
  | authorized call sessionId =>
    change (d.resumeAuthorized call sessionId).Exact
    unfold Desk.resumeAuthorized
    dsimp only
    split
    all_goals exact h.tables_irrelevant _ _
  | left sessionId =>
    change (d.left sessionId).Exact
    unfold Desk.left
    split
    · exact (h.tables_irrelevant _ d.callbacks).forgets (forgets_dropQueued _ _)
    · exact h
  | close =>
    change d.close.Exact
    unfold Desk.close
    split
    · exact h.tables_irrelevant _ d.callbacks
    · refine ⟨rfl, Int.le_of_lt (by decide : (0 : Int) < maxQueuedBytes), Nat.zero_le _,
        fun sessionId => List.Sublist.trans ?_ (h.order sessionId)⟩
      exact ((List.Sublist.refl _).append (List.nil_sublist _)).filter _
  | _ => exact h.follow _

/-- **Step lemma.** -/
theorem Exact.next {parse : ByteArray → Option Json} {d : Desk} (h : d.Exact) (step : DeskStep) :
    (d.next parse step).Exact := by
  cases step with
  | tables step => exact h.tables step
  | message callback message now =>
    change (match d.callbacks[callback]? with
      | some (sessionId, channelId) =>
        (d.incoming sessionId channelId (parse message) message.size now).1
      | none => d).Exact
    split
    · unfold Desk.incoming
      split
      · exact h
      · exact h.onMessage ..
    · exact h
  | receive sessionId limit now => exact h.receive sessionId limit now

/-- **Run lemma.** -/
theorem exact_of_runs {parse : ByteArray → Option Json} {appId : String} {settings : Settings}
    {steps : List DeskStep} {d₀ d : Desk} (hnew : new appId settings = .ok d₀)
    (h : Steps (AnyStep parse) steps d₀ d) : d.Exact :=
  h.invariant (exact_new hnew) fun {step _ _} _ hstep hexact => hstep ▸ hexact.next step

end Desk

end Vibapp.Collaboration
