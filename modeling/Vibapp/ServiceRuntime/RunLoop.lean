import Vibapp.ServiceRuntime.KvMigration
import Vibapp.ServiceRuntime.UiAction

/-!
# The run loop of the service runtime

One process runs one entrypoint of one generation. It reads a command from each line of its input,
calls the guest for it at most once, and answers with one line of output. `Host.turn` is one round of
the loop; what the guest does during its call (the transactions it makes and the result it returns)
and how the operating system answers is part of the `Turn`, so that a statement about all turns is
one about every guest. `Run` keeps what was sent to the guest and what was published, in order.
-/

namespace Vibapp.ServiceRuntime

/-! ## Calls of the guest -/

inductive AppKind
  | ui | service | hybrid
deriving DecidableEq, Repr

inductive EntrypointKind
  | launcherUi | service | settings
deriving DecidableEq, Repr

inductive OpenReason
  | user | deepLink | restore
deriving DecidableEq, Repr

inductive ServiceStartReason
  | enabled | hostRestart | update | manual
deriving DecidableEq, Repr

inductive ServiceStopReason
  | disabled | update | uninstall | unhealthy | hostShutdown
deriving DecidableEq, Repr

inductive ExecutionProfile
  | desktop | webPreview | webRuntime | headless
deriving DecidableEq, Repr

structure CallContext where
  eventId : String
  idempotencyKey : String
  cancellation : String
  generation : String
  profile : ExecutionProfile
  deadlineMonotonicMs : Nat
deriving DecidableEq, Repr

/-- `guest::AppEvent`: those of the launcher, and those of a service. -/
inductive AppEvent
  | launch (entrypoint session surface route : String) (reason : OpenReason)
  | reopen (entrypoint session surface route : String) (reason : OpenReason)
  | action (session surface route action : String) (fields : List FieldChange)
  | start (entrypoint service : String) (reason : ServiceStartReason)
  | trigger (entrypoint service triggerId : String) (payload : List Nat)
  | stop (entrypoint service : String) (reason : ServiceStopReason)
deriving DecidableEq, Repr

structure MigrationRequest where
  fromSchema : Nat
  toSchema : Nat
  sourceStateRevision : Nat
  targetStateRevision : Nat
deriving DecidableEq, Repr

inductive GuestCall
  | describe
  | handleEvent (context : CallContext) (event : AppEvent)
  | health (context : CallContext) (serviceEntrypoint : Option String) (includeDependencies : Bool)
  | migrate (context : CallContext) (request : MigrationRequest)
deriving DecidableEq, Repr

structure AppError where
  code : ErrorCode
  message : String
  retryable : Bool
deriving DecidableEq, Repr

structure AppDescriptor where
  id : String
  version : String
  kind : AppKind
  entrypoints : List (String × EntrypointKind)

/-- `EventOutput`. `serialized` is the length of `serde_json::to_vec(output)`, or its error. -/
structure EventOutput where
  surfaces : List SurfaceUpdate
  diagnostic : Option String
  serialized : Except String Nat

inductive HealthStatus
  | healthy | degraded | unhealthy
deriving DecidableEq, Repr

structure HealthCheck where
  name : String
  status : HealthStatus
  message : String

structure HealthReport where
  status : HealthStatus
  checks : List HealthCheck

inductive MigrationStatus
  | unchanged | migrated
deriving DecidableEq, Repr

structure MigrationResult where
  status : MigrationStatus
  targetStateRevision : Nat

/-- A call of the guest on the host: how the operating system answers, and the file at the time. -/
structure HostCall where
  io : Io
  file : KvFile
  call : KvCall

/-- What the guest does when it is called: its calls on the host, and a trap, an error or a value. -/
structure GuestRun (α : Type) where
  hostCalls : List HostCall
  result : Except String (Except AppError α)

def HostCall.leaves (sha256 : String → String) (state : RuntimeState) (c : HostCall) :
    RuntimeState := (perform sha256 state c.file c.io c.call).state

/-- The state of the host after the call. -/
def GuestRun.leaves {α : Type} (sha256 : String → String) (state : RuntimeState) (g : GuestRun α) :
    RuntimeState := g.hostCalls.foldl (HostCall.leaves sha256) state

/-! ## Responses -/

/-- `error_code`. -/
def errorCode : ErrorCode → String
  | .invalidArgument => "invalid-argument"
  | .incompatibleContract => "incompatible-contract"
  | .unsupportedVersion => "unsupported-version"
  | .unknownInterface => "unknown-interface"
  | .missingInterface => "missing-interface"
  | .permissionDenied => "permission-denied"
  | .consentRequired => "consent-required"
  | .capabilityUnavailable => "capability-unavailable"
  | .unsupportedSurface => "unsupported-surface"
  | .resourceLimit => "resource-limit"
  | .deadlineExceeded => "deadline-exceeded"
  | .cancelled => "cancelled"
  | .appDisabled => "app-disabled"
  | .appUninstalled => "app-uninstalled"
  | .upgradeInProgress => "upgrade-in-progress"
  | .integrityFailure => "integrity-failure"
  | .notFound => "not-found"
  | .conflict => "conflict"
  | .staleRevision => "stale-revision"
  | .malformedOutput => "malformed-output"
  | .forgedIdentifier => "forged-identifier"
  | .internal => "internal"

/-- `ui_input_rejection`: the host's word that the guest only refused the input. -/
structure UiInputRejection where
  generation : String
  session : String
  surface : String
  route : String
  eventId : String
  stateRevision : Nat
deriving DecidableEq, Repr

/-- A line of output. -/
inductive Response
  | error (requestId code message : String) (retryable : Bool) (rejection : Option UiInputRejection)
  | validated (requestId : String)
  | uiUpdated (requestId : String) (surfaces : List SurfaceUpdate) (diagnostic : Option String)
      (stateRevision : Nat)
  | event (requestId tag : String) (diagnostic : Option String) (stateRevision : Nat)
  | health (requestId : String) (report : Json) (stateRevision : Nat)
  | migration (requestId : String) (status : MigrationStatus) (target kvStateRevision : Nat)
  | stateRebound (requestId : String) (stateRevision : Nat)

/-- `bounded_message`. -/
def boundedMessage (message : String) : String :=
  String.ofList ((message.toList.filter fun c => !isControl c).take 512)

/-- `response_error`. -/
def responseError (requestId code message : String) (retryable : Bool) : Response :=
  .error requestId code (boundedMessage message) retryable none

/-- `guest_error`. -/
def guestError (requestId : String) (error : AppError) : Response :=
  responseError requestId (errorCode error.code) error.message error.retryable

/-- `ui_guest_error`, with the revision and the number of attempted transactions before the call and
after it. -/
def uiGuestError (requestId : String) (error : AppError) (operation : String)
    (context : CallContext) (session surface route : String) (before after : Nat × Nat) : Response :=
  if operation = "UI action" ∧ error.code = .invalidArgument ∧ before = after ∧ 0 < before.1 ∧
      before.2 < u64Max then
    .error requestId (errorCode error.code) (boundedMessage error.message) error.retryable
      (some ⟨context.generation, session, surface, route, context.eventId, after.1⟩)
  else guestError requestId error

/-- `response_is_fatal`. -/
def Response.isFatal : Response → Bool
  | .error _ _ _ _ rejection => rejection.isNone
  | _ => false

/-- `str::contains`. -/
def containsText (detail part : String) : Bool :=
  detail.toList.tails.any fun rest => part.toList.isPrefixOf rest

/-- `runtime_error`. -/
def runtimeError (requestId operation detail : String) : Response :=
  responseError requestId
    (if (containsText detail "interrupt" || containsText detail "fuel") = true then
      "deadline-exceeded" else "internal")
    (operation ++ " trapped: " ++ detail) false

/-- `validate_event_output`. -/
def validateEventOutput (output : EventOutput) : Except String Unit := do
  if output.surfaces.length ≠ 0 then
    .error "service event attempted to create a launcher surface"
  if output.diagnostic.any (fun value => value.length > 4096) = true then
    .error "service diagnostic exceeds 4096 characters"
  let bytes ← output.serialized
  if bytes > maxOutputBytes then .error "service event output exceeds 256 KiB"

def HealthStatus.text : HealthStatus → String
  | .healthy => "healthy"
  | .degraded => "degraded"
  | .unhealthy => "unhealthy"

/-- `health_value`, and its copies for the other worlds. -/
def healthValue (report : HealthReport) : Except String Json := do
  if report.checks.length > 64 then .error "health report has more than 64 checks"
  let checks ← report.checks.mapM fun check =>
    if check.name.length > 128 ∨ check.message.length > 512 then
      .error "health check text exceeds its bound"
    else
      .ok (Json.obj [("message", .str check.message), ("name", .str check.name),
        ("status", .str check.status.text)])
  let result := Json.obj [("checks", .arr checks), ("status", .str report.status.text)]
  if Json.size result > maxOutputBytes then .error "health report exceeds 256 KiB"
  return result

/-! ## The process -/

/-- `RuntimeBindings`: the world that the component was linked for. -/
inductive RuntimeBindings
  | service | hybrid | ui
deriving DecidableEq, Repr

/-- What the loop reads of `Arguments`. -/
structure Arguments where
  appId : String
  appVersion : String
  generation : String
  entrypoint : String
  entrypointKind : String
  service : String

/-- The process: its arguments and bindings, and the libraries it calls. -/
structure Host where
  arguments : Arguments
  bindings : RuntimeBindings
  sha256 : String → String
  fromStr : String → Option Json
  stored : Json → Option StoredFieldValue

/-- The store's data that changes, and the number of the last command. -/
structure Session where
  state : RuntimeState
  uiSurface : Option UiSurfaceState
  sequence : Nat

/-- What the world does in one round: the line, whether the fuel can be set, what the guest does if
it is called, how the operating system answers, and whether the output can be written. -/
structure Turn where
  line : Except String String
  armed : Except String Unit
  describe : GuestRun AppDescriptor
  event : GuestRun EventOutput
  health : GuestRun HealthReport
  migrate : GuestRun MigrationResult
  beginIo : Io
  beginFile : KvFile
  finishIo : Io
  finishFile : KvFile
  rebound : Except String Unit
  rebindIo : Io
  rebindFile : KvFile
  emitted : Bool

/-- What can be seen of the process: what it sends to the guest, what it does for the guest, and what it
publishes. -/
inductive Effect
  | sent (call : GuestCall)
  | performed (call : HostCall)
  | emitted (response : Response)

/-- A call of the guest, and what the guest calls on the host meanwhile. -/
def GuestRun.effects {α : Type} (g : GuestRun α) (call : GuestCall) : List Effect :=
  .sent call :: g.hostCalls.map .performed

/-- Where an arm of the loop ends: at a `?`, with `continue` behind an answer, behind the `match`, or
at a `return` behind an answer. -/
inductive Arm
  | failed
  | refused (session : Session) (response : Response)
  | answered (session : Session) (called : List Effect) (response : Response)
  | stopped (session : Session) (called : List Effect) (response : Response)

def maxCommandBytes : Nat := 64 * 1024

def maxTriggerBytes : Nat := 64 * 1024

/-- `EVENT_DEADLINE` -/
def eventDeadlineMs : Nat := 250

/-- `HEALTH_DEADLINE` -/
def healthDeadlineMs : Nat := 2000

/-- `MIGRATION_DEADLINE` -/
def migrationDeadlineMs : Nat := 2000

/-- `context`. -/
def Arguments.context (arguments : Arguments) (requestId : String) (sequence deadline : Nat) :
    CallContext where
  eventId := "event-" ++ toString sequence
  idempotencyKey := requestId
  cancellation := "cancel-" ++ toString sequence
  generation := arguments.generation
  profile := .desktop
  deadlineMonotonicMs := deadline

/-- The context of a UI event that the request names. -/
def CallContext.forEvent (context : CallContext) (eventId : String) : CallContext :=
  { context with eventId := eventId, idempotencyKey := eventId }

/-- `Value::as_u64` -/
def asU64 : Json → Option Nat
  | .int n => if 0 ≤ n ∧ n ≤ u64Max then some n.toNat else none
  | _ => none

/-- `as_u64().and_then(|value| u32::try_from(value).ok())` -/
def asU32 (value : Json) : Option Nat := (asU64 value).filter (· < 2 ^ 32)

/-- `command.get(key).and_then(Value::as_str)` -/
def textAt (command : Json) (key : String) : Option String := (command.get? key).bind asStr

section Arms

variable (host : Host) (s : Session) (t : Turn) (requestId : String) (command : Json)

/-! ### UI events -/

/-- `call_ui_event!`. -/
def callUiEvent (operation : String) (context : CallContext) (event : AppEvent)
    (session surface route : String) : Arm :=
  let before := (s.state.kv.document.stateRevision, s.state.kvTransactionAttempts)
  let state := t.event.leaves host.sha256 s.state
  let after := (state.kv.document.stateRevision, state.kvTransactionAttempts)
  let called := t.event.effects (.handleEvent context event)
  match t.event.result with
  | .ok (.ok output) =>
    match validateUiOutput output.surfaces output.diagnostic output.serialized session surface
        route with
    | .ok binding =>
      .answered { s with state := state, uiSurface := some binding } called
        (.uiUpdated requestId output.surfaces output.diagnostic state.kv.document.stateRevision)
    | .error error =>
      .answered { s with state := state } called
        (responseError requestId "malformed-output" error false)
  | .ok (.error error) =>
    .answered { s with state := state } called
      (uiGuestError requestId error operation context session surface route before after)
  | .error error =>
    .answered { s with state := state } called (runtimeError requestId operation error)

/-- A UI event, in a world that has them. -/
def uiEvent (unsupported operation : String) (context : CallContext) (event : AppEvent)
    (session surface route : String) : Arm :=
  match t.armed with
  | .error _ => .failed
  | .ok _ =>
    match host.bindings with
    | .service => .answered s [] (responseError requestId "unsupported-surface" unsupported false)
    | .hybrid | .ui => callUiEvent host s t requestId operation context event session surface route

/-- `"ui-launch"` -/
def uiLaunch : Arm :=
  match commandText command "session" 256, commandText command "surface" 256,
      commandText command "route" 128 with
  | .ok session, .ok surface, .ok route =>
    uiEvent host s t requestId "service-only generation cannot receive a UI launch" "UI launch"
      (host.arguments.context requestId s.sequence eventDeadlineMs)
      (.launch host.arguments.entrypoint session surface route .user) session surface route
  | _, _, _ =>
    .refused s (responseError requestId "invalid-argument" "invalid UI launch binding" false)

/-- `"ui-action"` -/
def uiAction : Arm :=
  match commandText command "session" 256, commandText command "surface" 256,
      commandText command "route" 128 with
  | .ok session, .ok surface, .ok route =>
    match s.uiSurface with
    | none =>
      .refused s (responseError requestId "stale-revision"
        "UI generation has no trusted current surface" false)
    | some current =>
      if current.session ≠ session ∨ current.surface ≠ surface ∨ current.route ≠ route then
        .refused s (responseError requestId "forged-identifier"
          "UI action does not match the current surface binding" false)
      else
        match parseActionFields host.stored command current with
        | .error error => .refused s (responseError requestId "invalid-argument" error false)
        | .ok (action, fields) =>
          match commandText command "event_id" 128 with
          | .error error => .refused s (responseError requestId "invalid-argument" error false)
          | .ok eventId =>
            uiEvent host s t requestId "service-only generation cannot receive a UI action"
              "UI action"
              ((host.arguments.context requestId s.sequence eventDeadlineMs).forEvent eventId)
              (.action session surface route action fields) session surface route
  | _, _, _ =>
    .refused s (responseError requestId "invalid-argument" "invalid UI action binding" false)

/-- `"ui-refresh"` -/
def uiRefresh : Arm :=
  match commandText command "session" 256, commandText command "surface" 256,
      commandText command "route" 128, commandText command "event_id" 128 with
  | .ok session, .ok surface, .ok route, .ok eventId =>
    match s.uiSurface with
    | none =>
      .refused s (responseError requestId "stale-revision"
        "UI generation has no trusted current surface" false)
    | some current =>
      if current.session ≠ session ∨ current.surface ≠ surface ∨ current.route ≠ route then
        .refused s (responseError requestId "forged-identifier"
          "UI refresh does not match the current surface binding" false)
      else
        uiEvent host s t requestId "service-only generation cannot refresh a UI surface"
          "UI refresh"
          ((host.arguments.context requestId s.sequence eventDeadlineMs).forEvent eventId)
          (.reopen host.arguments.entrypoint session surface route .restore) session surface route
  | _, _, _, _ =>
    .refused s (responseError requestId "invalid-argument" "invalid UI refresh binding" false)

/-! ### Service events -/

/-- `call_event!`. -/
def callEvent (operation tag : String) (context : CallContext) (event : AppEvent) :
    Session × List Effect × Response :=
  let state := t.event.leaves host.sha256 s.state
  let response :=
    match t.event.result with
    | .ok (.ok output) =>
      match validateEventOutput output with
      | .ok _ => .event requestId tag output.diagnostic state.kv.document.stateRevision
      | .error error => responseError requestId "resource-limit" error false
    | .ok (.error error) => guestError requestId error
    | .error error => runtimeError requestId operation error
  ({ s with state := state }, t.event.effects (.handleEvent context event), response)

def startReason : Option String → Option ServiceStartReason
  | some "enabled" => some .enabled
  | some "host-restart" => some .hostRestart
  | some "update" => some .update
  | some "manual" => some .manual
  | _ => none

def stopReason : Option String → Option ServiceStopReason
  | some "disabled" => some .disabled
  | some "update" => some .update
  | some "uninstall" => some .uninstall
  | some "unhealthy" => some .unhealthy
  | some "host-shutdown" => some .hostShutdown
  | _ => none

/-- `"start"` -/
def start : Arm :=
  match t.armed with
  | .error _ => .failed
  | .ok _ =>
    match host.bindings with
    | .ui =>
      .answered s [] (responseError requestId "unsupported-surface"
        "UI-only generation cannot receive a service start" false)
    | .service | .hybrid =>
      match startReason (textAt command "reason") with
      | none =>
        .refused s (responseError requestId "invalid-argument" "invalid service start reason" false)
      | some reason =>
        let (s, called, response) := callEvent host s t requestId "service start" "started"
          (host.arguments.context requestId s.sequence eventDeadlineMs)
          (.start host.arguments.entrypoint host.arguments.service reason)
        .answered s called response

/-- The bytes of a trigger. -/
def triggerPayload : Option Json → Option (List Nat)
  | some (.arr items) =>
    if items.length ≤ maxTriggerBytes then
      items.mapM fun item => (asU64 item).filter (· < 2 ^ 8)
    else none
  | _ => none

/-- `"trigger"` -/
def trigger : Arm :=
  match (textAt command "trigger_id").filter (fun value => value ≠ "" ∧ value.utf8ByteSize ≤ 128),
      triggerPayload (command.get? "payload") with
  | some triggerId, some payload =>
    match t.armed with
    | .error _ => .failed
    | .ok _ =>
      match host.bindings with
      | .ui =>
        .answered s [] (responseError requestId "unsupported-surface"
          "UI-only generation cannot receive a service trigger" false)
      | .service | .hybrid =>
        let (s, called, response) := callEvent host s t requestId "service trigger" "triggered"
          (host.arguments.context requestId s.sequence eventDeadlineMs)
          (.trigger host.arguments.entrypoint host.arguments.service triggerId payload)
        .answered s called response
  | _, _ =>
    .refused s (responseError requestId "invalid-argument" "invalid bounded service trigger" false)

/-- `"stop"` -/
def stop : Arm :=
  match t.armed with
  | .error _ => .failed
  | .ok _ =>
    match host.bindings with
    | .ui =>
      .stopped s [] (responseError requestId "unsupported-surface"
        "UI-only generation cannot receive a service stop" false)
    | .service | .hybrid =>
      match stopReason (textAt command "reason") with
      | none =>
        .refused s (responseError requestId "invalid-argument" "invalid service stop reason" false)
      | some reason =>
        let (s, called, response) := callEvent host s t requestId "service stop" "stopped"
          (host.arguments.context requestId s.sequence eventDeadlineMs)
          (.stop host.arguments.entrypoint host.arguments.service reason)
        .stopped s called response

/-! ### The other commands -/

/-- Whether a descriptor declares the entrypoint of the process, in its world. -/
def declaresEntrypoint (arguments : Arguments) (bindings : RuntimeBindings)
    (entrypoint : String × EntrypointKind) : Bool :=
  entrypoint.1 = arguments.entrypoint &&
    match bindings, entrypoint.2 with
    | .service, .service => arguments.entrypointKind = "service"
    | .hybrid, .service => arguments.entrypointKind = "service"
    | .hybrid, .launcherUi => arguments.entrypointKind = "launcher-ui"
    | .ui, .launcherUi => arguments.entrypointKind = "launcher-ui"
    | _, _ => false

/-- The kind of app of a world. -/
def RuntimeBindings.kind : RuntimeBindings → AppKind
  | .service => .service
  | .hybrid => .hybrid
  | .ui => .ui

/-- `validate_descriptor`, from what `describe` returns. -/
def validateDescriptor (described : Except String (Except AppError AppDescriptor)) :
    Except String Unit :=
  match described with
  | .error error => .error ("describe trapped: " ++ error)
  | .ok (.error error) => .error ("guest rejected describe: " ++ boundedMessage error.message)
  | .ok (.ok descriptor) =>
    if descriptor.id ≠ host.arguments.appId ∨ descriptor.version ≠ host.arguments.appVersion then
      .error "guest descriptor does not match installed app identity"
    else if descriptor.kind ≠ host.bindings.kind ∨ ¬ (descriptor.entrypoints.any
        (declaresEntrypoint host.arguments host.bindings)) = true then
      .error "guest descriptor does not declare the requested entrypoint"
    else .ok ()

/-- `"validate"` -/
def validate : Arm :=
  match t.armed with
  | .error _ => .failed
  | .ok _ =>
    .answered { s with state := t.describe.leaves host.sha256 s.state } (t.describe.effects .describe)
      (match validateDescriptor host t.describe.result with
      | .ok _ => .validated requestId
      | .error error => responseError requestId "incompatible-contract" error false)

/-- `"health"` -/
def health : Arm :=
  match t.armed with
  | .error _ => .failed
  | .ok _ =>
    let state := t.health.leaves host.sha256 s.state
    let operation := if host.bindings = .ui then "UI health" else "service health"
    let entrypoint := if host.bindings = .ui then none else some host.arguments.entrypoint
    .answered { s with state := state }
      (t.health.effects
        (.health (host.arguments.context requestId s.sequence healthDeadlineMs) entrypoint true))
      (match t.health.result with
      | .ok (.ok report) =>
        match healthValue report with
        | .ok report => .health requestId report state.kv.document.stateRevision
        | .error error => responseError requestId "resource-limit" error false
      | .ok (.error error) => guestError requestId error
      | .error error => runtimeError requestId operation error)

/-- What the guest's migration is answered with, but for the broker's revision. -/
def migrationResponse (target : Nat) : Response :=
  match t.migrate.result with
  | .ok (.ok result) =>
    if result.targetStateRevision = target then
      .migration requestId result.status result.targetStateRevision target
    else
      responseError requestId "malformed-output"
        "guest migration returned another target state revision" false
  | .ok (.error error) => guestError requestId error
  | .error error => runtimeError requestId "state migration" error

/-- `"migrate"`, behind `begin_migration`. -/
def migrateBegun (state : RuntimeState) (request : MigrationRequest) : Arm :=
  let state := t.migrate.leaves host.sha256 state
  let called := t.migrate.effects
    (.migrate (host.arguments.context requestId s.sequence migrationDeadlineMs) request)
  match migrationResponse t requestId request.targetStateRevision with
  | .error requestId code message retryable rejection =>
    .answered { s with state := { state with kv := state.kv.abortMigration } } called
      (.error requestId code message retryable rejection)
  | response =>
    let finished := state.kv.finishMigration t.finishIo t.finishFile request.targetStateRevision
    .answered { s with state := { state with kv := finished.broker } } called
      (match finished.result with
      | .ok _ => response
      | .error error => responseError requestId "internal" error true)

/-- `"migrate"` -/
def migrate : Arm :=
  match (command.get? "from_schema").bind asU32, (command.get? "to_schema").bind asU32,
      (command.get? "source_state_revision").bind asU64,
      (command.get? "target_state_revision").bind asU64 with
  | some fromSchema, some toSchema, some source, some target =>
    if fromSchema = 0 ∨ toSchema = 0 ∨ source = 0 ∨ target ≤ source then
      .refused s (responseError requestId "invalid-argument"
        "migration revisions are outside the accepted range" false)
    else
      match t.armed with
      | .error _ => .failed
      | .ok _ =>
        let (begun, kv) := s.state.kv.beginMigration t.beginIo t.beginFile source target
        let state := { s.state with kv := kv }
        match begun with
        | .error error =>
          .refused { s with state := state } (responseError requestId "stale-revision" error false)
        | .ok _ => migrateBegun host s t requestId state ⟨fromSchema, toSchema, source, target⟩
  | _, _, _, _ =>
    .refused s (responseError requestId "invalid-argument" "invalid migration revisions" false)

/-- `"rebind-state"`. The checks of the directory are `rebound`. -/
def rebindState : Arm :=
  match (textAt command "state_directory").filter fun value =>
      value ≠ "" ∧ value.utf8ByteSize ≤ 512 ∧ value.toList.any isControl = false with
  | none =>
    .refused s (responseError requestId "invalid-argument" "invalid rebound state directory" false)
  | some _ =>
    match t.rebound, s.state.kv.refresh t.rebindIo t.rebindFile with
    | .error error, _ =>
      .answered s [] (responseError requestId "integrity-failure" error false)
    | .ok _, .error error =>
      .answered s [] (responseError requestId "integrity-failure" error false)
    | .ok _, .ok kv =>
      .answered { s with state := { s.state with kv := kv } } []
        (.stateRebound requestId kv.document.stateRevision)

/-- The `match` over the command. -/
def arm : Arm :=
  match (textAt command "command").getD "" with
  | "validate" => validate host s t requestId
  | "ui-launch" => uiLaunch host s t requestId command
  | "ui-action" => uiAction host s t requestId command
  | "ui-refresh" => uiRefresh host s t requestId command
  | "start" => start host s t requestId command
  | "trigger" => trigger host s t requestId command
  | "health" => health host s t requestId
  | "migrate" => migrate host s t requestId command
  | "rebind-state" => rebindState s t requestId command
  | "stop" => stop host s t requestId command
  | _ => .answered s [] (responseError requestId "invalid-argument" "unknown runtime command" false)

end Arms

/-! ## Rounds -/

/-- `request_id` -/
def requestIdOf (command : Json) : String :=
  ((textAt command "request_id").filter fun value =>
    value ≠ "" ∧ value.utf8ByteSize ≤ 128).getD "unknown"

/-- What an arm leaves: the session, the effects, and whether another line is read. -/
structure Left where
  session : Session
  effects : List Effect
  running : Bool

/-- `emit(&response)?`, and what is done behind it. -/
def emit (t : Turn) (s : Session) (called : List Effect) (response : Response) (more : Bool) :
    Left :=
  ⟨s, called ++ (if t.emitted = true then [.emitted response] else []), t.emitted && more⟩

def Arm.left (t : Turn) (s : Session) : Arm → Left
  | .failed => ⟨s, [], false⟩
  | .refused s response => emit t s [] response true
  | .answered s called response => emit t s called response (!response.isFatal)
  | .stopped s called response => emit t s called response false

/-- One round of the loop. -/
def Host.turn (host : Host) (s : Session) (t : Turn) : Left :=
  match t.line with
  | .error _ => ⟨s, [], false⟩
  | .ok line =>
    if line = "" ∨ line.utf8ByteSize > maxCommandBytes then
      emit t s [] (responseError "unknown" "resource-limit" "runtime command exceeds its bound" false)
        false
    else
      match host.fromStr line with
      | none =>
        emit t s [] (responseError "unknown" "malformed-output" "runtime command is not valid JSON"
          false) false
      | some command =>
        let s := { s with sequence := min (s.sequence + 1) u64Max }
        (arm host s t (requestIdOf command) command).left t s

/-- A process: its session, what it has done, and whether it reads on. -/
structure Run where
  session : Session
  log : List Effect
  running : Bool

/-- The process before its first line. -/
def Run.start (state : RuntimeState) : Run := ⟨⟨state, none, 0⟩, [], true⟩

def Run.next (host : Host) (r : Run) (t : Turn) : Run :=
  if r.running = true then
    let left := host.turn r.session t
    ⟨left.session, r.log ++ left.effects, left.running⟩
  else r

/-- The loop over the lines. -/
def Run.after (host : Host) (r : Run) (turns : List Turn) : Run := turns.foldl (Run.next host) r

end Vibapp.ServiceRuntime
