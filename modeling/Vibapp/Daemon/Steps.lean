import Vibapp.Daemon.State

/-!
# Steps of the daemon

The steps that every command is made of: reading the clock, changing the document in memory,
writing it out, appending to the audit log, and the file-system operations on data directories,
transaction roots and packages. Each step that touches storage is one at which the environment
may raise `OSError` or stop the process.
-/

namespace Vibapp.Daemon

open Prog

/-- The world at the next step. -/
def World.later (w : World) : World := { w with tick := w.tick + 1 }

/-- The number of this step; the next step has the next number. -/
def nextTick : Run Nat := do
  let t ← read fun _ w => w.tick
  modify World.later
  return t

/-- `self.clock()`. -/
def clock : Run Int := do
  let t ← nextTick
  read fun env _ => env.clock t

/-- `raise DaemonError(code, message)`. -/
def refuse {α : Type} (code message : String) (retryable : Bool := false) : Run α :=
  raise (.daemon ⟨code, message, retryable⟩)

/-- `if condition: raise DaemonError(code, message)`. -/
def refuseIf (condition : Prop) [Decidable condition] (code message : String)
    (retryable : Bool := false) : Run Unit :=
  if condition then refuse code message retryable else pure ()

/-- A check that changes nothing. -/
def check {α : Type} : Py α → Run α
  | .ok a => pure a
  | .error (.daemon e) => raise (.daemon e)
  | .error (.other _) => raise .other

/-- `if condition: m`. -/
def whenTrue (condition : Prop) [Decidable condition] (m : Run Unit) : Run Unit :=
  if condition then m else pure ()

/-- A storage step: done, or interrupted by an `OSError` or by the end of the process. -/
def storage (done : World → World) (interrupted : Env → Nat → World → World) : Run Unit := do
  let t ← nextTick
  let fault ← read fun env _ => env.fault t
  let torn ← read fun env _ => interrupted env t
  match fault with
  | none => modify done
  | some .fails => do
    modify torn
    raise .os
  | some .stops => do
    modify torn
    stop

/-- No storage step fails. -/
def Env.Quiet (env : Env) : Prop := ∀ t, env.fault t = none

section

variable {env : Env} {w : World} {done : World → World} {interrupted : Env → Nat → World → World}

/-- A storage step, by the three ways it ends. -/
theorem wp_storage_iff {Q : Unit → World → Prop} {E : Exn → World → Prop} {C : World → Prop} :
    wp (storage done interrupted) Q E C env w ↔
      match env.fault w.tick with
      | none => Q () (done w.later)
      | some .fails => E .os (interrupted env w.tick w.later)
      | some .stops => C (interrupted env w.tick w.later) := by
  simp only [storage, nextTick, wp_bind, wp_read, wp_modify, wp_pure]
  split <;> simp [wp_bind]

theorem wp_storage {Q : Unit → World → Prop} {E : Exn → World → Prop} {C : World → Prop}
    (hdone : Q () (done w.later))
    (hfails : ¬ env.Quiet → E .os (interrupted env w.tick w.later))
    (hstops : ¬ env.Quiet → C (interrupted env w.tick w.later)) :
    wp (storage done interrupted) Q E C env w := by
  rw [wp_storage_iff]
  split
  · exact hdone
  · rename_i hfault
    exact hfails fun hquiet => by rw [hquiet] at hfault; cases hfault
  · rename_i hfault
    exact hstops fun hquiet => by rw [hquiet] at hfault; cases hfault

theorem within_storage {R : World → World → Prop} (hR : Frame R) (hlater : ∀ w, R w w.later)
    (hdone : ∀ w, R w (done w)) (htorn : ∀ t w, R w (interrupted env t w)) :
    Within R env (storage done interrupted) := by
  intro w
  refine wp_storage ?_ ?_ ?_
  · exact hR.trans (hlater w) (hdone _)
  · exact fun _ => hR.trans (hlater w) (htorn _ _)
  · exact fun _ => hR.trans (hlater w) (htorn _ _)

end

/-- A storage step that is done or not. -/
def atomically (done : World → World) : Run Unit := storage done fun _ _ w => w

/-! ## The state document -/

def World.onMem (f : State → State) (w : World) : World := { w with mem := f w.mem }

/-- Change one app record, if there is one. -/
def State.onApp (appId : String) (f : App → App) (s : State) : State :=
  match s.apps.get? appId with
  | some app => { s with apps := s.apps.set appId (f app) }
  | none => s

/-- `app = state["apps"][app_id]`. -/
def getApp (appId : String) : Run App := do
  let app ← read fun _ w => w.mem.apps.get? appId
  match app with
  | some app => pure app
  | none => raise .other

/-- A change of the record in place. -/
def modifyApp (appId : String) (f : App → App) : Run Unit :=
  modify (World.onMem (State.onApp appId f))

/-- A change of the variables of the running transaction. -/
def modifyLocals (f : Locals → Locals) : Run Unit :=
  modify fun w => { w with locals := f w.locals }

/-- `_write_state`: the document is replaced as a whole, or not at all. -/
def writeState : Run Unit := atomically fun w => { w with saved := w.mem }

/-- The first `n` characters. -/
def truncated (n : Nat) (text : String) : String := String.ofList (text.toList.take n)

/-- `_append_audit`, without the free fields of a line. -/
def appendAudit (event principal : String) (appId : Option String) (result : String) :
    Run Unit := do
  modify (World.onMem fun s => { s with sequence := s.sequence + 1 })
  let now ← clock
  let append := fun w : World =>
    { w with audit := w.audit ++
        [⟨w.mem.sequence, now, event, truncated 128 principal, appId, result⟩] }
  storage append fun env t w => if env.written t then append w else w

/-! ## Data directories -/

def World.onDisk (f : Disk → Disk) (w : World) : World := { w with disk := f w.disk }

/-- `path.exists()`. -/
def dirExists (place : Place) : Run Bool := read fun _ w => (w.disk.dirs place).isSome

/-- What an interruption leaves of a directory, in place. -/
def Env.remains (env : Env) (t : Nat) (dir : Directory) : Option Directory :=
  (env.left t dir).map fun d => { d with inode := dir.inode }

/-- `shutil.rmtree` of a data directory. -/
def removeDir (place : Place) : Run Unit :=
  storage (World.onDisk fun d => d.put place none) fun env t =>
    World.onDisk fun d => d.put place ((d.dirs place).bind (env.remains t))

/-- Nothing in it. -/
def Directory.isEmpty (d : Directory) : Bool := d.kv.isNone && d.files.isEmpty

/-- `os.replace` of a data directory. A missing source and a target with something in it are
refused by the system. -/
def replaceDir (source target : Place) : Run Unit := do
  let refused ← read fun _ w => (w.disk.dirs source).isNone ||
    (w.disk.dirs target).any fun d => !d.isEmpty
  match refused with
  | true => raise .os
  | false => atomically (World.onDisk fun d => d.move source target)

/-- `_fsync_directory`. -/
def fsyncDirectory : Run Unit := atomically id

/-- `path.mkdir` of an empty data directory. -/
def makeDir (place : Place) : Run Unit := do
  let t ← read fun _ w => w.tick
  atomically (World.onDisk fun d => d.put place (some ⟨t, none, []⟩))

/-- The files of a directory, its KV document among them. -/
def Directory.fileCount (d : Directory) : Nat := d.files.length + (if d.kv.isSome then 1 else 0)

/-- `_copy_state_tree`. The copy is a new directory with the content of the old one. -/
def copyStateTree (source target : Place) : Run Unit := do
  let exists_ ← dirExists target
  refuseIf (exists_ = true) "integrity-failure" "update state destination already exists"
  makeDir target
  let dir ← read fun _ w => w.disk.dirs source
  match dir with
  | none => fsyncDirectory
  | some dir => do
    let bytes ← read fun env _ => env.stateTreeBytes dir
    refuseIf (dir.fileCount > maxAppStateFiles ∨ bytes > maxAppStateBytes)
      "resource-limit" "app state exceeds the update snapshot bound"
    let into := fun (content : Directory) (d : Disk) =>
      d.put target ((d.dirs target).map fun new => { content with inode := new.inode })
    storage (World.onDisk (into dir)) fun env t =>
      World.onDisk (into ((env.left t dir).getD ⟨0, none, []⟩))
    fsyncDirectory

/-! ## Transaction roots and packages -/

/-- Without a transaction root and the state directories in it. -/
def Disk.removeRoot (d : Disk) (root : RootId) : Disk :=
  { (d.put (.candidate root) none).put (.previous root) none with
    roots := d.roots.filter (· ≠ root) }

/-- `transaction_root.exists()`. -/
def rootExists (root : RootId) : Run Bool := read fun _ w => decide (root ∈ w.disk.roots)

/-- `transaction_root.mkdir`: there is nothing in it. -/
def makeRoot (root : RootId) : Run Unit := do
  let exists_ ← rootExists root
  match exists_ with
  | true => raise .os
  | false => atomically (World.onDisk fun d =>
      { d.removeRoot root with roots := d.roots ++ [root] })

/-- `if transaction_root.exists(): shutil.rmtree(transaction_root)`. -/
def removeRoot (root : RootId) : Run Unit := do
  let exists_ ← rootExists root
  whenTrue (exists_ = true) <|
    storage (World.onDisk fun d => d.removeRoot root) fun env t =>
      World.onDisk fun d =>
        (d.put (.candidate root) ((d.dirs (.candidate root)).bind (env.remains t))).put
          (.previous root) ((d.dirs (.previous root)).bind (env.remains t))

/-- `_remove_package`, and the removal of any other directory of `packages/<app>`. -/
def removePackage (appId name : String) : Run Unit := do
  let exists_ ← read fun _ w => w.disk.packages.contains (appId, name)
  whenTrue (exists_ = true) <|
    storage (World.onDisk fun d => { d with packages := d.packages.erase (appId, name) }) fun _ _ =>
      World.onDisk fun d =>
        match d.packages.get? (appId, name) with
        | some p => { d with packages := d.packages.set (appId, name) { p with intact := false } }
        | none => d

/-! ## Rules -/

section

variable {env : Env} {w : World} {E : Exn → World → Prop} {C : World → Prop}

@[simp] theorem later_saved (w : World) : w.later.saved = w.saved := rfl
@[simp] theorem onDisk_saved (f : Disk → Disk) (w : World) : (w.onDisk f).saved = w.saved := rfl
@[simp] theorem onDisk_mem (f : Disk → Disk) (w : World) : (w.onDisk f).mem = w.mem := rfl
@[simp] theorem onDisk_locals (f : Disk → Disk) (w : World) : (w.onDisk f).locals = w.locals := rfl
@[simp] theorem onMem_disk (f : State → State) (w : World) : (w.onMem f).disk = w.disk := rfl
@[simp] theorem onMem_saved (f : State → State) (w : World) : (w.onMem f).saved = w.saved := rfl
@[simp] theorem onMem_mem (f : State → State) (w : World) : (w.onMem f).mem = f w.mem := rfl
@[simp] theorem onMem_locals (f : State → State) (w : World) : (w.onMem f).locals = w.locals := rfl

theorem get?_onApp (appId k : String) (f : App → App) (s : State) :
    (s.onApp appId f).apps.get? k =
      if k = appId then (s.apps.get? appId).map f else s.apps.get? k := by
  unfold State.onApp
  cases happ : s.apps.get? appId with
  | none =>
    by_cases hk : k = appId
    · rw [if_pos hk, hk, happ, Option.map_none]
    · rw [if_neg hk]
  | some app =>
    dsimp only
    rw [Dict.get?_set]
    by_cases hk : k = appId <;> simp [hk]

theorem get?_onApp_self (appId : String) (f : App → App) (s : State) :
    (s.onApp appId f).apps.get? appId = (s.apps.get? appId).map f := by
  rw [get?_onApp, if_pos rfl]

theorem wp_refuseIf {Q : Unit → World → Prop} {c : Prop} [Decidable c] {code message : String}
    {retryable : Bool} (hE : c → E (.daemon ⟨code, message, retryable⟩) w)
    (hQ : ¬ c → Q () w) : wp (refuseIf c code message retryable) Q E C env w :=
  wp_ite.2 ⟨hE, hQ⟩

theorem wp_whenTrue {Q : Unit → World → Prop} {c : Prop} [Decidable c] {m : Run Unit}
    (hm : c → wp m Q E C env w) (hQ : ¬ c → Q () w) : wp (whenTrue c m) Q E C env w :=
  wp_ite.2 ⟨hm, hQ⟩

theorem wp_writeState {Q : Unit → World → Prop} (hQ : Q () { w.later with saved := w.mem })
    (hE : ¬ env.Quiet → E .os w.later) (hC : ¬ env.Quiet → C w.later) :
    wp writeState Q E C env w :=
  wp_storage hQ hE hC

/-- A line was added, or its number was taken: storage is as it was. -/
structure Logged (w w' : World) : Prop where
  saved : w'.saved = w.saved
  disk : w'.disk = w.disk
  locals : w'.locals = w.locals
  apps : w'.mem.apps = w.mem.apps

theorem wp_appendAudit {Q : Unit → World → Prop} {event principal result : String}
    {appId : Option String} (hQ : ∀ t, Logged w t → Q () t)
    (hE : ∀ t, ¬ env.Quiet → Logged w t → E .os t) (hC : ∀ t, ¬ env.Quiet → Logged w t → C t) :
    wp (appendAudit event principal appId result) Q E C env w := by
  simp only [appendAudit, clock, nextTick, wp_bind, wp_modify, wp_read, wp_pure]
  refine wp_storage (hQ _ ⟨rfl, rfl, rfl, rfl⟩) (fun h => hE _ h ?_) fun h => hC _ h ?_
  all_goals split <;> exact ⟨rfl, rfl, rfl, rfl⟩

end

end Vibapp.Daemon
