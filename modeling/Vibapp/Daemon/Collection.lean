import Vibapp.Daemon.EnableRuns
import Vibapp.Daemon.Frames
import Vibapp.Daemon.Maintenance

/-!
# What the collector leaves

The maintenance of a request removes directories, from a journal that may be older than the
record: it may name a package that an update or a rollback has made current since, or a directory
of another app. What a record refers to is computed again before each removal, so the journal only
proposes.

* `Collects`: every directory that a record refers to, or that belongs to no record, is as it was,
  and the records have changed in their journals only.
* `maintenance_keeps`: wherever the maintenance of a request ends, the document in memory and the
  document on disk refer to directories that are as they were before it.
* `collection_completes`: passes that no fault interrupts leave only what the record refers to.
-/

namespace Vibapp.Daemon

open Prog

/-! ## What a document refers to -/

/-- A record without the journal of the collector. -/
def App.uncollected (app : App) : App := { app with gc := ⟨false, [], none, []⟩ }

/-- The documents have the same records, but for the journals of the collector. -/
def State.Agrees (s t : State) : Prop :=
  ∀ appId, (t.apps.get? appId).map App.uncollected = (s.apps.get? appId).map App.uncollected

theorem State.Agrees.refl (s : State) : s.Agrees s := fun _ => rfl

theorem State.Agrees.symm {s t : State} (h : s.Agrees t) : t.Agrees s := fun appId => (h appId).symm

theorem State.Agrees.trans {s t u : State} (h : s.Agrees t) (h' : t.Agrees u) : s.Agrees u :=
  fun appId => (h' appId).trans (h appId)

/-- A record on one side has its record on the other. -/
theorem State.Agrees.exists {s t : State} (h : s.Agrees t) {appId : String} {app : App}
    (happ : t.apps.get? appId = some app) :
    ∃ app₀, s.apps.get? appId = some app₀ ∧ app₀.uncollected = app.uncollected := by
  have hmap := h appId
  rw [happ, Option.map_some] at hmap
  exact Option.map_eq_some_iff.1 hmap.symm

theorem protectedPackages_congr {a b : App} (h : a.uncollected = b.uncollected) :
    a.protectedPackages = b.protectedPackages := by
  show a.uncollected.protectedPackages = b.uncollected.protectedPackages
  rw [h]

theorem protectedUpdates_congr {a b : App} (h : a.uncollected = b.uncollected) :
    a.protectedUpdates = b.protectedUpdates := by
  show a.uncollected.protectedUpdates = b.uncollected.protectedUpdates
  rw [h]

/-- The record of the app, if there is one, refers to this package. -/
def State.ProtectsPackage (s : State) (appId name : String) : Prop :=
  ∀ app, s.apps.get? appId = some app → name ∈ app.protectedPackages

/-- The record of its app, if there is one, refers to this transaction root. -/
def State.ProtectsRoot (s : State) (root : RootId) : Prop :=
  ∀ app, s.apps.get? root.1 = some app → root ∈ app.protectedUpdates

theorem State.Agrees.protectsPackage {s t : State} (h : s.Agrees t) {appId name : String}
    (hs : s.ProtectsPackage appId name) : t.ProtectsPackage appId name := by
  intro app happ
  obtain ⟨app₀, happ₀, hsame⟩ := h.exists happ
  rw [← protectedPackages_congr hsame]
  exact hs app₀ happ₀

theorem State.Agrees.protectsRoot {s t : State} (h : s.Agrees t) {root : RootId}
    (hs : s.ProtectsRoot root) : t.ProtectsRoot root := by
  intro app happ
  obtain ⟨app₀, happ₀, hsame⟩ := h.exists happ
  rw [← protectedUpdates_congr hsame]
  exact hs app₀ happ₀

/-- Whatever the document refers to, and whatever belongs to no record of it, is the same on both
disks; nothing is made, and data directories in use are not touched. -/
structure State.Keeps (s : State) (d d' : Disk) : Prop where
  package : ∀ appId name, s.ProtectsPackage appId name →
    d'.packages.get? (appId, name) = d.packages.get? (appId, name)
  root : ∀ root, s.ProtectsRoot root → (root ∈ d'.roots ↔ root ∈ d.roots)
  candidate : ∀ root, s.ProtectsRoot root → d'.dirs (.candidate root) = d.dirs (.candidate root)
  previous : ∀ root, s.ProtectsRoot root → d'.dirs (.previous root) = d.dirs (.previous root)
  active : ∀ appId, d'.dirs (.active appId) = d.dirs (.active appId)
  retained : ∀ archive, d'.dirs (.retained archive) = d.dirs (.retained archive)
  noPackage : ∀ k, d.packages.get? k = none → d'.packages.get? k = none
  noRoot : ∀ root ∈ d'.roots, root ∈ d.roots

theorem State.Keeps.refl (s : State) (d : Disk) : s.Keeps d d :=
  ⟨fun _ _ _ => rfl, fun _ _ => Iff.rfl, fun _ _ => rfl, fun _ _ => rfl, fun _ => rfl, fun _ => rfl,
    fun _ h => h, fun _ h => h⟩

theorem State.Keeps.trans {s : State} {d₁ d₂ d₃ : Disk} (h : s.Keeps d₁ d₂) (h' : s.Keeps d₂ d₃) :
    s.Keeps d₁ d₃ where
  package appId name hp := (h'.package appId name hp).trans (h.package appId name hp)
  root r hr := (h'.root r hr).trans (h.root r hr)
  candidate r hr := (h'.candidate r hr).trans (h.candidate r hr)
  previous r hr := (h'.previous r hr).trans (h.previous r hr)
  active appId := (h'.active appId).trans (h.active appId)
  retained archive := (h'.retained archive).trans (h.retained archive)
  noPackage k hk := h'.noPackage k (h.noPackage k hk)
  noRoot r hr := h.noRoot r (h'.noRoot r hr)

theorem State.Keeps.congr {s t : State} {d d' : Disk} (h : s.Keeps d d') (hst : t.Agrees s) :
    t.Keeps d d' where
  package appId name hp := h.package appId name (hst.protectsPackage hp)
  root r hr := h.root r (hst.protectsRoot hr)
  candidate r hr := h.candidate r (hst.protectsRoot hr)
  previous r hr := h.previous r (hst.protectsRoot hr)
  active := h.active
  retained := h.retained
  noPackage := h.noPackage
  noRoot := h.noRoot

/-- The collector ran: records changed in their journals only, what is saved is the document of
before or agrees with the one in memory, and the disk keeps what the document refers to. -/
structure Collects (w w' : World) : Prop where
  mem : w.mem.Agrees w'.mem
  saved : w.mem.Agrees w.saved → w.mem.Agrees w'.saved
  disk : w.mem.Keeps w.disk w'.disk

theorem frame_collects : Frame Collects where
  refl _ := ⟨.refl _, id, .refl _ _⟩
  trans h h' := {
    mem := h.mem.trans h'.mem
    saved := fun hs => h.mem.trans (h'.saved (h.mem.symm.trans (h.saved hs)))
    disk := h.disk.trans (h'.disk.congr h.mem) }

/-! ## One target -/

section

variable {env : Env}

theorem collects_later (w : World) : Collects w w.later := ⟨.refl _, id, .refl _ _⟩

theorem within_collects_modifyGc (appId : String) (f : GcRecord → GcRecord) :
    Within Collects env (modifyGc appId f) := by
  refine within_modify fun w => ⟨?_, id, .refl _ _⟩
  intro k
  rw [onMem_mem, get?_onApp]
  by_cases hk : k = appId
  · rw [if_pos hk, hk, Option.map_map]
    rfl
  · rw [if_neg hk]

theorem within_collects_writeState : Within Collects env writeState :=
  within_storage frame_collects collects_later
    (fun _ => ⟨.refl _, fun _ => .refl _, .refl _ _⟩)
    fun _ w => frame_collects.refl w

theorem within_collects_clock : Within Collects env clock :=
  ((within_read frame_collects _).bind frame_collects fun _ =>
    (within_modify collects_later).bind frame_collects fun _ =>
      within_pure frame_collects _).bind frame_collects fun _ => within_read frame_collects _

/-! ## The inventory -/

/-- The names under `packages/<app>`, in order. -/
def Disk.packagesOf (d : Disk) (appId : String) : List String :=
  ((d.packages.keys.filter fun k => k.1 = appId).map Prod.snd).insertionSort (· ≤ ·)

/-- The roots under `updates/<app>`, in order. -/
def Disk.updatesOf (d : Disk) (appId : String) : List RootId :=
  (d.roots.filter fun root => root.1 = appId).insertionSort fun a b => a.2 ≤ b.2

/-- The directories of an app that its record does not refer to. -/
def Disk.garbage (d : Disk) (appId : String) (app : App) : List GcTarget :=
  ((d.packagesOf appId).filter (· ∉ app.protectedPackages)).map (GcTarget.package appId) ++
    ((d.updatesOf appId).filter (· ∉ app.protectedUpdates)).map GcTarget.update

/-- The collector lists so many directories. -/
structure Disk.Bounded (d : Disk) (appId : String) : Prop where
  packages : (d.packagesOf appId).length ≤ maxPackageFiles
  updates : (d.updatesOf appId).length ≤ maxUpdateHistory + maxGcDeletionsPerPass

/-- The collector lists the garbage, or refuses. -/
theorem wp_generationGcTargets {w : World} {appId : String} {app : App}
    {Q : List GcTarget → World → Prop} {E : Exn → World → Prop} {C : World → Prop}
    (hE : ¬ w.disk.Bounded appId → ∀ e, E e w)
    (hQ : w.disk.Bounded appId → Q (w.disk.garbage appId app) w) :
    wp (generationGcTargets appId app) Q E C env w := by
  simp only [generationGcTargets, wp_bind, wp_read]
  refine wp_refuseIf (fun h => hE (fun hb => ?_) _) fun hpackages => ?_
  · exact absurd hb.packages (Nat.not_le.2 h)
  · refine wp_refuseIf (fun h => hE (fun hb => ?_) _) fun hupdates => ?_
    · exact absurd hb.updates (Nat.not_le.2 h)
    · exact hQ ⟨Nat.not_lt.1 hpackages, Nat.not_lt.1 hupdates⟩

theorem mem_packagesOf {d : Disk} {appId name : String} :
    name ∈ d.packagesOf appId ↔ d.packages.contains (appId, name) = true := by
  rw [Dict.contains_eq_true_iff, ← Dict.mem_keys_iff]
  simp [Disk.packagesOf, List.mem_insertionSort]

theorem mem_updatesOf {d : Disk} {appId : String} {root : RootId} :
    root ∈ d.updatesOf appId ↔ root ∈ d.roots ∧ root.1 = appId := by
  simp [Disk.updatesOf, List.mem_insertionSort]

theorem package_mem_garbage {d : Disk} {appId : String} {app : App} {a name : String} :
    .package a name ∈ d.garbage appId app ↔
      a = appId ∧ d.packages.contains (appId, name) = true ∧ name ∉ app.protectedPackages := by
  simp only [Disk.garbage, List.mem_append, List.mem_map, List.mem_filter, mem_packagesOf]
  simp
  grind

theorem update_mem_garbage {d : Disk} {appId : String} {app : App} {root : RootId} :
    .update root ∈ d.garbage appId app ↔
      root.1 = appId ∧ root ∈ d.roots ∧ root ∉ app.protectedUpdates := by
  simp only [Disk.garbage, List.mem_append, List.mem_map, List.mem_filter, mem_updatesOf]
  simp
  grind

theorem not_mem_garbage {d : Disk} {appId : String} {app : App} :
    .malformed ∉ d.garbage appId app ∧ .escaped ∉ d.garbage appId app := by
  constructor <;> simp [Disk.garbage]

theorem not_protectsPackage {s : State} {appId name : String} {app : App}
    (happ : s.apps.get? appId = some app) (h : name ∉ app.protectedPackages) :
    ¬ s.ProtectsPackage appId name :=
  fun hp => h (hp app happ)

theorem not_protectsRoot {s : State} {root : RootId} {app : App}
    (happ : s.apps.get? root.1 = some app) (h : root ∉ app.protectedUpdates) :
    ¬ s.ProtectsRoot root :=
  fun hp => h (hp app happ)

/-! ## Removals -/

/-- Only one package has changed, and it was there. -/
theorem keeps_of_package {s : State} {d d' : Disk} {k : String × String}
    (hk : ¬ s.ProtectsPackage k.1 k.2) (hthere : d.packages.get? k ≠ none)
    (hpackages : ∀ k', k' ≠ k → d'.packages.get? k' = d.packages.get? k')
    (hroots : d'.roots = d.roots) (hdirs : d'.dirs = d.dirs) : s.Keeps d d' where
  package appId name hp := by
    refine hpackages _ fun h => hk ?_
    rw [← h]
    exact hp
  root r _ := by rw [hroots]
  candidate r _ := by rw [hdirs]
  previous r _ := by rw [hdirs]
  active _ := by rw [hdirs]
  retained _ := by rw [hdirs]
  noPackage k' h := by
    rw [hpackages k' fun hk' => hthere (hk' ▸ h)]
    exact h
  noRoot r h := by rwa [hroots] at h

/-- Only one transaction root has changed. -/
theorem keeps_of_root {s : State} {d d' : Disk} {root : RootId} (hroot : ¬ s.ProtectsRoot root)
    (hpackages : d'.packages = d.packages)
    (hroots : ∀ r, r ≠ root → (r ∈ d'.roots ↔ r ∈ d.roots)) (hnew : ∀ r ∈ d'.roots, r ∈ d.roots)
    (hdirs : ∀ p, p ≠ .candidate root → p ≠ .previous root → d'.dirs p = d.dirs p) :
    s.Keeps d d' := by
  have hne : ∀ r, s.ProtectsRoot r → r ≠ root := fun r hr h => hroot (h ▸ hr)
  refine ⟨fun _ _ _ => by rw [hpackages], fun r hr => hroots r (hne r hr), ?_, ?_, ?_, ?_,
    fun k hk => by rwa [hpackages], hnew⟩
  · intro r hr
    exact hdirs _ (fun h => hne r hr (Place.candidate.inj h)) nofun
  · intro r hr
    exact hdirs _ nofun fun h => hne r hr (Place.previous.inj h)
  · exact fun _ => hdirs _ nofun nofun
  · exact fun _ => hdirs _ nofun nofun

theorem collects_onDisk {w : World} {f : Disk → Disk} (h : w.mem.Keeps w.disk (f w.disk)) :
    Collects w (w.later.onDisk f) :=
  ⟨.refl _, id, h⟩

theorem dirs_put_put {d : Disk} {root : RootId} (a b : Option Directory) {p : Place}
    (hc : p ≠ .candidate root) (hp : p ≠ .previous root) :
    ((d.put (.candidate root) a).put (.previous root) b).dirs p = d.dirs p := by
  rw [Disk.dirs_put_of_ne _ hp, Disk.dirs_put_of_ne _ hc]

/-- Wherever the removal of a listed directory ends, the rest is as it was. -/
theorem wp_collects_removeTarget {w : World} {appId : String} {app : App} {target : GcTarget}
    (happ : w.mem.apps.get? appId = some app) (htarget : target ∈ w.disk.garbage appId app) :
    wp (removeTarget target) (fun _ => Collects w) (fun _ => Collects w) (Collects w) env w := by
  cases target with
  | malformed => exact absurd htarget not_mem_garbage.1
  | escaped => exact absurd htarget not_mem_garbage.2
  | package a name =>
    obtain ⟨rfl, hthere, hname⟩ := package_mem_garbage.1 htarget
    have hfree := not_protectsPackage happ hname
    have hsome : w.disk.packages.get? (a, name) ≠ none := by
      obtain ⟨p, hp⟩ := Dict.contains_eq_true_iff.1 hthere
      rw [hp]
      nofun
    simp only [removeTarget, removePackage, wp_bind, wp_read]
    refine wp_whenTrue (fun _ => wp_storage ?_ (fun _ => ?_) fun _ => ?_)
      fun _ => frame_collects.refl w
    · exact collects_onDisk (keeps_of_package hfree hsome (fun k hk => Dict.get?_erase_ne _ hk) rfl
        rfl)
    all_goals
      refine collects_onDisk (keeps_of_package hfree hsome (fun k hk => ?_) ?_ ?_)
      · split
        · exact Dict.get?_set_ne _ hk _
        · rfl
      · split <;> rfl
      · split <;> rfl
  | update root =>
    obtain ⟨rfl, -, hroot⟩ := update_mem_garbage.1 htarget
    have hfree := not_protectsRoot happ hroot
    simp only [removeTarget, removeRoot, rootExists, wp_bind, wp_read]
    refine wp_whenTrue (fun _ => wp_storage ?_ (fun _ => ?_) fun _ => ?_)
      fun _ => frame_collects.refl w
    · refine collects_onDisk (keeps_of_root hfree rfl (fun r hr => ?_) (fun r hr => ?_)
        fun p hc hp => dirs_put_put none none hc hp)
      · simp [Disk.removeRoot, hr]
      · exact List.mem_of_mem_filter hr
    all_goals
      exact collects_onDisk (keeps_of_root hfree rfl (fun _ _ => Iff.rfl) (fun _ h => h)
        fun p hc hp => dirs_put_put _ _ hc hp)

/-! ## The journal -/

theorem within_collects_injectUpdateFault (phase : String) :
    Within Collects env (injectUpdateFault phase) :=
  (within_read frame_collects _).bind frame_collects fun _ =>
    Within.ite (fun _ => within_raise frame_collects _) fun _ => within_pure frame_collects _

/-- An entry of the journal is removed only if the record of this moment does not refer to it. -/
theorem within_collectTarget (appId : String) (target : GcTarget) :
    Within Collects env (collectTarget appId target) := by
  have hframe := frame_collects
  intro w
  unfold collectTarget
  split
  · exact hframe.refl w
  · exact hframe.refl w
  · simp only [getApp, wp_bind, wp_read]
    cases happ : w.mem.apps.get? appId with
    | none => exact hframe.refl w
    | some app =>
      -- The journal proposes; the inventory is the one of this moment.
      refine wp_generationGcTargets (fun _ _ => hframe.refl w) fun _ => ?_
      refine wp_ite.2 ⟨fun htarget => ?_, fun _ => hframe.refl w⟩
      refine wp_seq (wp_collects_removeTarget happ htarget) fun _ t ht => ?_
      refine Within.wp ((within_collects_injectUpdateFault _).bind hframe fun _ => ?_)
        fun u hu => hframe.trans ht hu
      exact within_pure hframe _

theorem within_collectPending (appId : String) (pending removed : List GcTarget) :
    Within Collects env (collectPending appId pending removed) := by
  have hframe := frame_collects
  induction pending generalizing removed with
  | nil => exact within_pure hframe _
  | cons target rest ih =>
    refine (within_collectTarget appId target).bind hframe fun gone => ?_
    refine (within_collects_modifyGc appId _).bind hframe fun _ => ?_
    exact within_collects_writeState.bind hframe fun _ => ih _

theorem within_finishCollection (appId : String) (pending : List GcTarget) :
    Within Collects env (finishCollection appId pending) := by
  have hframe := frame_collects
  refine within_collects_clock.bind hframe fun _ => ?_
  refine (within_collectPending appId pending []).bind hframe fun _ => ?_
  exact (within_collects_modifyGc appId _).bind hframe fun _ => within_collects_writeState

/-- **A collection removes nothing that a record refers to**, whatever its journal holds, and
wherever it fails or is cut off. -/
theorem within_garbageCollectApp (appId : String) :
    Within Collects env (garbageCollectApp appId) := by
  have hframe := frame_collects
  intro w
  simp only [garbageCollectApp, getApp, wp_bind, wp_read]
  cases happ : w.mem.apps.get? appId with
  | none => exact hframe.refl w
  | some app =>
    refine wp_ite.2 ⟨fun _ => ?_, fun _ => ?_⟩
    · exact ((within_finishCollection appId _).bind hframe fun _ => within_pure hframe _) w
    · refine wp_bind.2 (wp_generationGcTargets (fun _ _ => hframe.refl w) fun _ => ?_)
      refine wp_ite.2 ⟨fun _ => wp_ite.2 ⟨fun _ => ?_, fun _ => hframe.refl w⟩, fun _ => ?_⟩
      · exact ((within_collects_modifyGc appId _).bind hframe fun _ => within_pure hframe _) w
      · refine ((within_collects_modifyGc appId _).bind hframe fun _ => ?_) w
        refine within_collects_writeState.bind hframe fun _ => ?_
        exact (within_finishCollection appId _).bind hframe fun _ => within_pure hframe _

/-! ## The maintenance of a request -/

/-- Storage is as it was. -/
structure Stored (w w' : World) : Prop where
  saved : w'.saved = w.saved
  disk : w'.disk = w.disk

theorem frame_stored : Frame Stored where
  refl _ := ⟨rfl, rfl⟩
  trans h h' := ⟨h'.saved.trans h.saved, h'.disk.trans h.disk⟩

/-- Storage is as it was, and so are the records unless the answer is that they have changed. -/
def Refreshed (w : World) (changed : Bool) (w' : World) : Prop :=
  Stored w w' ∧ (changed = false → w'.mem.apps = w.mem.apps)

/-- Nothing of the document or of storage has changed. -/
abbrev Same : World → World → Prop := Guests (fun _ => False) fun s t => t = s

theorem frame_same : Frame Same := frame_guests frame_eq

theorem stored_of_same {w w' : World} (h : Same w w') : Stored w w' := by
  have hdirs : w'.disk.dirs = w.disk.dirs := funext fun p => h.dirs p id
  have heq : ∀ d d' : Disk, d'.packages = d.packages → d'.roots = d.roots → d'.dirs = d.dirs →
      d' = d := by
    rintro ⟨_, _, _⟩ ⟨_, _, _⟩ rfl rfl rfl
    rfl
  exact ⟨h.saved, heq _ _ h.packages h.roots hdirs⟩

theorem refreshed_of_same {w w' : World} (h : Same w w') : Refreshed w false w' :=
  ⟨stored_of_same h, fun _ => by rw [h.mem]⟩

/-- A step that changes nothing, before the rest. -/
theorem wp_same {α : Type} {m : Run α} {w t : World} {Q : α → World → Prop}
    (hm : Within Same env m) (ht : Same w t) (hQ : ∀ a u, Same w u → Q a u) :
    wp m Q (fun _ => Stored w) (Stored w) env t :=
  (hm t).mono (fun a _ h => hQ a _ (frame_same.trans ht h))
    (fun _ _ h => stored_of_same (frame_same.trans ht h))
    fun _ h => stored_of_same (frame_same.trans ht h)

theorem wp_ensureAppUpdateMetadata (host : Host) (appId : String) (w : World) :
    wp (ensureAppUpdateMetadata host appId) (Refreshed w) (fun _ => Stored w) (Stored w) env w := by
  have hM := frame_eq (σ := State)
  refine wp_bind.2 (wp_same (within_getApp hM appId) (frame_same.refl w) fun app t ht => ?_)
  refine wp_bind.2 (wp_same (within_installedManifest hM appId _) ht fun manifest u hu => ?_)
  refine wp_bind.2 (wp_same (within_check hM _) hu fun entrypoints v hv => ?_)
  cases entrypoints with
  | none => exact refreshed_of_same hv
  | some entrypoints => exact ⟨⟨hv.saved, (stored_of_same hv).disk⟩, nofun⟩

theorem wp_expireObservationWindow (appId : String) (w : World) :
    wp (expireObservationWindow appId) (Refreshed w) (fun _ => Stored w) (Stored w) env w := by
  have hM := frame_eq (σ := State)
  refine wp_bind.2 (wp_same (within_getApp hM appId) (frame_same.refl w) fun app t ht => ?_)
  refine wp_ite.2 ⟨fun _ => ?_, fun _ => refreshed_of_same ht⟩
  cases app.update.previous with
  | none => exact stored_of_same ht
  | some rollback =>
    cases app.update.lastTransaction with
    | none => exact stored_of_same ht
    | some transaction =>
      refine wp_bind.2 (wp_same (within_refuseIf hM _ _ _ _) ht fun _ u hu => ?_)
      refine wp_bind.2 (wp_same (within_clock hM) hu fun now v hv => ?_)
      refine wp_ite.2 ⟨fun _ => refreshed_of_same hv, fun _ => ?_⟩
      have hstored := stored_of_same hv
      refine wp_modify_bind.2 (wp_bind.2 (wp_appendAudit (fun x hx => ?_) (fun x _ hx => ?_)
        fun x _ hx => ?_))
      · exact ⟨⟨hx.saved.trans hstored.saved, hx.disk.trans hstored.disk⟩, nofun⟩
      · exact ⟨hx.saved.trans hstored.saved, hx.disk.trans hstored.disk⟩
      · exact ⟨hx.saved.trans hstored.saved, hx.disk.trans hstored.disk⟩

/-- Bringing the records up to date changes no storage, and reports every change. -/
theorem wp_refreshRecords (host : Host) (apps : List String) (w : World) :
    wp (refreshRecords host apps) (Refreshed w) (fun _ => Stored w) (Stored w) env w := by
  induction apps generalizing w with
  | nil => exact ⟨frame_stored.refl w, fun _ => rfl⟩
  | cons appId rest ih =>
    refine wp_seq (wp_ensureAppUpdateMetadata host appId w) fun metadata t ht => ?_
    refine wp_bind.2 ((wp_expireObservationWindow appId t).mono (fun expired u hu => ?_)
      (fun _ u hu => frame_stored.trans ht.1 hu) fun u hu => frame_stored.trans ht.1 hu)
    have hstored := frame_stored.trans ht.1 hu.1
    refine wp_bind.2 ((ih u).mono (fun others v hv => ?_)
      (fun _ v hv => frame_stored.trans hstored hv) fun v hv => frame_stored.trans hstored hv)
    refine ⟨frame_stored.trans hstored hv.1, fun hchanged => ?_⟩
    simp only [Bool.or_eq_false_iff] at hchanged
    rw [hv.2 hchanged.2, hu.2 hchanged.1.2, ht.2 hchanged.1.1]

/-- Both documents refer to directories that are as they were before. -/
def Safe (w w' : World) : Prop :=
  w'.mem.Keeps w.disk w'.disk ∧ w'.saved.Keeps w.disk w'.disk

theorem safe_of_stored {w w' : World} (h : Stored w w') : Safe w w' := by
  unfold Safe
  rw [h.disk]
  exact ⟨.refl _ _, .refl _ _⟩

/-- A collection from a document that is on disk is safe. -/
theorem safe_of_collects {w t u : World} (hstored : t.disk = w.disk) (hsaved : t.mem.Agrees t.saved)
    (h : Collects t u) : Safe w u := by
  unfold Safe
  rw [← hstored]
  exact ⟨h.disk.congr h.mem.symm, h.disk.congr (h.saved hsaved).symm⟩

/-- **The maintenance of a request is safe**: wherever it ends, the document in memory and the one
on disk refer to directories that are as they were before it. -/
theorem maintenance_keeps (host : Host) (env : Env) (w : World) (hloaded : w.mem = w.saved) :
    Safe w (maintain host env w).2 := by
  refine wp.last (wp_read_bind.2 ?_)
  refine wp_bind.2 ((wp_refreshRecords host _ w).mono (fun changed t ht => ?_)
    (fun _ t ht => safe_of_stored ht) fun t ht => safe_of_stored ht)
  have hcollect : ∀ u : World, u.disk = w.disk → u.mem.Agrees u.saved →
      wp (each (fun appId => do let _ ← garbageCollectApp appId; pure ())
        (w.mem.apps.keys.insertionSort (· ≤ ·))) (fun _ => Safe w) (fun _ => Safe w) (Safe w)
        env u := by
    intro u hdisk hagrees
    refine Within.wp (within_each frame_collects fun appId _ => ?_)
      fun v hv => safe_of_collects hdisk hagrees hv
    exact (within_garbageCollectApp appId).bind frame_collects fun _ =>
      within_pure frame_collects ()
  refine wp_bind.2 (wp_whenTrue (fun _ => ?_) fun hchanged => ?_)
  · refine wp_writeState (hcollect _ ht.1.disk (.refl _)) (fun _ => ?_) fun _ => ?_
    · exact safe_of_stored ⟨ht.1.saved, ht.1.disk⟩
    · exact safe_of_stored ⟨ht.1.saved, ht.1.disk⟩
  -- With no change reported, the document in memory is still the one on disk.
  · refine hcollect t ht.1.disk fun appId => ?_
    rw [ht.2 (Bool.eq_false_iff.2 hchanged), ht.1.saved, hloaded]

/-! ## Passes that no fault interrupts -/

/-- A removal makes an inventory shorter, and keeps its order. -/
structure Disk.Shrinks (d d' : Disk) : Prop where
  packages : d'.packages.keys.Sublist d.packages.keys
  roots : d'.roots.Sublist d.roots

theorem Disk.Shrinks.bounded {d d' : Disk} (h : d.Shrinks d') {appId : String}
    (hb : d.Bounded appId) : d'.Bounded appId := by
  refine ⟨le_trans ?_ hb.packages, le_trans ?_ hb.updates⟩
  · simp only [Disk.packagesOf, List.length_insertionSort, List.length_map]
    exact (h.packages.filter _).length_le
  · simp only [Disk.updatesOf, List.length_insertionSort]
    exact (h.roots.filter _).length_le

/-- The listed directory is gone, and nothing else that the collector lists. -/
structure Disk.Removed (target : GcTarget) (d d' : Disk) : Prop where
  shrinks : d.Shrinks d'
  garbage : ∀ appId app y, y ∈ d'.garbage appId app ↔ y ∈ d.garbage appId app ∧ y ≠ target

theorem mem_garbage_iff {d d' : Disk} {appId : String} {app : App} {target : GcTarget}
    (hpackages : ∀ name, .package appId name ≠ target →
      d'.packages.contains (appId, name) = d.packages.contains (appId, name))
    (hpackage : ∀ name, .package appId name = target → d'.packages.contains (appId, name) = false)
    (hroots : ∀ root, root.1 = appId →
      (root ∈ d'.roots ↔ root ∈ d.roots ∧ .update root ≠ target)) (y : GcTarget) :
    y ∈ d'.garbage appId app ↔ y ∈ d.garbage appId app ∧ y ≠ target := by
  cases y with
  | malformed => simp [not_mem_garbage.1]
  | escaped => simp [not_mem_garbage.2]
  | package a name =>
    rw [package_mem_garbage, package_mem_garbage]
    by_cases h : GcTarget.package appId name = target
    · rw [hpackage name h]
      grind
    · rw [hpackages name h]
      grind
  | update root =>
    rw [update_mem_garbage, update_mem_garbage]
    grind

theorem removed_package (d : Disk) (appId name : String) :
    Disk.Removed (.package appId name) d { d with packages := d.packages.erase (appId, name) } := by
  refine ⟨⟨?_, .refl _⟩, fun b app => ?_⟩
  · exact List.Sublist.map _ List.filter_sublist
  · refine mem_garbage_iff (fun other h => ?_) (fun other h => ?_) fun root _ => ?_
    · have hne : (b, other) ≠ (appId, name) := by
        intro heq
        cases heq
        exact h rfl
      simp [Dict.contains, Dict.get?_erase_ne _ hne]
    · cases h
      simp [Dict.contains]
    · simp

theorem removed_root (d : Disk) (root : RootId) :
    Disk.Removed (.update root) d (d.removeRoot root) := by
  refine ⟨⟨.refl _, List.filter_sublist⟩, fun b app => ?_⟩
  refine mem_garbage_iff (fun _ _ => rfl) (fun _ h => ?_) fun r _ => ?_
  · cases h
  · simp [Disk.removeRoot]

/-- With no fault, a listed directory is removed. -/
theorem finishes_removeTarget (hquiet : env.Quiet) {w : World} {appId : String} {app : App}
    {target : GcTarget} (htarget : target ∈ w.disk.garbage appId app) :
    Finishes (removeTarget target)
      (fun _ t => t.mem = w.mem ∧ w.disk.Removed target t.disk) env w := by
  cases target with
  | malformed => exact absurd htarget not_mem_garbage.1
  | escaped => exact absurd htarget not_mem_garbage.2
  | package a name =>
    obtain ⟨rfl, hthere, -⟩ := package_mem_garbage.1 htarget
    simp only [removeTarget, removePackage, Finishes, wp_bind, wp_read]
    exact wp_whenTrue (fun _ => wp_storage ⟨rfl, removed_package _ _ _⟩
      (fun h => h hquiet) fun h => h hquiet) fun h => absurd hthere h
  | update root =>
    obtain ⟨rfl, hroot, -⟩ := update_mem_garbage.1 htarget
    simp only [removeTarget, removeRoot, rootExists, Finishes, wp_bind, wp_read]
    exact wp_whenTrue (fun _ => wp_storage ⟨rfl, removed_root _ _⟩
      (fun h => h hquiet) fun h => h hquiet) fun h => absurd (decide_eq_true hroot) h

/-- A journal entry that a collection wrote. -/
def GcTarget.Proper (target : GcTarget) : Prop := target ≠ .malformed ∧ target ≠ .escaped

/-- No journal is open. -/
def GcRecord.Idle (gc : GcRecord) : Prop := gc.inProgress = false ∧ gc.pending = []

/-- The record is `app` with a journal in `J`, and of the garbage of `d` only what is in `gone` is
no longer there. -/
structure Passing (appId : String) (app : App) (d : Disk) (J : GcRecord → Prop)
    (gone : List GcTarget) (w : World) : Prop where
  record : ∃ gc, J gc ∧ w.mem.apps.get? appId = some { app with gc := gc }
  shrinks : d.Shrinks w.disk
  garbage : ∀ y, y ∈ w.disk.garbage appId app ↔ y ∈ d.garbage appId app ∧ y ∉ gone

theorem garbage_gc (d : Disk) (appId : String) (app : App) (gc : GcRecord) :
    d.garbage appId { app with gc := gc } = d.garbage appId app := rfl

section

variable {appId : String} {app : App} {d : Disk} {J J' : GcRecord → Prop} {gone : List GcTarget}
  {w : World}

theorem Passing.journal (h : Passing appId app d J gone w) {f : GcRecord → GcRecord}
    (hf : ∀ gc, J gc → J' (f gc)) :
    Passing appId app d J' gone
      (w.onMem (State.onApp appId fun app => { app with gc := f app.gc })) := by
  obtain ⟨gc, hJ, hgc⟩ := h.record
  refine ⟨⟨f gc, hf gc hJ, ?_⟩, h.shrinks, h.garbage⟩
  rw [onMem_mem, get?_onApp_self, hgc]
  rfl

theorem finishes_writeState (hquiet : env.Quiet) {Q : Unit → World → Prop}
    (hQ : Q () { w.later with saved := w.mem }) : Finishes writeState Q env w :=
  wp_writeState hQ (fun h => h hquiet) fun h => h hquiet

/-- The journal is changed and written out. -/
theorem Passing.written (hquiet : env.Quiet) (h : Passing appId app d J gone w)
    (f : GcRecord → GcRecord) (J' : GcRecord → Prop) (hf : ∀ gc, J gc → J' (f gc)) {α : Type}
    {m : Run α} {Q : α → World → Prop}
    (hQ : ∀ t, Passing appId app d J' gone t → Finishes m Q env t) :
    Finishes (do modifyGc appId f; writeState; m) Q env w := by
  have hnext := h.journal hf
  refine wp_modify_bind.2 (wp_bind.2 (finishes_writeState hquiet (hQ _ ?_)))
  exact ⟨hnext.record, hnext.shrinks, hnext.garbage⟩

variable (hquiet : env.Quiet) (hfault : env.updateFault ≠ some "during-gc")
  (hbound : d.Bounded appId)

include hquiet hfault hbound

theorem finishes_collectTarget {target : GcTarget} (htarget : target.Proper)
    (h : Passing appId app d J gone w) :
    Finishes (collectTarget appId target) (fun _ => Passing appId app d J (target :: gone)) env
      w := by
  obtain ⟨gc, hJ, hgc⟩ := h.record
  unfold collectTarget
  split
  · exact absurd rfl htarget.1
  · exact absurd rfl htarget.2
  · simp only [getApp, Finishes, wp_bind, wp_read, hgc, wp_pure]
    refine wp_generationGcTargets (fun hb => absurd (h.shrinks.bounded hbound) hb) fun _ => ?_
    rw [garbage_gc]
    refine wp_ite.2 ⟨fun hmem => ?_, fun hmem => ⟨⟨gc, hJ, hgc⟩, h.shrinks, fun y => ?_⟩⟩
    · refine wp_seq (finishes_removeTarget hquiet hmem) fun _ t ht => ?_
      simp only [injectUpdateFault, wp_bind, wp_read]
      refine wp_refuseIf (fun hf => absurd hf hfault) fun _ => ⟨⟨gc, hJ, ?_⟩, ?_, fun y => ?_⟩
      · rw [ht.1, hgc]
      · exact ⟨ht.2.shrinks.packages.trans h.shrinks.packages,
          ht.2.shrinks.roots.trans h.shrinks.roots⟩
      · rw [ht.2.garbage, h.garbage]
        grind
    · have hy : y = target → y ∉ w.disk.garbage appId app := fun hy => hy ▸ hmem
      have := h.garbage y
      grind

/-- The journal is worked off entry by entry. -/
theorem finishes_collectPending (pending removed : List GcTarget)
    (hpending : ∀ target ∈ pending, target.Proper)
    (h : Passing appId app d (fun gc => gc.pending = pending) gone w) :
    Finishes (collectPending appId pending removed)
      (fun _ => Passing appId app d (fun gc => gc.pending = []) (pending.reverse ++ gone)) env
      w := by
  induction pending generalizing removed gone w with
  | nil => exact h
  | cons target rest ih =>
    rw [List.reverse_cons, List.append_assoc, List.singleton_append]
    have htarget := hpending target List.mem_cons_self
    refine wp_seq (finishes_collectTarget hquiet hfault hbound htarget h) fun _ t ht => ?_
    refine ht.written hquiet (fun gc => { gc with pending := rest }) (fun gc => gc.pending = rest)
      (fun _ _ => rfl) fun u hu => ?_
    exact ih _ (fun y hy => hpending y (List.mem_cons_of_mem _ hy)) hu

theorem finishes_finishCollection {pending : List GcTarget}
    (hpending : ∀ target ∈ pending, target.Proper)
    (h : Passing appId app d (fun gc => gc.pending = pending) gone w) :
    Finishes (finishCollection appId pending)
      (fun _ => Passing appId app d GcRecord.Idle (pending.reverse ++ gone)) env w := by
  simp only [finishCollection, clock, nextTick, Finishes, wp_bind, wp_read, wp_modify, wp_pure]
  have hlater : Passing appId app d (fun gc => gc.pending = pending) gone w.later :=
    ⟨h.record, h.shrinks, h.garbage⟩
  refine (finishes_collectPending hquiet hfault hbound pending [] hpending hlater).mono_done ?_
  intro removed t ht
  have hidle : ∀ gc : GcRecord, gc.pending = [] → GcRecord.Idle { gc with
      inProgress := false
      lastCompletedAtUtc := some (env.clock w.tick)
      lastRemoved := removed } := fun gc hgc => ⟨rfl, hgc⟩
  have hnext := ht.journal hidle
  exact finishes_writeState hquiet ⟨hnext.record, hnext.shrinks, hnext.garbage⟩

/-- What one pass takes: an open journal, or else the first directories of the inventory. -/
def App.takes (app : App) (d : Disk) (appId : String) : List GcTarget :=
  if app.gc.inProgress = true ∧ app.gc.pending ≠ [] then app.gc.pending
  else (d.garbage appId app).take maxGcDeletionsPerPass

omit hquiet hfault hbound in
theorem proper_of_mem_garbage {target : GcTarget} (h : target ∈ d.garbage appId app) :
    target.Proper :=
  ⟨fun hm => not_mem_garbage.1 (hm ▸ h), fun he => not_mem_garbage.2 (he ▸ h)⟩

/-- **One pass** closes the journal and takes what it is to take. -/
theorem finishes_garbageCollectApp (happ : w.mem.apps.get? appId = some app)
    (hjournal : ∀ target ∈ app.gc.pending, target.Proper) (hdisk : w.disk = d) :
    Finishes (garbageCollectApp appId)
      (fun _ => Passing appId app d GcRecord.Idle (app.takes d appId).reverse) env w := by
  have hstart : ∀ J : GcRecord → Prop, J app.gc → Passing appId app d J [] w := fun J hJ =>
    ⟨⟨app.gc, hJ, happ⟩, hdisk ▸ ⟨.refl _, .refl _⟩, fun y => by simp [hdisk]⟩
  simp only [garbageCollectApp, getApp, Finishes, wp_bind, wp_read, happ, wp_pure]
  refine wp_ite.2 ⟨fun hopen => ?_, fun hclosed => ?_⟩
  · rw [App.takes, if_pos hopen, ← List.append_nil (List.reverse _)]
    refine wp_bind.2 ((finishes_finishCollection hquiet hfault hbound hjournal
      (hstart _ rfl)).mono_done fun _ t ht => ?_)
    exact ht
  · rw [App.takes, if_neg hclosed, ← List.append_nil (List.reverse _)]
    refine wp_bind.2 (wp_generationGcTargets (fun hb => absurd hbound (hdisk ▸ hb)) fun _ => ?_)
    rw [hdisk]
    have hproper : ∀ target ∈ (d.garbage appId app).take maxGcDeletionsPerPass, target.Proper :=
      fun target h => proper_of_mem_garbage (List.mem_of_mem_take h)
    generalize (d.garbage appId app).take maxGcDeletionsPerPass = pending at hproper ⊢
    refine wp_ite.2 ⟨fun hnone => ?_, fun _ => ?_⟩
    · rw [hnone]
      refine wp_ite.2 ⟨fun _ => ?_, fun hidle => ?_⟩
      · have hidle : ∀ gc : GcRecord, True →
            GcRecord.Idle { gc with inProgress := false, pending := [] } := fun _ _ => ⟨rfl, rfl⟩
        exact (hstart (fun _ => True) trivial).journal hidle
      · simp only [not_or, Bool.not_eq_true, not_not] at hidle
        exact hstart _ hidle
    · refine (hstart (fun _ => True) trivial).written hquiet
        (fun gc => { gc with inProgress := true, pending := pending })
        (fun gc => gc.pending = pending) (fun _ _ => rfl) fun t ht => ?_
      exact wp_bind.2 ((finishes_finishCollection hquiet hfault hbound hproper ht).mono_done
        fun _ u hu => hu)

omit hquiet hfault hbound in
theorem nodup_garbage (hroots : d.roots.Nodup) : (d.garbage appId app).Nodup := by
  have hpackages : (d.packagesOf appId).Nodup := by
    refine (List.perm_insertionSort _ _).nodup_iff.2 (List.Nodup.map_on ?_ ?_)
    · intro k hk k' hk' h
      simp only [List.mem_filter, decide_eq_true_eq] at hk hk'
      exact Prod.ext (hk.2.trans hk'.2.symm) h
    · exact d.packages.nodup.filter _
  have hupdates : (d.updatesOf appId).Nodup :=
    (List.perm_insertionSort _ _).nodup_iff.2 (hroots.filter _)
  refine List.Nodup.append ((hpackages.filter _).map fun _ _ h => ?_)
    ((hupdates.filter _).map fun _ _ h => ?_) ?_
  · exact (GcTarget.package.inj h).2
  · exact GcTarget.update.inj h
  · intro y hy hy'
    obtain ⟨_, -, rfl⟩ := List.mem_map.1 hy
    obtain ⟨_, -, h⟩ := List.mem_map.1 hy'
    cases h

omit hquiet hfault hbound in
/-- A pass over a closed journal leaves all but the first eight. -/
theorem Passing.length_le {J : GcRecord → Prop} {n : Nat}
    (h : Passing appId app d J ((d.garbage appId app).take n).reverse w) (hroots : d.roots.Nodup) :
    (w.disk.garbage appId app).length ≤ (d.garbage appId app).length - n := by
  rw [← List.length_drop]
  refine (List.subperm_of_subset (nodup_garbage (hroots.sublist h.shrinks.roots)) ?_).length_le
  intro y hy
  obtain ⟨hd, htake⟩ := (h.garbage y).1 hy
  rw [← List.take_append_drop n (d.garbage appId app)] at hd
  exact (List.mem_append.1 hd).resolve_left fun h => htake (List.mem_reverse.2 h)

end

/-- `n` passes over an app, one after another. -/
def collections (appId : String) : Nat → Run Unit
  | 0 => pure ()
  | n + 1 => do
    let _ ← garbageCollectApp appId
    collections appId n

/-- Nothing of the app is left that its record does not refer to, and the journal is closed. -/
structure Collected (appId : String) (app : App) (w : World) : Prop where
  record : ∃ gc, GcRecord.Idle gc ∧ w.mem.apps.get? appId = some { app with gc := gc }
  packages : ∀ name, w.disk.packages.contains (appId, name) = true → name ∈ app.protectedPackages
  roots : ∀ root ∈ w.disk.roots, root.1 = appId → root ∈ app.protectedUpdates

theorem collected_of_garbage {appId : String} {app : App} {w : World}
    (hrecord : ∃ gc, GcRecord.Idle gc ∧ w.mem.apps.get? appId = some { app with gc := gc })
    (h : w.disk.garbage appId app = []) : Collected appId app w := by
  have hnone : ∀ y, y ∉ w.disk.garbage appId app := fun y hy => by simp [h] at hy
  refine ⟨hrecord, fun name hname => ?_, fun root hroot happ => ?_⟩
  · by_contra hfree
    exact hnone _ (package_mem_garbage.2 ⟨rfl, hname, hfree⟩)
  · by_contra hfree
    exact hnone _ (update_mem_garbage.2 ⟨happ, hroot, hfree⟩)

section

variable {appId : String} {app : App} {d : Disk} {w : World} (hquiet : env.Quiet)
  (hfault : env.updateFault ≠ some "during-gc")

include hquiet hfault

/-- Passes over closed journals. -/
theorem finishes_collections {n : Nat} (hroots : w.disk.roots.Nodup) (hbound : w.disk.Bounded appId)
    (hrecord : ∃ gc, GcRecord.Idle gc ∧ w.mem.apps.get? appId = some { app with gc := gc })
    (hn : (w.disk.garbage appId app).length ≤ maxGcDeletionsPerPass * n) :
    Finishes (collections appId n) (fun _ => Collected appId app) env w := by
  induction n generalizing w with
  | zero => exact collected_of_garbage hrecord (List.eq_nil_of_length_eq_zero (Nat.le_zero.1 hn))
  | succ n ih =>
    obtain ⟨gc, hidle, hgc⟩ := hrecord
    refine wp_seq (finishes_garbageCollectApp hquiet hfault hbound hgc
      (fun _ h => by simp [hidle.2] at h) rfl) fun _ t ht => ?_
    have htakes : App.takes { app with gc := gc } w.disk appId =
        (w.disk.garbage appId app).take maxGcDeletionsPerPass := by
      rw [App.takes, if_neg fun h => h.2 hidle.2]
      rfl
    rw [htakes] at ht
    refine ih (hroots.sublist ht.shrinks.roots) (ht.shrinks.bounded hbound) ht.record ?_
    have hlength := Passing.length_le ht hroots
    simp only [garbage_gc] at hlength
    rw [Nat.mul_succ] at hn
    omega

omit hquiet hfault in
theorem within_collections (n : Nat) : Within Collects env (collections appId n) := by
  induction n with
  | zero => exact within_pure frame_collects ()
  | succ n ih => exact (within_garbageCollectApp appId).bind frame_collects fun _ => ih

/-- **Collections complete**: after one pass for the journal that was found and one for each eight
directories that the record does not refer to, none of them is left, and every other directory is
as it was. -/
theorem collection_completes {n : Nat} (happ : w.mem.apps.get? appId = some app)
    (hjournal : ∀ target ∈ app.gc.pending, target.Proper) (hroots : w.disk.roots.Nodup)
    (hbound : w.disk.Bounded appId)
    (hn : (w.disk.garbage appId app).length ≤ maxGcDeletionsPerPass * n) :
    Finishes (collections appId (n + 1))
      (fun _ t => Collected appId app t ∧ w.mem.Keeps w.disk t.disk) env w := by
  refine (((within_collections (n + 1)) w).finishes ?_).mono_done fun _ t h => ⟨h.2, h.1.disk⟩
  refine wp_seq (finishes_garbageCollectApp hquiet hfault hbound happ hjournal rfl) fun _ t ht => ?_
  refine finishes_collections hquiet hfault (hroots.sublist ht.shrinks.roots)
    (ht.shrinks.bounded hbound) ht.record (le_trans ?_ hn)
  refine (List.subperm_of_subset (nodup_garbage (hroots.sublist ht.shrinks.roots)) ?_).length_le
  exact fun y hy => ((ht.garbage y).1 hy).1

end

end

/-! ## A journal from before an update -/

/-- The journal names the package that is active now, and one that an update has left behind. -/
def staleApp : App :=
  { sampleApp with
    gc := ⟨true, [.package "ai.sample" "aa", .package "ai.sample" "bb"], none, []⟩ }

/-- Both packages are there. -/
def staleWorld : World :=
  let w := sampleWorld staleApp none
  { w with disk := { w.disk with
    packages := w.disk.packages.set ("ai.sample", "bb") ⟨plainManifest, true⟩ } }

theorem maintenance_keeps_sample :
    Safe staleWorld (maintain ⟨fun _ => "aa", id⟩ (crashAfter 3 "") staleWorld).2 :=
  maintenance_keeps _ _ _ rfl

theorem collection_completes_sample :
    Finishes (collections "ai.sample" 2)
      (fun _ t => Collected "ai.sample" staleApp t ∧ staleWorld.mem.Keeps staleWorld.disk t.disk)
      calm staleWorld :=
  collection_completes (n := 1) (fun _ => rfl) (by decide) rfl
    (by simp [staleApp, GcTarget.Proper]) List.nodup_nil ⟨by decide, by decide⟩ (by decide)

end Vibapp.Daemon
