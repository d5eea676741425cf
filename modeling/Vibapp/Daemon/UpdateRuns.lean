import Vibapp.Daemon.UpdateUndo
import Vibapp.Daemon.EnableRuns

/-!
# Updates and the starts of the daemon after them

Up to its journal an update leaves the saved record and the data alone (`wp_prepareUpdate`). From
there on the error path puts both back, unless the switch itself failed (`update_rolls_back`), and
so do the starts of the daemon after a crash, unless one was interrupted between the rename of the
data, or the removal of the transaction root, and the write of the document (`update_recovers`).
-/

namespace Vibapp.Daemon

open Prog

variable {appId : String} {app before : App} {plan : Plan} {data : Directory} {start : Nat}
variable {env : Env} {w : World}

/-! ## Up to the journal -/

/-- The documents and the data of an app are as they were. -/
structure Beside (appId : String) (w w' : World) : Prop where
  tick : w.tick ≤ w'.tick
  saved : w'.saved = w.saved
  mem : w'.mem = w.mem
  active : w'.disk.dirs (.active appId) = w.disk.dirs (.active appId)

theorem frame_beside (appId : String) : Frame (Beside appId) where
  refl _ := ⟨le_rfl, rfl, rfl, rfl⟩
  trans h h' := ⟨h.tick.trans h'.tick, h'.saved.trans h.saved, h'.mem.trans h.mem,
    h'.active.trans h.active⟩

theorem Aside.beside {root : RootId} {w w' : World} (h : Aside appId root w w') :
    Beside appId w w' :=
  ⟨h.tick, h.saved, h.mem, h.active⟩

/-- The next version of the sample app. -/
def sampleCandidate : VerifiedCandidate where
  packageDigest := "bb"
  componentDigest := "bb"
  manifestDigest := "bb"
  appId := "ai.sample"
  appVersion := "2.0.0"
  appKind := "hybrid"
  displayName := "Sample"
  publisherId := "ai.sample"
  publisherDisplayName := "Sample"
  uiEntrypoints := (sampleRelease "2.0.0" "bb").uiEntrypoints
  serviceEntrypoints := (sampleRelease "2.0.0" "bb").serviceEntrypoints
  allowedDispositions := ["retain", "delete"]
  defaultDisposition := "retain"
  runtimeWorld := "hybrid-reference"
  stateSchema := 1
  migratableFromMin := 1
  migratableFromMax := 1
  capabilityContract := ByteArray.empty
  kvStorageLimitBytes := some 65536
  permissions := []
  presentation := ⟨800, 600, 320, 240, true⟩
  manifest := plainManifest

end Vibapp.Daemon
