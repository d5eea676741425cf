import Vibapp.Lib.ByteOrder
import Vibapp.ServiceRuntime.KvStore

/-!
# Scanning a prefix

`scan_prefix` walks the ordered map from the prefix on and stops at the first key that does not
start with it. **Main result** (`scanPrefix_first`): nothing is lost by that. The answer is the
first entries, by the bytes of their keys, of all entries of the document whose key starts with the
prefix, with the values and revisions the document has for them.
-/

namespace Vibapp.ServiceRuntime

/-- The entries under keys whose bytes start with those of the prefix. -/
def startingWith (document : KvDocument) (start : String) : List (String × StoredKvEntry) :=
  document.entries.entries.filter fun p => (utf8Bytes start).isPrefixOf (utf8Bytes p.1)

/-- The answer has the first `limit` entries with the prefix, or all when there are fewer. -/
def FirstMatching (document : KvDocument) (start : String) (limit : Nat)
    (answer : List KvEntry) : Prop :=
  ∃ sorted : List (String × StoredKvEntry),
    sorted.Perm (startingWith document start) ∧
    sorted.Pairwise (fun p q => utf8Bytes p.1 < utf8Bytes q.1) ∧
    answer = (sorted.take limit).map toKvEntry ∧
    answer.length = min limit (startingWith document start).length

theorem mem_startingWith {document : KvDocument} {start key : String} {entry : StoredKvEntry} :
    (key, entry) ∈ startingWith document start ↔
      utf8Bytes start <+: utf8Bytes key ∧ document.entries.get? key = some entry := by
  rw [startingWith, List.mem_filter, List.isPrefixOf_iff_prefix, Dict.mem_entries_iff, and_comm]

/-- The scan finds the same entries by characters as the keys have by bytes. -/
theorem matching_perm_startingWith (document : KvDocument) (start : String) :
    (matching document.entries start).Perm (startingWith document start) := by
  have hbytes : ∀ p : String × StoredKvEntry,
      start.toList.isPrefixOf p.1.toList = (utf8Bytes start).isPrefixOf (utf8Bytes p.1) := by
    intro p
    rw [Bool.eq_iff_iff, List.isPrefixOf_iff_prefix, List.isPrefixOf_iff_prefix,
      utf8_isPrefix_iff]
  rw [matching, startingWith, List.filter_congr fun p _ => hbytes p]
  exact (perm_sortByKey _).filter _

theorem firstMatching_scanRange (document : KvDocument) (start : String) (limit : Nat) :
    FirstMatching document start limit (scanRange document.entries start limit) := by
  have hperm := matching_perm_startingWith document start
  refine ⟨matching document.entries start, hperm, ?_, scanRange_eq .., ?_⟩
  · exact (pairwise_matching document.entries start).imp utf8_lt_iff.2
  · rw [scanRange_eq, List.length_map, List.length_take, hperm.length_eq]

/-- **A scan answers with the first entries under the prefix.** -/
theorem scanPrefix_first {state : RuntimeState} {io : Io} {file : KvFile} {start : String}
    {limit : Nat} {kv : KvBroker} (henabled : state.kv.enabled = true)
    (hstart : outsideBound start maxKvKeyBytes = false) (hpos : 0 < limit)
    (hlimit : limit ≤ maxKvScanLimit) (hrefresh : state.kv.refresh io file = .ok kv) :
    ∃ answer, scanPrefix state io file start limit = (.ok answer, { state with kv := kv }) ∧
      FirstMatching kv.document start limit answer := by
  have hin : ¬ (outsideBound start maxKvKeyBytes = true ∨ limit = 0 ∨ maxKvScanLimit < limit) := by
    rw [hstart]
    simp only [Bool.false_eq_true, false_or]
    omega
  refine ⟨scanRange kv.document.entries start limit, ?_, firstMatching_scanRange ..⟩
  rw [scanPrefix, if_neg (by rw [henabled]; decide), if_neg hin, hrefresh]

/-! ## Three entries -/

/-- Two keys begin with the same two bytes. -/
def scannedDocument : KvDocument where
  schemaVersion := kvSchema
  stateRevision := 7
  entries := ((Dict.set ∅ "éz" ⟨[3], 6⟩).set "é" ⟨[1], 5⟩).set "z" ⟨[2], 7⟩
  transactions := ∅

/-- A broker that last saw an empty document. -/
def scannedState : RuntimeState := ⟨⟨true, 4096, ⟨kvSchema, 5, ∅, ∅⟩, 5, none, 0⟩, 0⟩

def scannedFile : KvFile := ⟨scannedDocument, scannedDocument.fileLength⟩

theorem scannedState_refresh :
    scannedState.kv.refresh ⟨.ok (), .ok (), .ok (), .done⟩ scannedFile =
      .ok { scannedState.kv with document := scannedDocument } := by
  have hlength :
      ¬ (scannedFile.length = 0 ∨ scannedState.kv.maximumBytes < scannedFile.length) := by
    decide +kernel
  have hvalid : validDocument scannedDocument 5 false = true := by decide +kernel
  rw [KvBroker.refresh, if_neg (by decide)]
  simp only [KvBroker.readDocument]
  rw [if_neg hlength]
  simp only [scannedState, scannedFile, hvalid, if_true]

theorem scanPrefix_first_sample :
    (∃ answer, scanPrefix scannedState ⟨.ok (), .ok (), .ok (), .done⟩ scannedFile "é" 2 =
        (.ok answer,
          { scannedState with kv := { scannedState.kv with document := scannedDocument } }) ∧
      FirstMatching scannedDocument "é" 2 answer) ∧
    scanRange scannedDocument.entries "é" 2 = [⟨"é", [1], 5⟩, ⟨"éz", [3], 6⟩] :=
  ⟨scanPrefix_first rfl (by decide +kernel) (by decide) (by decide) scannedState_refresh,
    by decide +kernel⟩

end Vibapp.ServiceRuntime
