import Mathlib.Data.List.Nodup
import Mathlib.Logic.Function.Basic
import Vibapp.Lib.Transition

/-!
# Versioned stores

A store of entries that carry the revision of the transaction that wrote them, with one receipt
for each transaction. A transaction may commit when its id has no receipt, its revision is none
of the past and each write finds the revision it expects where its turn comes. `Serial` is the
serial run of a list of transactions. What it keeps: revisions never fall, receipts are never
lost, and an id commits at most once.
-/

namespace Vibapp

universe u

/-- A value and the revision of the transaction that wrote it. -/
structure Versioned (ν : Type u) where
  value : ν
  revision : Nat
deriving DecidableEq

/-- A write, with the revision its key must have. -/
inductive VersionedWrite (κ ν : Type u)
  | put (key : κ) (value : ν) (expected : Option Nat)
  | delete (key : κ) (expected : Option Nat)

namespace VersionedWrite

variable {κ ν : Type u}

def key : VersionedWrite κ ν → κ
  | put key _ _ | delete key _ => key

def expected : VersionedWrite κ ν → Option Nat
  | put _ _ expected | delete _ expected => expected

/-- What the write leaves under its key. -/
def leaves (revision : Nat) : VersionedWrite κ ν → Option (Versioned ν)
  | put _ value _ => some ⟨value, revision⟩
  | delete _ _ => none

/-- The write finds the revision it expects. -/
def Current (w : VersionedWrite κ ν) (entries : κ → Option (Versioned ν)) : Prop :=
  ∀ r ∈ w.expected, (entries w.key).map Versioned.revision = some r

variable [DecidableEq κ]

/-- The entries after the write. -/
def apply (revision : Nat) (w : VersionedWrite κ ν) (entries : κ → Option (Versioned ν)) :
    κ → Option (Versioned ν) :=
  Function.update entries w.key (w.leaves revision)

/-- The entries after the writes, in order. -/
def applyAll (revision : Nat) (ws : List (VersionedWrite κ ν))
    (entries : κ → Option (Versioned ν)) : κ → Option (Versioned ν) :=
  ws.foldl (fun entries w => w.apply revision entries) entries

/-- What the writes leave under a key stood there before or has their revision. -/
theorem eq_or_revision_of_applyAll {revision : Nat} {ws : List (VersionedWrite κ ν)}
    {entries : κ → Option (Versioned ν)} {key : κ} {entry : Versioned ν}
    (h : applyAll revision ws entries key = some entry) :
    entries key = some entry ∨ entry.revision = revision := by
  induction ws generalizing entries with
  | nil => exact .inl h
  | cons w ws ih =>
    rcases ih h with hbefore | hrevision
    · change Function.update entries w.key (w.leaves revision) key = some entry at hbefore
      by_cases hkey : key = w.key
      · rw [hkey, Function.update_self] at hbefore
        cases w with
        | put key value expected =>
          cases hbefore
          exact .inr rfl
        | delete key expected => cases hbefore
      · rw [Function.update_of_ne hkey] at hbefore
        exact .inl hbefore
    · exact .inr hrevision

/-- Each write finds the revision it expects when the writes before it are done. -/
def AllCurrent (revision : Nat) :
    List (VersionedWrite κ ν) → (κ → Option (Versioned ν)) → Prop
  | [], _ => True
  | w :: ws, entries => w.Current entries ∧ AllCurrent revision ws (w.apply revision entries)

end VersionedWrite

/-- Entries, and what has been applied: the digest and the revision of each transaction. -/
@[ext] structure VersionedStore (κ ν ι δ : Type u) where
  revision : Nat
  entries : κ → Option (Versioned ν)
  receipts : ι → Option (δ × Nat)

/-- A transaction that commits as `revision`. -/
structure Transaction (κ ν ι δ : Type u) where
  id : ι
  digest : δ
  writes : List (VersionedWrite κ ν)
  revision : Nat

namespace Transaction

variable {κ ν ι δ : Type u} [DecidableEq κ] [DecidableEq ι]

/-- The transaction may commit. -/
structure Legal (t : Transaction κ ν ι δ) (s : VersionedStore κ ν ι δ) : Prop where
  fresh : s.receipts t.id = none
  revision_le : s.revision ≤ t.revision
  current : VersionedWrite.AllCurrent t.revision t.writes s.entries

/-- The store with the transaction applied. -/
def commit (t : Transaction κ ν ι δ) (s : VersionedStore κ ν ι δ) : VersionedStore κ ν ι δ where
  revision := t.revision
  entries := VersionedWrite.applyAll t.revision t.writes s.entries
  receipts := Function.update s.receipts t.id (some (t.digest, t.revision))

theorem receipts_commit_self (t : Transaction κ ν ι δ) (s : VersionedStore κ ν ι δ) :
    (t.commit s).receipts t.id = some (t.digest, t.revision) :=
  Function.update_self ..

theorem receipts_commit_of_ne (t : Transaction κ ν ι δ) (s : VersionedStore κ ν ι δ) {id : ι}
    (h : id ≠ t.id) : (t.commit s).receipts id = s.receipts id :=
  Function.update_of_ne h ..

/-- One legal commit. -/
def Step (t : Transaction κ ν ι δ) (s s' : VersionedStore κ ν ι δ) : Prop :=
  t.Legal s ∧ s' = t.commit s

end Transaction

/-- Transactions committed one after the other, each legal where its turn comes. -/
def Serial {κ ν ι δ : Type u} [DecidableEq κ] [DecidableEq ι] (s : VersionedStore κ ν ι δ)
    (ts : List (Transaction κ ν ι δ)) (s' : VersionedStore κ ν ι δ) : Prop :=
  Steps Transaction.Step ts s s'

namespace Serial

variable {κ ν ι δ : Type u} [DecidableEq κ] [DecidableEq ι] {s m s' : VersionedStore κ ν ι δ}
  {t : Transaction κ ν ι δ} {ts us : List (Transaction κ ν ι δ)}

theorem nil (s : VersionedStore κ ν ι δ) : Serial s [] s := Steps.nil s

theorem append (h₁ : Serial s ts m) (h₂ : Serial m us s') : Serial s (ts ++ us) s' :=
  Steps.append h₁ h₂

theorem single (h : t.Legal s) : Serial s [t] (t.commit s) := Steps.single ⟨h, rfl⟩

/-- The serial run has one outcome. -/
theorem eq_foldl (h : Serial s ts s') : s' = ts.foldl (fun s t => t.commit s) s := by
  induction h with
  | nil s => rfl
  | cons head _ ih =>
    rw [List.foldl_cons, ← head.2]
    exact ih

theorem revision_le (h : Serial s ts s') : s.revision ≤ s'.revision := by
  induction h with
  | nil s => exact Nat.le_refl _
  | cons head _ ih =>
    obtain ⟨hlegal, rfl⟩ := head
    exact Nat.le_trans hlegal.revision_le ih

/-- A receipt stays. -/
theorem receipt_kept (h : Serial s ts s') {id : ι} {r : δ × Nat} (hr : s.receipts id = some r) :
    s'.receipts id = some r := by
  induction h with
  | nil s => exact hr
  | @cons t ts s m s' head _ ih =>
    obtain ⟨hlegal, rfl⟩ := head
    apply ih
    have hne : id ≠ t.id := by
      intro he
      rw [he, hlegal.fresh] at hr
      exact absurd hr (by simp)
    rw [t.receipts_commit_of_ne s hne]
    exact hr

/-- A transaction that commits had no receipt at the start. -/
theorem fresh (h : Serial s ts s') {t : Transaction κ ν ι δ} (ht : t ∈ ts) :
    s.receipts t.id = none := by
  induction h with
  | nil s => exact absurd ht List.not_mem_nil
  | @cons u us s m s' head _ ih =>
    obtain ⟨hlegal, rfl⟩ := head
    rcases List.mem_cons.1 ht with rfl | ht
    · exact hlegal.fresh
    · have hm := ih ht
      by_cases he : t.id = u.id
      · rw [he]
        exact hlegal.fresh
      · rwa [u.receipts_commit_of_ne s he] at hm

/-- A transaction that committed has its receipt. -/
theorem receipt (h : Serial s ts s') {t : Transaction κ ν ι δ} (ht : t ∈ ts) :
    s'.receipts t.id = some (t.digest, t.revision) := by
  induction h with
  | nil s => exact absurd ht List.not_mem_nil
  | @cons u us s m s' head tail ih =>
    obtain ⟨-, rfl⟩ := head
    rcases List.mem_cons.1 ht with rfl | ht
    · exact receipt_kept tail (t.receipts_commit_self s)
    · exact ih ht

/-- **At most once.** No id commits twice. -/
theorem nodup_ids (h : Serial s ts s') : (ts.map Transaction.id).Nodup := by
  induction h with
  | nil s => exact List.nodup_nil
  | @cons u us s m s' head tail ih =>
    obtain ⟨-, rfl⟩ := head
    refine List.nodup_cons.2 ⟨?_, ih⟩
    intro hmem
    obtain ⟨t, ht, he⟩ := List.mem_map.1 hmem
    have hnone := fresh tail ht
    rw [he, u.receipts_commit_self] at hnone
    exact absurd hnone (by simp)

end Serial

end Vibapp
