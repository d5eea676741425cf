import Vibapp.Scheduler.Chains

/-!
# Batches of due slots

`advance_due` is a batch of the agenda of due slots (`Due`), and taking up a slot closes it and
opens at most a later one (`takeUp_opens_later`). The laws of agendas then say what a call
does: calls compose, they take slots up in order of due instant, app and id, and what they
report as not due is not due (`advanceDue_batches`).
-/

namespace Vibapp.Scheduler

section

variable {b : Backend} {x : Advance} {l m : Ledger} {k : DueKey}

/-! ## One slot -/

/-- A transition of a row that takes up the slot `oid`, due at `due`: what is scheduled after it
was scheduled before, and is not that slot, or is due later. -/
theorem RowStep.slot_later {app oid : String} {row row' : AppRow} {occ : Occurrence}
    (hs : RowStep b app (.slot oid) row row') (ho : row.occurrences.get? oid = some occ)
    {oid' : String} {o' : Occurrence} (h : row'.Scheduled oid' o') :
    (oid' ≠ oid ∧ row.Scheduled oid' o') ∨ occ.dueAtUtc < o'.dueAtUtc := by
  cases hs with
  | @cancelSlot _ _ occ' a ho' =>
    cases ho.symm.trans ho'
    have hocc : (row.cancelSlot oid occ a).occurrences =
        row.occurrences.set oid { occ with state := .cancelled } := by
      unfold AppRow.cancelSlot
      dsimp only
      split <;> rfl
    obtain ⟨hget, hstate⟩ := h
    rw [hocc, Dict.get?_set] at hget
    split at hget
    · rw [← Option.some.inj hget] at hstate
      cases hstate
    · rename_i hne
      exact .inl ⟨hne, hget, hstate⟩
  | @fireSlot _ _ _ occ' a x ho' hsched _ ha hr hf =>
    cases ho.symm.trans ho'
    have hold : ∀ adapterId, (row.fired x oid occ a adapterId).Scheduled oid' o' →
        oid' ≠ oid ∧ row.Scheduled oid' o' := fun adapterId h =>
      (scheduled_fired_iff adapterId oid' o').1 h
    obtain ⟨adapterId, ⟨-, rfl⟩ | ⟨-, -, rfl⟩ | ⟨hp, -, slot, hslot, hnew, rfl⟩⟩ := fireSlot_eq_ok hf
    · exact .inl (hold adapterId h)
    · exact .inl (hold adapterId h)
    · obtain ⟨hget, hstate⟩ := h
      have hget : ((row.fired x oid occ a adapterId).occurrences.set _ _).get? oid' = some o' := hget
      rw [Dict.get?_set] at hget
      split at hget
      · rw [← Option.some.inj hget]
        exact .inr (nextCivil_later hslot)
      · exact .inl (hold adapterId ⟨hget, hstate⟩)

/-- **One slot.** Taking up the least due slot closes it, and opens only later ones. -/
theorem takeUp_opens_later (hk : (b.agenda x).next l = some k) (hm : (b.agenda x).run k l = .ok m) :
    ∀ j ∈ (b.agenda x).openTasks m, k < j := by
  obtain ⟨hmem, hmin⟩ := Agenda.next_eq_some_iff.1 hk
  obtain ⟨row, occ, hrow, ho, hs, hdue, hkey⟩ := next_eq_some hk
  obtain ⟨row₀, row', hrow₀, hstep, rfl⟩ := takeUp_rowStep hk hm
  cases hrow.symm.trans hrow₀
  intro j hj
  obtain ⟨rowj, hrowj, hjslot⟩ := mem_candidates_iff.1 hj
  obtain ⟨oj, hoj, hsj, hduej, hjkey⟩ := mem_dueSlots_iff.1 hjslot
  rw [get?_setApp] at hrowj
  split at hrowj
  · rename_i happ
    cases hrowj
    rcases hstep.slot_later ho ⟨hoj, hsj⟩ with ⟨hne, hoj', -⟩ | hlt
    · -- it was open before, under another id of the same app
      have hjl : j ∈ l.candidates x.now := mem_candidates_iff.2
        ⟨row, happ ▸ hrow, mem_dueSlots_iff.2 ⟨oj, hoj', hsj, hduej, hjkey⟩⟩
      refine lt_of_le_of_ne (hmin j hjl) ?_
      rintro rfl
      exact hne rfl
    · rw [hkey, hjkey]
      exact Prod.Lex.toLex_lt_toLex.2 (.inl hlt)
  · rename_i happ
    have hjl : j ∈ l.candidates x.now := mem_candidates_iff.2 ⟨rowj, hrowj, hjslot⟩
    refine lt_of_le_of_ne (hmin j hjl) ?_
    rintro rfl
    exact happ rfl

/-! ## A batch -/

/-- No row goes away, and every row of the first ledger has grown into the second one's. -/
def Ledger.Grows (l l' : Ledger) : Prop := l.apps.Le AppRow.Grows l'.apps

theorem Ledger.Grows.refl (l : Ledger) : l.Grows l := Dict.Le.refl AppRow.Grows.refl l.apps

theorem Ledger.Grows.trans {l₁ l₂ l₃ : Ledger} (h₁ : l₁.Grows l₂) (h₂ : l₂.Grows l₃) : l₁.Grows l₃ :=
  Dict.Le.trans (R := AppRow.Grows) AppRow.Grows.trans h₁ h₂

theorem grows_takeUp (h : l.Sound) (hk : (b.agenda x).next l = some k)
    (hm : (b.agenda x).run k l = .ok m) : l.Grows m := by
  obtain ⟨row, row', hrow, hstep, rfl⟩ := takeUp_rowStep hk hm
  exact Dict.le_set_of_some AppRow.Grows.refl hrow (hstep.grows (h hrow).matched)

/-- A batch keeps the ledger sound and lets its rows grow. -/
theorem batch_sound_grows {n : Nat} {ks : List DueKey} (h : l.Sound)
    (hb : (b.agenda x).batch n l = .ok (m, ks)) : m.Sound ∧ l.Grows m :=
  Agenda.batch_rel Ledger.Grows.refl Ledger.Grows.trans
    (fun h hk hm => ⟨sound_takeUp h hk hm, grows_takeUp h hk hm⟩) h hb

/-- The occurrence the key names is due when the key says, and is no longer scheduled. -/
def Ledger.TakenUp (l : Ledger) (k : DueKey) : Prop :=
  ∃ row o, l.apps.get? k.app = some row ∧ row.occurrences.get? k.oid = some o ∧
    o.dueAtUtc = k.due ∧ o.state ≠ .scheduled

theorem Ledger.TakenUp.grows (h : l.TakenUp k) (hg : l.Grows m) : m.TakenUp k := by
  obtain ⟨row, o, hrow, ho, hdue, hs⟩ := h
  obtain ⟨row', hrow', hgrows⟩ := hg hrow
  obtain ⟨o', ho', hle⟩ := hgrows.occurrences ho
  exact ⟨row', o', hrow', ho', (created_eq hle.created).2.2.1.trans hdue, hle.left hs⟩

/-- The slot a pass of the loop selected is taken up by it. -/
theorem takenUp_takeUp (h : l.Sound) (hk : (b.agenda x).next l = some k)
    (hm : (b.agenda x).run k l = .ok m) : m.TakenUp k := by
  obtain ⟨row, occ, hrow, ho, -, hdue, hkey⟩ := next_eq_some hk
  obtain ⟨row', hrow', hgrows⟩ := grows_takeUp h hk hm hrow
  obtain ⟨o', ho', hle⟩ := hgrows.occurrences ho
  have hdue' := (created_eq hle.created).2.2.1
  refine ⟨row', o', hrow', ho', by rw [hdue', hkey]; rfl, fun hs => ?_⟩
  -- else it would still be open, but only later slots are
  have hopen : k ∈ m.candidates x.now := mem_candidates_iff.2
    ⟨row', hrow', mem_dueSlots_iff.2 ⟨o', ho', hs, hdue' ▸ hdue, hdue' ▸ hkey⟩⟩
  exact lt_irrefl k (takeUp_opens_later hk hm k hopen)

/-- **A batch** takes its slots up in strictly increasing order. -/
theorem batch_takenUp {n : Nat} {ks : List DueKey} (h : l.Sound)
    (hb : (b.agenda x).batch n l = .ok (m, ks)) :
    ks.Pairwise (· < ·) ∧ ∀ k ∈ ks, m.TakenUp k := by
  refine ⟨(Agenda.batch_sorted (P := fun _ => True)
    (fun _ hk hm => ⟨trivial, takeUp_opens_later hk hm⟩) trivial hb).1, fun k hk => ?_⟩
  obtain ⟨i, j, u, m', is, js, hi, hnext, hm', hj⟩ := Agenda.batch_mem hb hk
  have hu := (batch_sound_grows h hi).1
  exact (takenUp_takeUp hu hnext hm').grows (batch_sound_grows (sound_takeUp hu hnext hm') hj).2

/-! ## `advance_due` -/

theorem advanceDue_eq_ok {nowUtc : String} {recovery : Bool} {limit : Int} {processed : List String}
    {more : Bool} (h : b.advanceDue l nowUtc recovery limit = .ok (m, processed, more)) :
    ∃ now n ks, parseUtc nowUtc = .ok now ∧ limit = (n : Nat) ∧
      (b.agenda ⟨now, recovery⟩).batch n l = .ok (m, ks) ∧ processed = ks.map DueKey.oid ∧
      more = !(m.candidates now).isEmpty := by
  obtain ⟨now, hnow, h⟩ := bind_eq_ok.1 h
  obtain ⟨n, hn, h⟩ := bind_eq_ok.1 h
  obtain ⟨hlimit, hlow, -⟩ := integer_eq_ok hn
  obtain ⟨⟨m', ks⟩, hb, h⟩ := bind_eq_ok.1 (edit_eq_ok h)
  cases pure_eq_ok.1 h
  refine ⟨now, n.toNat, ks, hnow, ?_, hb, rfl, rfl⟩
  rw [Json.int.inj hlimit]
  omega

/-- Nothing scheduled in the ledger is due by now. -/
def Ledger.NoneDue (l : Ledger) (now : Instant) : Prop :=
  ∀ app row oid o, l.apps.get? app = some row → row.Scheduled oid o → now < o.dueAtUtc

theorem noneDue_of_candidates {now : Instant} (h : l.candidates now = []) : l.NoneDue now := by
  intro app row oid o hrow ho
  by_contra hle
  have hmem : DueKey.of o.dueAtUtc app oid ∈ l.candidates now := mem_candidates_iff.2
    ⟨row, hrow, mem_dueSlots_iff.2 ⟨o, ho.1, ho.2, not_lt.1 hle, rfl⟩⟩
  rw [h] at hmem
  exact absurd hmem List.not_mem_nil

/-- **Batching.** Two calls of `advance_due` in a row leave and report what one call of their
total size does; a call takes slots up in the order of their due instants, apps and ids; and
when it reports that no more are due, none is. -/
theorem advanceDue_batches (hl : Reachable l) (b : Backend) (nowUtc : String) (recovery : Bool) :
    (∀ a c m ks p t js q u is r, b.advanceDue l nowUtc recovery a = .ok (m, ks, p) →
      b.advanceDue m nowUtc recovery c = .ok (t, js, q) →
      b.advanceDue l nowUtc recovery (a + c) = .ok (u, is, r) →
      t = u ∧ ks ++ js = is ∧ q = r) ∧
    ∀ limit m processed more,
      b.advanceDue l nowUtc recovery limit = .ok (m, processed, more) →
      ∃ now, parseUtc nowUtc = .ok now ∧
        (∃ keys : List DueKey, processed = keys.map DueKey.oid ∧ keys.Pairwise (· ≤ ·) ∧
          ∀ k ∈ keys, m.TakenUp k) ∧
        (more = false → m.NoneDue now) := by
  refine ⟨fun a c m ks p t js q u is r h₁ h₂ h₃ => ?_, fun limit m processed more h => ?_⟩
  · obtain ⟨now, n₁, ks₁, hnow, ha, hb₁, rfl, -⟩ := advanceDue_eq_ok h₁
    obtain ⟨now₂, n₂, ks₂, hnow₂, hc, hb₂, rfl, rfl⟩ := advanceDue_eq_ok h₂
    obtain ⟨now₃, n₃, ks₃, hnow₃, hac, hb₃, rfl, rfl⟩ := advanceDue_eq_ok h₃
    cases hnow.symm.trans hnow₂
    cases hnow.symm.trans hnow₃
    have hn : n₃ = n₁ + n₂ := by omega
    have hsum := Agenda.batch_add hb₁ hb₂
    rw [← hn, hb₃] at hsum
    cases Except.ok.inj hsum
    exact ⟨rfl, List.map_append.symm, rfl⟩
  · obtain ⟨now, n, ks, hnow, -, hb, rfl, rfl⟩ := advanceDue_eq_ok h
    obtain ⟨hsorted, htaken⟩ := batch_takenUp hl.sound hb
    refine ⟨now, hnow, ⟨ks, rfl, hsorted.imp le_of_lt, htaken⟩, fun hmore => ?_⟩
    exact noneDue_of_candidates (List.isEmpty_iff.1 (by simpa using hmore))

set_option maxRecDepth 100000 in
theorem advanceDue_batches_sample :
    ∃ m ks p t js q u is r,
      Backend.sample.advanceDue (after .empty sampleSetup) "2024-01-02T07:00:00Z" true 1 =
        .ok (m, ks, p) ∧
      Backend.sample.advanceDue m "2024-01-02T07:00:00Z" true 2 = .ok (t, js, q) ∧
      Backend.sample.advanceDue (after .empty sampleSetup) "2024-01-02T07:00:00Z" true 3 =
        .ok (u, is, r) ∧
      t = u ∧ ks ++ js = is := by
  obtain ⟨⟨t, js, q⟩, h⟩ := exists_eq_ok (x := do
    let y ← Backend.sample.advanceDue (after .empty sampleSetup) "2024-01-02T07:00:00Z" true 1
    Backend.sample.advanceDue y.1 "2024-01-02T07:00:00Z" true 2) (by decide +kernel)
  obtain ⟨⟨m, ks, p⟩, h₁, h₂⟩ := bind_eq_ok.1 h
  obtain ⟨⟨u, is, r⟩, h₃⟩ := exists_eq_ok
    (x := Backend.sample.advanceDue (after .empty sampleSetup) "2024-01-02T07:00:00Z" true 3)
    (by decide +kernel)
  obtain ⟨htu, happend, -⟩ := (advanceDue_batches ⟨sampleSetup, rfl⟩ Backend.sample
    "2024-01-02T07:00:00Z" true).1 1 2 m ks p t js q u is r h₁ h₂ h₃
  exact ⟨m, ks, p, t, js, q, u, is, r, h₁, h₂, h₃, htu, happend⟩

end

end Vibapp.Scheduler
