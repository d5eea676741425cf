import Vibapp.Scheduler.Integrity

/-!
# The chain of a revision

What `Recurrence` says of one transition, said of runs. While the zone rules do not change, the
regular slots of an alarm's revision are the chain its schedule generates from the first one
(`Tracks`, `recurrence_chain`): the time a slot is taken up, the size of the batches, recovery
and whatever other apps do decide only how long the chain is by now.
-/

namespace Vibapp.Scheduler

section

variable {b b' : Backend} {app : String} {row row' : AppRow}

/-- The slot a schedule gives after another one. -/
def Backend.Next (b : Backend) (schedule : Schedule) (p q : Slot) : Prop :=
  b.nextSlot schedule p = .ok (some q)

theorem next_rightUnique (b : Backend) (schedule : Schedule) :
    Relator.RightUnique (b.Next schedule) := fun p q q' h h' => by
  rw [Backend.Next, h] at h'
  exact Option.some.inj (Except.ok.inj h')

/-- The next slot depends on the zone rules alone. -/
theorem nextSlot_congr (h : b'.zones = b.zones) : b'.nextSlot = b.nextSlot := by
  obtain ⟨z, t, f, g⟩ := b
  obtain ⟨z', t', f', g'⟩ := b'
  obtain rfl : z' = z := h
  funext s p
  cases s <;> rfl

/-! ## One revision -/

/-- The alarm has reached the revision, and in it has this schedule. -/
def AppRow.Tracks (row : AppRow) (key : String) (r : Nat) (s : Schedule) : Prop :=
  ∃ a, row.alarms.get? key = some a ∧ r ≤ a.revision ∧ (a.revision = r → a.schedule = s)

theorem schedule_of_settings {a a' : Alarm} (h : a'.settings = a.settings) :
    a'.schedule = a.schedule := by
  show a'.settings.schedule = a.settings.schedule
  rw [h]

theorem RowStep.tracks {act : Act} (hs : RowStep b app act row row') (hm : row.Matched) {key : String}
    {r : Nat} {s : Schedule} (h : row.Tracks key r s) : row'.Tracks key r s := by
  obtain ⟨a, ha, hr, hsched⟩ := h
  obtain ⟨a', ha', hle⟩ := (hs.grows hm).alarms ha
  refine ⟨a', ha', hr.trans hle.revision, fun he => ?_⟩
  rcases hle with hlt | hsame
  · omega
  · rw [schedule_of_settings hsame, hsched (by rw [← revision_of_settings hsame, he])]

/-- The slots of a revision the alarm has reached grow along its schedule. -/
theorem RowStep.grown {act : Act} (hs : RowStep b' app act row row') (hz : b'.zones = b.zones)
    (h : row.Sound) {key : String} {r : Nat} {s : Schedule} (ht : row.Tracks key r s) :
    Grown (b.Next s) (row.slots key r) (row'.slots key r) := by
  obtain ⟨a, ha, hr, hsched⟩ := ht
  rcases hs.slots h.keyed h.chained key r with heq | ⟨slot, heq, hnone | ⟨a₁, p, ha₁, hr₁, hlast, -, hnext⟩⟩
  · rw [heq]
  · exact absurd (hnone a ha) (Nat.not_lt.2 hr)
  · cases ha.symm.trans ha₁
    rw [heq]
    refine .single (.snoc hlast ?_)
    rw [Backend.Next, ← nextSlot_congr hz, ← hsched hr₁]
    exact hnext

/-- The slots of the current revision of every alarm are a chain of its schedule. -/
def AppRow.Chains (b : Backend) (row : AppRow) : Prop :=
  ∀ key a, row.alarms.get? key = some a → (row.slots key a.revision).IsChain (b.Next a.schedule)

theorem RowStep.chains {act : Act} (hs : RowStep b' app act row row') (hz : b'.zones = b.zones)
    (h : row.Sound) (hc : row.Chains b) : row'.Chains b := by
  intro key a' ha'
  -- a revision the alarm has just reached has at most the slot it was given
  have hreached : (∀ a, row.alarms.get? key = some a → a.revision < a'.revision) →
      (row'.slots key a'.revision).IsChain (b.Next a'.schedule) := by
    intro hless
    have hnil := h.registered.slots_eq_nil hless
    rcases hs.slots h.keyed h.chained key a'.revision with heq | ⟨slot, heq, -⟩
    · rw [heq, hnil]
      exact .nil
    · rw [heq, hnil]
      exact .singleton slot
  cases ha : row.alarms.get? key with
  | none => exact hreached fun a hsome => by rw [ha] at hsome; cases hsome
  | some a =>
    obtain ⟨a₁, ha₁, hle⟩ := (hs.grows h.matched).alarms ha
    cases ha₁.symm.trans ha'
    rcases hle with hlt | hsame
    · exact hreached fun a₀ ha₀ => by rwa [Option.some.inj (ha₀.symm.trans ha)]
    · rw [revision_of_settings hsame, schedule_of_settings hsame]
      exact (hs.grown hz h ⟨a, ha, Nat.le_refl _, fun _ => rfl⟩).isChain (hc key a ha)

/-! ## Runs under fixed zone rules -/

theorem after_chains {run : List Input} (hrun : ∀ x ∈ run, x.1.zones = b.zones) :
    (after .empty run).apps.All fun _ row => row.Sound ∧ row.Chains b :=
  after_row_invariant (B := fun b' => b'.zones = b.zones)
    (P := fun _ row => row.Sound ∧ row.Chains b)
    (fun _ c => ⟨sound_new c, fun _ _ ha => absurd ha (by simp [AppRow.new])⟩)
    (fun hz hs _ h => ⟨hs.sound h.1, hs.chains hz h.1 h.2⟩) Dict.all_empty Dict.all_empty hrun

/-- A run extends the slots of a revision along its schedule. -/
theorem after_grown {l : Ledger} (hl : l.Sound) (hrow : l.apps.get? app = some row) {key : String}
    {r : Nat} {s : Schedule} (ht : row.Tracks key r s) {run : List Input}
    (hrun : ∀ x ∈ run, x.1.zones = b.zones) :
    ∃ row', (after l run).apps.get? app = some row' ∧
      Grown (b.Next s) (row.slots key r) (row'.slots key r) :=
  after_row_rel (B := fun b' => b'.zones = b.zones) (P := fun row => row.Sound ∧ row.Tracks key r s)
    (fun _ => .refl) .trans
    (fun hz hs h => ⟨⟨hs.sound h.1, hs.tracks h.1.matched h.2⟩, hs.grown hz h.1 h.2⟩)
    hl.keyed hrow ⟨hl hrow, ht⟩ hrun

/-! ## Ids and due times -/

/-- The ids and due times of the regular occurrences of an alarm's revision, in the order they
were created. -/
def AppRow.sequence (row : AppRow) (key : String) (r : Nat) : List (String × Instant) :=
  row.occurrences.entries.filterMap fun p =>
    (p.2.slotOf key r).map fun s => (p.1, s.due)

theorem AppRow.Registered.sequence_eq (h : row.Registered) (key : String) (r : Nat) :
    row.sequence key r = (row.slots key r).map fun s => (occurrenceId key r s.due, s.due) := by
  have hbirths : row.births.values = row.occurrences.entries.map fun p => p.2.created := by
    rw [AppRow.births, Dict.values_mapVals, Dict.values, List.map_map]
    rfl
  rw [AppRow.slots, hbirths, List.filterMap_map, List.map_filterMap]
  refine List.filterMap_congr fun p hp => ?_
  show (p.2.slotOf key r).map _ = (p.2.slotOf key r).map _
  cases hs : p.2.slotOf key r with
  | none => rfl
  | some s =>
    obtain ⟨hparent, rfl, rfl, rfl⟩ := slotOf_eq_some hs
    have hb : row.births.get? p.1 = some p.2.created := by
      rw [get?_births, Dict.mem_entries_iff.1 hp]
      rfl
    have hid := h.regular hb hparent
    exact congrArg (fun id => some (id, p.2.dueAtUtc)) hid

/-! ## The chain -/

/-- The regular occurrences of an alarm's revision are a chain of its recurrence. -/
structure AppRow.ChainOf (b : Backend) (v : LocalRecurrence) (key : String) (r : Nat) (row : AppRow) :
    Prop where
  follows : (row.slots key r).IsChain fun p q =>
    b.nextSlot (.recurring v) p = .ok (some q) ∧
      ∃ z, b.zones v.timeZone = some z ∧ v.Follows z p q
  ids : row.sequence key r = (row.slots key r).map fun s => (occurrenceId key r s.due, s.due)

theorem chainOf {v : LocalRecurrence} {key : String} {r : Nat} (h : row.Registered)
    (hc : (row.slots key r).IsChain (b.Next (.recurring v))) : row.ChainOf b v key r :=
  ⟨hc.imp fun _ _ hnext => ⟨hnext, nextSlot_spec hnext⟩, h.sequence_eq key r⟩

/-- **Recurrence.** Under fixed zone rules the regular occurrences of a recurring alarm's
revision are, after every run, a chain in which each slot follows from the one before, strictly
later and on a later day, past only days whose own instant is not after it; two runs from one
ledger differ only in how far the chain got. And no ledger that any calls reach, under any
rules, materialises an occurrence twice. -/
theorem recurrence_chain {run : List Input} (hrun : ∀ x ∈ run, x.1.zones = b.zones)
    (hrow : (after .empty run).apps.get? app = some row) {key : String} {a : Alarm}
    (ha : row.alarms.get? key = some a) {v : LocalRecurrence} (hv : a.schedule = .recurring v) :
    (∀ run₁, (∀ x ∈ run₁, x.1.zones = b.zones) →
      ∃ row₁, (after (after .empty run) run₁).apps.get? app = some row₁ ∧
        row₁.ChainOf b v key a.revision ∧
        row.sequence key a.revision <+: row₁.sequence key a.revision ∧
        ∀ run₂, (∀ x ∈ run₂, x.1.zones = b.zones) →
          ∃ row₂, (after (after .empty run) run₂).apps.get? app = some row₂ ∧
            (row₁.sequence key a.revision <+: row₂.sequence key a.revision ∨
              row₂.sequence key a.revision <+: row₁.sequence key a.revision)) ∧
    ∀ l, Reachable l → ∀ (b' : Backend) (c : Call),
      b'.perform l c ≠ .error (.scheduler rematerialize) ∧
        ∀ l', b'.perform l c ≠ .ok (l', .response (.error rematerialize)) := by
  refine ⟨fun run₁ hrun₁ => ?_, fun l hl b' c => hl.intact b' c⟩
  have hreach : Reachable (after .empty run) := ⟨run, rfl⟩
  have hsound := hreach.sound
  have hchain := (after_chains hrun hrow).2 key a ha
  have htracks : row.Tracks key a.revision a.schedule := ⟨a, ha, Nat.le_refl _, fun _ => rfl⟩
  have hreg : ∀ {run' : List Input} {row' : AppRow},
      (after (after .empty run) run').apps.get? app = some row' → row'.Registered :=
    fun {run' row'} hrow' => (Reachable.sound ⟨run ++ run', after_append _ _ _⟩ hrow').registered
  have hgrows : ∀ {row₁ row₂ : AppRow}, row₁.Registered → row₂.Registered →
      row₁.slots key a.revision <+: row₂.slots key a.revision →
      row₁.sequence key a.revision <+: row₂.sequence key a.revision := by
    intro row₁ row₂ h₁ h₂ h
    rw [h₁.sequence_eq, h₂.sequence_eq]
    exact h.map _
  obtain ⟨row₁, hrow₁, hgrown₁⟩ := after_grown hsound hrow htracks hrun₁
  refine ⟨row₁, hrow₁, chainOf (hreg hrow₁) ?_,
    hgrows (hsound hrow).registered (hreg hrow₁) hgrown₁.isPrefix, fun run₂ hrun₂ => ?_⟩
  · rw [← hv]
    exact hgrown₁.isChain hchain
  · obtain ⟨row₂, hrow₂, hgrown₂⟩ := after_grown hsound hrow htracks hrun₂
    exact ⟨row₂, hrow₂, (hgrown₁.comparable (next_rightUnique b a.schedule) hgrown₂).imp
      (hgrows (hreg hrow₁) (hreg hrow₂)) (hgrows (hreg hrow₂) (hreg hrow₁))⟩

end

/-! ## A day that does not exist

Samoa had no 30 December 2011. That day's seven o'clock is, shifted by the gap, seven o'clock of
the 31st, so a daily alarm that fires for the 30th passes over the 31st. -/

/-- The rules of Samoa around that day: ten hours behind before it, fourteen ahead after it. -/
def Zone.apia : Zone :=
  let skipped := Calendar.ymd2ord 2011 12 30 * 86400
  { utcoffset := fun t fold =>
      if t.val < skipped ∨ t.val < skipped + 86400 ∧ fold = false then -36000 else 50400
    offsetAt := fun t => if t.val < skipped + 36000 then -36000 else 50400 }

def Backend.apia : Backend :=
  { Backend.sample with zones := fun name => if name = "Pacific/Apia" then some .apia else none }

/-- A daily alarm of the last days of 2011, taken up in one batch in the new year. -/
def apiaRun : List Input :=
  [(.apia, .hostContext "clock" (some "g1") true true "authorized" "none"),
    (.apia, .command "clock" (sampleConfigure "wake" (sampleDaily "Pacific/Apia" 2011 12 29))
      (.str "k1") "2011-12-29T00:00:00Z" none false),
    (.apia, .advanceDue "2012-01-05T00:00:00Z" true 3)]

set_option maxRecDepth 100000 in
def apiaRow : AppRow := ((after .empty apiaRun).apps.get? "clock").get (by decide +kernel)

theorem apiaRow_eq : (after .empty apiaRun).apps.get? "clock" = some apiaRow :=
  (Option.some_get _).symm

set_option maxRecDepth 100000 in
def apiaAlarm : Alarm := (apiaRow.alarms.get? "wake").get (by decide +kernel)

theorem apiaAlarm_eq : apiaRow.alarms.get? "wake" = some apiaAlarm := (Option.some_get _).symm

/-- The schedule of that alarm: every day at seven, from 29 December 2011 on. -/
def apiaDaily : LocalRecurrence where
  kind := .daily
  time := ⟨25200, by decide⟩
  startDate := ⟨Calendar.ymd2ord 2011 12 29, by decide⟩
  timeZone := "Pacific/Apia"
  weekdays := []
  daily := fun _ => rfl
  weekly := fun h => by cases h
  nodup := List.nodup_nil

set_option maxRecDepth 100000 in
theorem apiaAlarm_schedule : apiaAlarm.schedule = .recurring apiaDaily := by decide +kernel

theorem recurrence_chain_apia :
    ∃ row, (after (after .empty apiaRun) []).apps.get? "clock" = some row ∧
      row.ChainOf .apia apiaDaily "wake" apiaAlarm.revision := by
  have hzones : ∀ x ∈ apiaRun, x.1.zones = Backend.apia.zones := by simp [apiaRun]
  obtain ⟨row, hrow, hchain, -⟩ :=
    (recurrence_chain hzones apiaRow_eq apiaAlarm_eq apiaAlarm_schedule).1 []
      fun _ h => absurd h List.not_mem_nil
  exact ⟨row, hrow, hchain⟩

/-- Seven in the evening, universal time, of a day of December 2011, on this civil date. -/
def apiaSlot (day : Fin 32) (civil : Date) : Slot :=
  ⟨⟨(734470 + day) * 86400 + 61200, by unfold Calendar.secondCount Calendar.dayCount; omega⟩, civil⟩

set_option maxRecDepth 100000 in
/-- A day of the recurrence, 31 December 2011, lies between two consecutive slots of the alarm. -/
theorem apia_skips_a_day :
    (∀ x ∈ apiaRun, x.1.zones = Backend.apia.zones) ∧
      (after .empty apiaRun).apps.get? "clock" = some apiaRow ∧
      apiaRow.alarms.get? "wake" = some apiaAlarm ∧ apiaAlarm.schedule = .recurring apiaDaily ∧
      ∃ p q d, [p, q] <:+: apiaRow.slots "wake" apiaAlarm.revision ∧ p.civilDate < d ∧
        d < q.civilDate ∧ apiaDaily.startDate ≤ d ∧ apiaDaily.matches d = true := by
  refine ⟨by simp [apiaRun], apiaRow_eq, apiaAlarm_eq, apiaAlarm_schedule, ?_⟩
  let day (y m d : Nat) (h : Calendar.ymd2ord y m d < Calendar.dayCount) : Date := ⟨_, h⟩
  exact ⟨apiaSlot 30 (day 2011 12 30 (by decide)), apiaSlot 31 (day 2012 1 1 (by decide)),
    day 2011 12 31 (by decide), by decide +kernel, by decide, by decide, by decide, rfl⟩

end Vibapp.Scheduler
