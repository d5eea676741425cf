import Vibapp.Scheduler.ClaimSpecs

/-!
# The delivery protocols over runs

What the accounts of `Claims` give for every run of calls, in any order and at any times.

* `notification_laws`: an outbox row is claimed at most three times and was ready each time, it is
  accepted only by the holder of its last claim, and once settled it stays so.
* `guest_laws`: the same of a guest event, which is acknowledged only after an acknowledgment under
  its last claim, by the generation that the app still runs.
* `token_laws`: a token whose claim is over never works again.
-/

namespace Vibapp.Scheduler

/-! ## Histories -/

section

variable {run : List Input} {app : String} {row : AppRow}

theorem accounts_row (hrow : (after .empty run).apps.get? app = some row) :
    row.Accounts (fun _ => True) app (granted app .empty run) :=
  (after_accounts (B := fun _ => True) fun _ _ => trivial).rows hrow

/-- A target is claimed at most three times. -/
theorem length_tokens_le (app : String) (run : List Input) (t : Target) :
    (tokens (granted app .empty run) t).length ≤ 3 := by
  have ha : (after .empty run).Accounts (fun _ => True) fun app => granted app .empty run :=
    after_accounts fun _ _ => trivial
  cases hrow : (after .empty run).apps.get? app with
  | none => simp [ha.absent app hrow]
  | some row =>
    have h := ha.rows hrow
    rw [h.count]
    exact h.limit t

/-- A record that does not change is not claimed. -/
theorem tokens_eq_nil_of_attempts {more : List Input} {row' : AppRow} {t : Target}
    (hrow : (after .empty run).apps.get? app = some row)
    (hrow' : (after .empty (run ++ more)).apps.get? app = some row')
    (h : row'.claims t = row.claims t) : tokens (granted app (after .empty run) more) t = [] := by
  have hcount := (accounts_row hrow).count t
  have hcount' := (accounts_row hrow').count t
  rw [granted_append, tokens_append, List.length_append, h, hcount] at hcount'
  exact List.length_eq_zero_iff.1 (by omega)

end

/-- The event's acknowledgment under this token was recorded by a call of the run, while the token
was that of the last claim. -/
def Acknowledged (app : String) (run : List Input) (id token : String) (outcome : AckOutcome) : Prop :=
  ∃ pre b occurrence text key generation post l',
    run = pre ++ (b, .acknowledge app occurrence text key generation token) :: post ∧
    b.perform (after .empty pre) (.acknowledge app occurrence text key generation token) =
      .ok (l', .response (.ok .null)) ∧
    guestId occurrence = id ∧ ackOutcome? text = some outcome ∧
    (tokens (granted app .empty pre) (.event id)).getLast? = some token

theorem Acknowledged.append {app id token : String} {run : List Input} {outcome : AckOutcome}
    (h : Acknowledged app run id token outcome) (more : List Input) :
    Acknowledged app (run ++ more) id token outcome := by
  obtain ⟨pre, b, occurrence, text, key, generation, post, l', rfl, hrest⟩ := h
  exact ⟨pre, b, occurrence, text, key, generation, post ++ more, l', by simp, hrest⟩

/-- Every recorded acknowledgment is one of the outstanding claim. -/
def AppRow.Requested (app : String) (run : List Input) (row : AppRow) : Prop :=
  ∀ id e outcome, row.guestEvents.get? id = some e → e.ackRequested = some outcome →
    ∃ c, e.claim = some c ∧ Acknowledged app run id c.token outcome

theorem AppRow.Requested.append {app : String} {run : List Input} {row : AppRow}
    (h : row.Requested app run) (more : List Input) : row.Requested app (run ++ more) :=
  fun id e outcome he hack => by
    obtain ⟨c, hc, hrec⟩ := h id e outcome he hack
    exact ⟨c, hc, hrec.append more⟩

section

variable {b : Backend} {app : String} {row row' : AppRow}

theorem Requested.steps {run : List Input} {as : List Act} (hs : Steps (RowStep b app) as row row')
    (hm : row.Matched) (hk : row.Keyed) (h : row.Requested app run)
    (has : ∀ a ∈ as, ∀ id outcome token generation,
      a ≠ .event id (.acknowledge outcome token generation)) : row'.Requested app run := by
  intro id e' outcome he' hack
  have hP := steps_explained
    (P := fun row => ∃ e, row.guestEvents.get? id = some e ∧ e.ackRequested = some outcome ∧
      e.claim = e'.claim)
    (Q := fun act => ∃ token generation, act = .event id (.acknowledge outcome token generation))
    hs hm hk (fun ht _ hP => by
      obtain ⟨g, hg, hgack, hclaim⟩ := hP
      rcases ht.requests hg hgack with ⟨g₀, hg₀, hack₀, hclaim₀⟩ | hact
      · exact .inl ⟨g₀, hg₀, hack₀, hclaim₀.trans hclaim⟩
      · exact .inr hact) ⟨e', he', hack, rfl⟩
  rcases hP with ⟨e, he, hack₀, hclaim⟩ | ⟨a, ha, token, generation, hact⟩
  · obtain ⟨c, hc, hrec⟩ := h id e outcome he hack₀
    exact ⟨c, hclaim.symm.trans hc, hrec⟩
  · exact absurd hact (has a ha id outcome token generation)

end

/-- Only an acknowledgment is allowed to record one. -/
theorem allows_acknowledge {c : Call} {app id token generation : String} {outcome : AckOutcome}
    (h : c.allows app (.event id (.acknowledge outcome token generation))) :
    ∃ occurrence text key, c = .acknowledge app occurrence text key generation token := by
  cases c with
  | acknowledge a occurrence text key g t =>
    obtain ⟨rfl, -, rfl, rfl⟩ := h
    exact ⟨occurrence, text, key, rfl⟩
  | _ => exact h.elim

theorem requested_step {b : Backend} {run : List Input} {c : Call} {app : String} {row' : AppRow}
    (h : (after .empty run).apps.All fun app row => row.Requested app run)
    (hrow' : (b.step (after .empty run) c).apps.get? app = some row') :
    row'.Requested app (run ++ [(b, c)]) := by
  have hl : Reachable (after .empty run) := ⟨run, rfl⟩
  unfold Backend.step at hrow'
  cases hp : b.perform (after .empty run) c with
  | error =>
    rw [hp] at hrow'
    exact (h hrow').append _
  | ok p =>
    obtain ⟨l', r⟩ := p
    rw [hp] at hrow'
    by_cases hc : ∃ a occurrence text key generation token,
      c = .acknowledge a occurrence text key generation token
    · obtain ⟨a, occurrence, text, key, generation, token, rfl⟩ := hc
      rcases perform_acknowledge hp with rfl | ⟨row, row₁, hrow, rfl, hev⟩
      · exact (h hrow').append _
      · rw [get?_setApp] at hrow'
        split at hrow'
        · rename_i happ
          subst happ
          obtain rfl := Option.some.inj hrow'
          rcases hev with hev | ⟨rfl, o, e, c, ho, he, hc, rfl, -, -, hev⟩
          · intro id g outcome hg hack
            rw [hev] at hg
            exact (h hrow).append _ id g outcome hg hack
          · intro id g outcome hg hack
            rw [hev, Dict.get?_set] at hg
            split at hg
            · rename_i hid
              subst hid
              obtain rfl := Option.some.inj hg
              obtain rfl := Option.some.inj hack
              refine ⟨c, hc, run, b, occurrence, text, key, generation, [], _, rfl, hp, rfl, ho, ?_⟩
              refine (accounts_row hrow).last _ _ ?_
              rw [claims_event he]
              exact congrArg (Option.map EventClaim.token) hc
            · exact (h hrow).append _ id g outcome hg hack
        · exact (h hrow').append _
    · obtain ⟨row, as, hrow, has, hsteps, -⟩ := (perform_refines hl.keyed hp).rows app row' hrow'
      have hquiet : ∀ a ∈ as, ∀ id outcome token generation,
          a ≠ .event id (.acknowledge outcome token generation) := fun a ha id outcome token generation hact => by
        rw [hact] at ha
        obtain ⟨occurrence, text, key, hcall⟩ := allows_acknowledge (has _ ha)
        exact hc ⟨_, _, _, _, _, _, hcall⟩
      rcases hrow with hrow | ⟨-, context, rfl⟩
      · exact Requested.steps hsteps (hl.matched hrow) (hl.keyed hrow) ((h hrow).append _) hquiet
      · exact Requested.steps hsteps (matched_new context) (keyed_new context)
          (fun _ _ _ he _ => absurd he (by simp [AppRow.new])) hquiet

/-- Acknowledgments are recorded only under the outstanding claim. -/
theorem after_requested (run : List Input) :
    (after .empty run).apps.All fun app row => row.Requested app run := by
  induction run using List.reverseRecOn with
  | nil => exact Dict.all_empty
  | append_singleton xs x ih =>
    intro app row' hrow'
    rw [after_append] at hrow'
    exact requested_step ih hrow'

/-! ## The notification protocol -/

/-- What the claims of notifications are, after any run. -/
structure NotificationLaws (app : String) (run : List Input) : Prop where
  /-- No row is claimed more than three times. -/
  limit : ∀ id, (tokens (granted app .empty run) (.effect id)).length ≤ 3
  /-- A row that is claimed next was ready for it, its claims being numbered by the run. -/
  claim : ∀ b owner nowUtc l' g,
    Backend.perform b (after .empty run) (.claimNotification app owner nowUtc) =
      .ok (l', .notification (some g)) →
    ∃ row e occ now, (after .empty run).apps.get? app = some row ∧
      row.outbox.get? g.notificationId = some e ∧
      row.occurrences.get? e.occurrenceId = some occ ∧ parseUtc nowUtc = .ok now ∧
      e.Claimable row.context.notificationPermission occ.dueAtUtc now
        (tokens (granted app .empty run) (.effect g.notificationId)).length
  /-- A row becomes accepted only when the holder of its last claim says so. -/
  accepted : ∀ b c l' r row' id e', Backend.perform b (after .empty run) c = .ok (l', r) →
    l'.apps.get? app = some row' → row'.outbox.get? id = some e' → e'.state = .accepted →
    (∃ row, (after .empty run).apps.get? app = some row ∧ row.outbox.get? id = some e') ∨
      ∃ token nowUtc, c = .finishNotification app id token "accepted" nowUtc ∧
        (tokens (granted app .empty run) (.effect id)).getLast? = some token
  /-- A settled row stays as it is and is not claimed again. -/
  settled : ∀ row id e, (after .empty run).apps.get? app = some row → row.outbox.get? id = some e →
    e.state ≠ .pending → ∀ more,
      (∃ row', (after .empty (run ++ more)).apps.get? app = some row' ∧
        row'.outbox.get? id = some e) ∧
      tokens (granted app (after .empty run) more) (.effect id) = []

theorem adapterResult_accepted {s : String} (h : adapterResult? s = some .accepted) :
    s = "accepted" := by
  unfold adapterResult? at h
  split at h <;> first | rfl | cases h

theorem guestResult_success {s : String} (h : guestResult? s = some .success) : s = "success" := by
  unfold guestResult? at h
  split at h <;> first | rfl | cases h

section

variable {run : List Input} {app : String}

theorem claim_of_ready {b : Backend} {owner nowUtc : String} {l' : Ledger} {g : NotificationClaim}
    (h : b.perform (after .empty run) (.claimNotification app owner nowUtc) =
      .ok (l', .notification (some g))) :
    ∃ row e occ now, (after .empty run).apps.get? app = some row ∧
      row.outbox.get? g.notificationId = some e ∧
      row.occurrences.get? e.occurrenceId = some occ ∧ parseUtc nowUtc = .ok now ∧
      e.Claimable row.context.notificationPermission occ.dueAtUtc now
        (tokens (granted app .empty run) (.effect g.notificationId)).length := by
  have hl : Reachable (after .empty run) := ⟨run, rfl⟩
  obtain ⟨⟨l₁, claim⟩, hc, h⟩ := bind_eq_ok.1 h
  cases pure_eq_ok.1 h
  obtain ⟨now, row, row', hnow, hrow, hscan, -⟩ := claimNotification_eq_ok hc
  obtain ⟨e, occ, he, ho, hclaim⟩ := scanEffects_grants (hl.keyed hrow) (.refl row) hscan
  refine ⟨row, e, occ, now, hrow, he, ho, hnow, ?_⟩
  rw [(accounts_row hrow).count, claims_effect he]
  exact hclaim

theorem accepted_by_holder {b : Backend} {c : Call} {l' : Ledger} {r : Reply} {row' : AppRow}
    {id : String} {e' : Effect} (h : b.perform (after .empty run) c = .ok (l', r))
    (hrow' : l'.apps.get? app = some row') (he' : row'.outbox.get? id = some e')
    (hacc : e'.state = .accepted) :
    (∃ row, (after .empty run).apps.get? app = some row ∧ row.outbox.get? id = some e') ∨
      ∃ token nowUtc, c = .finishNotification app id token "accepted" nowUtc ∧
        (tokens (granted app .empty run) (.effect id)).getLast? = some token := by
  have hl : Reachable (after .empty run) := ⟨run, rfl⟩
  obtain ⟨row, as, hrow, has, hsteps, -⟩ := (perform_refines hl.keyed h).rows app row' hrow'
  obtain ⟨hm, hk⟩ : row.Matched ∧ row.Keyed := by
    rcases hrow with hrow | ⟨-, context, rfl⟩
    · exact ⟨hl.matched hrow, hl.keyed hrow⟩
    · exact ⟨matched_new context, keyed_new context⟩
  rcases steps_explained (P := fun row => row.outbox.get? id = some e')
    (Q := fun act => ∃ token now, act = .effect id (.settle token .accepted now)) hsteps hm hk
    (fun ht hm hP => ht.accepts hm hP hacc) he' with he | ⟨a, ha, token, now, rfl⟩
  · left
    rcases hrow with hrow | ⟨-, context, rfl⟩
    · exact ⟨row, hrow, he⟩
    · exact absurd he (by simp [AppRow.new])
  · right
    have hall := has _ ha
    cases c with
    | finishNotification a i t result nowUtc =>
      obtain ⟨rfl, rfl, rfl, hres, -⟩ := hall
      obtain rfl := adapterResult_accepted hres
      refine ⟨token, nowUtc, rfl, ?_⟩
      obtain ⟨row₀, row₁, res, t', hrow₀, -, hf, -⟩ := perform_finishNotification h
      obtain ⟨⟨e, c, he, hc, rfl⟩, -⟩ := finishEffect_eq_ok hf
      refine (accounts_row hrow₀).last _ _ ?_
      rw [claims_effect he]
      exact congrArg (Option.map EffectClaim.token) hc
    | _ => exact hall.elim

/-- **The notification protocol.** After every run of calls, in any order and at any times, an
outbox row has been claimed at most three times and each time was ready for it, it is accepted only
by the holder of its last claim, and once settled it stays so. -/
theorem notification_laws (app : String) (run : List Input) : NotificationLaws app run where
  limit id := length_tokens_le app run (.effect id)
  claim _ _ _ _ _ h := claim_of_ready h
  accepted _ _ _ _ _ _ _ h hrow' he' hacc := accepted_by_holder h hrow' he' hacc
  settled row id e hrow he hstate more := by
    have hl : Reachable (after .empty run) := ⟨run, rfl⟩
    obtain ⟨row', hrow', hgrows⟩ := after_grows hl more hrow
    obtain ⟨e', he', hle⟩ := hgrows.outbox he
    obtain rfl := hle hstate
    rw [← after_append] at hrow'
    refine ⟨⟨row', hrow', he'⟩, tokens_eq_nil_of_attempts hrow hrow' ?_⟩
    rw [claims_effect he, claims_effect he']

end

/-! ## The guest event protocol -/

/-- What the claims of guest events are, after any run. -/
structure GuestLaws (app : String) (run : List Input) : Prop where
  /-- No event is claimed more than three times. -/
  limit : ∀ id, (tokens (granted app .empty run) (.event id)).length ≤ 3
  /-- An event that is claimed next was ready for it, and goes to the generation the app runs. -/
  claim : ∀ b owner nowUtc l' g,
    Backend.perform b (after .empty run) (.claimGuest app owner nowUtc) = .ok (l', .guest (some g)) →
    ∃ row e now, (after .empty run).apps.get? app = some row ∧
      row.guestEvents.get? g.guestEventId = some e ∧ parseUtc nowUtc = .ok now ∧
      row.context.Runs g.generation ∧
      e.Claimable now (tokens (granted app .empty run) (.event g.guestEventId)).length ∧
      g.attempt = (tokens (granted app .empty run) (.event g.guestEventId)).length + 1
  /-- An event becomes acknowledged only when the holder of its last claim, of the generation that
  the app still runs, reports success after an acknowledgment under that very claim. -/
  acked : ∀ b c l' r row' id e', Backend.perform b (after .empty run) c = .ok (l', r) →
    l'.apps.get? app = some row' → row'.guestEvents.get? id = some e' → e'.state = .acked →
    (∃ row, (after .empty run).apps.get? app = some row ∧ row.guestEvents.get? id = some e') ∨
      ∃ token row e claim outcome, c = .finishGuest app id token "success" ∧
        (tokens (granted app .empty run) (.event id)).getLast? = some token ∧
        (after .empty run).apps.get? app = some row ∧ row.guestEvents.get? id = some e ∧
        e.claim = some claim ∧ claim.token = token ∧ row.context.Runs claim.generation ∧
        Acknowledged app run id token outcome ∧ e'.guestOutcome = some outcome
  /-- A settled event stays as it is and is not claimed again. -/
  settled : ∀ row id e, (after .empty run).apps.get? app = some row →
    row.guestEvents.get? id = some e → e.state ≠ .pending → ∀ more,
      (∃ row', (after .empty (run ++ more)).apps.get? app = some row' ∧
        row'.guestEvents.get? id = some e) ∧
      tokens (granted app (after .empty run) more) (.event id) = []

section

variable {run : List Input} {app : String}

theorem guest_claim_of_ready {b : Backend} {owner nowUtc : String} {l' : Ledger} {g : GuestClaim}
    (h : b.perform (after .empty run) (.claimGuest app owner nowUtc) = .ok (l', .guest (some g))) :
    ∃ row e now, (after .empty run).apps.get? app = some row ∧
      row.guestEvents.get? g.guestEventId = some e ∧ parseUtc nowUtc = .ok now ∧
      row.context.Runs g.generation ∧
      e.Claimable now (tokens (granted app .empty run) (.event g.guestEventId)).length ∧
      g.attempt = (tokens (granted app .empty run) (.event g.guestEventId)).length + 1 := by
  have hl : Reachable (after .empty run) := ⟨run, rfl⟩
  obtain ⟨⟨l₁, claim⟩, hc, h⟩ := bind_eq_ok.1 h
  cases pure_eq_ok.1 h
  obtain ⟨now, row, hnow, hrow, ⟨hnone, -⟩ | ⟨generation, row', hg, hscan, -⟩⟩ := claimGuest_eq_ok hc
  · exact absurd hnone (by simp)
  · obtain ⟨e, he, hclaim, rfl, hattempt⟩ :=
      scanEvents_grants (hl.keyed hrow) (fun _ _ he _ => he) hscan
    refine ⟨row, e, now, hrow, he, hnow, guestGeneration_eq_some hg, ?_⟩
    rw [(accounts_row hrow).count, claims_event he]
    exact ⟨hclaim, hattempt⟩

theorem acked_by_holder {b : Backend} {c : Call} {l' : Ledger} {r : Reply} {row' : AppRow}
    {id : String} {e' : Event} (h : b.perform (after .empty run) c = .ok (l', r))
    (hrow' : l'.apps.get? app = some row') (he' : row'.guestEvents.get? id = some e')
    (hacked : e'.state = .acked) :
    (∃ row, (after .empty run).apps.get? app = some row ∧ row.guestEvents.get? id = some e') ∨
      ∃ token row e claim outcome, c = .finishGuest app id token "success" ∧
        (tokens (granted app .empty run) (.event id)).getLast? = some token ∧
        (after .empty run).apps.get? app = some row ∧ row.guestEvents.get? id = some e ∧
        e.claim = some claim ∧ claim.token = token ∧ row.context.Runs claim.generation ∧
        Acknowledged app run id token outcome ∧ e'.guestOutcome = some outcome := by
  have hl : Reachable (after .empty run) := ⟨run, rfl⟩
  obtain ⟨row, as, hrow, has, hsteps, -⟩ := (perform_refines hl.keyed h).rows app row' hrow'
  obtain ⟨hm, hk⟩ : row.Matched ∧ row.Keyed := by
    rcases hrow with hrow | ⟨-, context, rfl⟩
    · exact ⟨hl.matched hrow, hl.keyed hrow⟩
    · exact ⟨matched_new context, keyed_new context⟩
  rcases steps_explained (P := fun row => row.guestEvents.get? id = some e')
    (Q := fun act => ∃ token, act = .event id (.settle token .success)) hsteps hm hk
    (fun ht hm hP => ht.acks hm hP hacked) he' with he | ⟨a, ha, token, rfl⟩
  · left
    rcases hrow with hrow | ⟨-, context, rfl⟩
    · exact ⟨row, hrow, he⟩
    · exact absurd he (by simp [AppRow.new])
  · right
    have hall := has _ ha
    cases c with
    | finishGuest a i t result =>
      obtain ⟨rfl, rfl, rfl, hres⟩ := hall
      obtain rfl := guestResult_success hres
      obtain ⟨row₀, row₁, res, hrow₀, hres₀, hf, rfl⟩ := perform_finishGuest h
      rw [get?_setApp, if_pos rfl] at hrow'
      obtain rfl := Option.some.inj hrow'
      obtain rfl : res = .success := Option.some.inj (hres₀.symm.trans hres)
      obtain ⟨e, claim, e₁, he, hc, rfl, he₁, -, hsuccess⟩ := finishEvent_eq_ok hf
      obtain rfl : e₁ = e' := Option.some.inj (he₁.symm.trans he')
      obtain ⟨hruns, outcome, hack, hout⟩ := hsuccess rfl
      obtain ⟨c, hc', hrec⟩ := after_requested run hrow₀ id e outcome he hack
      obtain rfl : c = claim := Option.some.inj (hc'.symm.trans hc)
      refine ⟨_, row₀, e, c, outcome, rfl, ?_, hrow₀, he, hc, rfl, hruns, hrec, hout⟩
      refine (accounts_row hrow₀).last _ _ ?_
      rw [claims_event he]
      exact congrArg (Option.map EventClaim.token) hc
    | _ => exact hall.elim

/-- **The guest event protocol.** After every run of calls, in any order and at any times, a guest
event has been claimed at most three times and each time was ready for it, it is acknowledged only
by the holder of its last claim after an acknowledgment under that claim, and once settled it stays
so. -/
theorem guest_laws (app : String) (run : List Input) : GuestLaws app run where
  limit id := length_tokens_le app run (.event id)
  claim _ _ _ _ _ h := guest_claim_of_ready h
  acked _ _ _ _ _ _ _ h hrow' he' hacked := acked_by_holder h hrow' he' hacked
  settled row id e hrow he hstate more := by
    have hl : Reachable (after .empty run) := ⟨run, rfl⟩
    obtain ⟨row', hrow', hgrows⟩ := after_grows hl more hrow
    obtain ⟨e', he', hle⟩ := hgrows.events he
    obtain rfl := hle hstate
    rw [← after_append] at hrow'
    refine ⟨⟨row', hrow', he'⟩, tokens_eq_nil_of_attempts hrow hrow' ?_⟩
    rw [claims_event he, claims_event he']

end

/-! ## Tokens -/

/-- The target and the token that a finish names. -/
def Call.finishes : Call → Option (String × Target × String)
  | .finishNotification app id token _ _ => some (app, .effect id, token)
  | .finishGuest app id token _ => some (app, .event id, token)
  | _ => none

/-- The token was granted for the target, and its claim is over. -/
def Spent (app : String) (t : Target) (token : String) (run : List Input) : Prop :=
  token ∈ tokens (granted app .empty run) t ∧
    ∀ row, (after .empty run).apps.get? app = some row → (row.claims t).outstanding ≠ some token

/-- What the tokens of an app's claims are good for, after any run. -/
structure TokenLaws (app : String) (run : List Input) : Prop where
  /-- No token is granted twice for a target. -/
  distinct : ∀ t, (tokens (granted app .empty run) t).Nodup
  /-- A finish that succeeds names the last token granted, which is then spent. -/
  finish : ∀ b c t token p, c.finishes = some (app, t, token) →
    Backend.perform b (after .empty run) c = .ok p →
    (tokens (granted app .empty run) t).getLast? = some token ∧ Spent app t token (run ++ [(b, c)])
  /-- A finish with a spent token fails. -/
  refused : ∀ b c t token p, c.finishes = some (app, t, token) → Spent app t token run →
    Backend.perform b (after .empty run) c ≠ .ok p
  /-- An acknowledgment with a spent token leaves the guest events alone. -/
  ignored : ∀ b occurrence outcome key generation token p row',
    Spent app (.event (guestId occurrence)) token run →
    Backend.perform b (after .empty run)
      (.acknowledge app occurrence outcome key generation token) = .ok p →
    p.1.apps.get? app = some row' →
    ∃ row, (after .empty run).apps.get? app = some row ∧ row'.guestEvents = row.guestEvents
  /-- A token that was spent before is spent. -/
  spent : ∀ pre post t token, run = pre ++ post → Spent app t token pre → Spent app t token run

section

variable {sha : String → String} {app : String} {run : List Input}

/-- The number of a claim can be read off its token. -/
theorem Issued.number {B : Backend → Prop} (hinj : Function.Injective sha)
    (hB : ∀ b, B b → b.sha256 = sha) {t : Target} {n m : Nat} {token : String}
    (h₁ : Issued B app t n token) (h₂ : Issued B app t m token) : n = m := by
  obtain ⟨b₁, owner₁, hb₁, h₁⟩ := h₁
  obtain ⟨b₂, owner₂, hb₂, h₂⟩ := h₂
  have hsort := digest_inj hinj (hB b₁ hb₁) (hB b₂ hb₂) h₁ h₂
  have h : owner₁ = owner₂ ∧ n = m := by simpa [Json.sortKeys, Json.sortItems, natJson] using hsort
  exact h.2

/-- An outstanding token was outstanding before, or is granted by the steps. -/
theorem outstanding_of_steps {b : Backend} {as : List Act} {row row' : AppRow} {t : Target}
    {token : String} (hs : Steps (RowStep b app) as row row') (hm : row.Matched) (hk : row.Keyed)
    (h : (row'.claims t).outstanding = some token) :
    (row.claims t).outstanding = some token ∨ token ∈ tokens (as.filterMap Act.grant?) t := by
  induction hs with
  | nil => exact .inl h
  | @cons act as row₁ row₂ row₃ head tail ih =>
    have hcons : tokens ((act :: as).filterMap Act.grant?) t =
        tokens act.grant?.toList t ++ tokens (as.filterMap Act.grant?) t := by
      rw [List.filterMap_cons, ← tokens_append]
      cases act.grant? <;> rfl
    rw [hcons, List.mem_append]
    rcases ih (head.matched hm) (head.keyed hk) h with hmid | hmem
    · rcases (head.tables hm hk).claimStep.kept t token hmid with hold | ⟨g, hg, rfl, rfl⟩
      · exact .inl hold
      · refine .inr (.inl ?_)
        rw [hg, Option.toList_some, tokens_singleton_self]
        exact List.mem_singleton_self _
    · exact .inr (.inr hmem)

theorem outstanding_of_step {b : Backend} {l : Ledger} {c : Call} {t : Target} {token : String}
    {row' : AppRow} (hk : l.Keyed) (hm : l.apps.All fun _ row => row.Matched)
    (hrow' : (b.step l c).apps.get? app = some row') (h : (row'.claims t).outstanding = some token) :
    (∃ row, l.apps.get? app = some row ∧ (row.claims t).outstanding = some token) ∨
      token ∈ tokens (b.grants l c app) t := by
  unfold Backend.step at hrow'
  unfold Backend.grants
  cases hp : b.perform l c with
  | error =>
    rw [hp] at hrow'
    exact .inl ⟨row', hrow', h⟩
  | ok p =>
    obtain ⟨l', r⟩ := p
    rw [hp] at hrow'
    obtain ⟨row, as, hrow, -, hsteps, hgrants⟩ := (perform_refines hk hp).rows app row' hrow'
    show _ ∨ token ∈ tokens (c.grants r app) t
    rw [← hgrants]
    rcases hrow with hrow | ⟨-, context, rfl⟩
    · exact (outstanding_of_steps hsteps (hm hrow) (hk hrow) h).imp_left fun h => ⟨row, hrow, h⟩
    · refine (outstanding_of_steps hsteps (matched_new context) (keyed_new context) h).imp_left
        fun h => absurd h ?_
      simp [claims_new]

/-- An outstanding token was outstanding before, or was granted since. -/
theorem outstanding_cases {more : List Input} {t : Target} {token : String} {row' : AppRow}
    (hrow' : (after .empty (run ++ more)).apps.get? app = some row')
    (h : (row'.claims t).outstanding = some token) :
    (∃ row, (after .empty run).apps.get? app = some row ∧
      (row.claims t).outstanding = some token) ∨
      token ∈ tokens (granted app (after .empty run) more) t := by
  induction more using List.reverseRecOn generalizing row' with
  | nil =>
    rw [List.append_nil] at hrow'
    exact .inl ⟨row', hrow', h⟩
  | append_singleton xs x ih =>
    have hl : Reachable (after .empty (run ++ xs)) := ⟨_, rfl⟩
    rw [← List.append_assoc, after_append] at hrow'
    rw [granted_append, tokens_append, List.mem_append]
    rcases outstanding_of_step hl.keyed hl.matched hrow' h with ⟨row, hrow, hold⟩ | hnew
    · exact (ih hrow hold).imp_right .inl
    · right
      right
      rw [← after_append]
      simpa [granted] using hnew

/-- A finish that succeeds names the outstanding claim, and ends it. -/
theorem finish_eq_ok {b : Backend} {l l' : Ledger} {r : Reply} {c : Call} {t : Target} {token : String}
    (hc : c.finishes = some (app, t, token)) (h : b.perform l c = .ok (l', r)) :
    (∃ row, l.apps.get? app = some row ∧ (row.claims t).outstanding = some token) ∧
      ∃ row', l'.apps.get? app = some row' ∧ (row'.claims t).outstanding = none := by
  cases c with
  | finishNotification a id token' result nowUtc =>
    obtain ⟨rfl, rfl, rfl⟩ : a = app ∧ .effect id = t ∧ token' = token := by
      simpa [Call.finishes] using hc
    obtain ⟨row, row', res, now, hrow, -, hf, rfl⟩ := perform_finishNotification h
    obtain ⟨⟨e, c, he, hclaim, rfl⟩, e', he', hnone⟩ := finishEffect_eq_ok hf
    refine ⟨⟨row, hrow, ?_⟩, row', by rw [get?_setApp, if_pos rfl], ?_⟩
    · rw [claims_effect he]
      exact congrArg (Option.map EffectClaim.token) hclaim
    · rw [claims_effect he']
      exact congrArg (Option.map EffectClaim.token) hnone
  | finishGuest a id token' result =>
    obtain ⟨rfl, rfl, rfl⟩ : a = app ∧ .event id = t ∧ token' = token := by
      simpa [Call.finishes] using hc
    obtain ⟨row, row', res, hrow, -, hf, rfl⟩ := perform_finishGuest h
    obtain ⟨e, c, e', he, hclaim, rfl, he', hnone, -⟩ := finishEvent_eq_ok hf
    refine ⟨⟨row, hrow, ?_⟩, row', by rw [get?_setApp, if_pos rfl], ?_⟩
    · rw [claims_event he]
      exact congrArg (Option.map EventClaim.token) hclaim
    · rw [claims_event he']
      exact congrArg (Option.map EventClaim.token) hnone
  | _ => exact absurd hc (by simp [Call.finishes])

theorem tokens_nodup (hinj : Function.Injective sha) (hrun : ∀ x ∈ run, x.1.sha256 = sha)
    (t : Target) : (tokens (granted app .empty run) t).Nodup := by
  have ha := after_accounts (B := fun b => b.sha256 = sha) hrun
  cases hrow : (after .empty run).apps.get? app with
  | none => simp [ha.absent app hrow]
  | some row =>
    rw [List.nodup_iff_getElem?_ne_getElem?]
    intro i j hij hj heq
    have hget : (tokens (granted app .empty run) t)[j]? =
        some (tokens (granted app .empty run) t)[j] := List.getElem?_eq_getElem hj
    have h := ((ha.rows hrow).issued t j _ hget).number hinj (fun _ h => h)
      ((ha.rows hrow).issued t i _ (heq.trans hget))
    omega

/-- **Spent is spent.** A token that is not outstanding any more never is again. -/
theorem Spent.append {t : Target} {token : String} {more : List Input} (h : Spent app t token run)
    (hnodup : (tokens (granted app .empty (run ++ more)) t).Nodup) :
    Spent app t token (run ++ more) := by
  rw [granted_append, tokens_append] at hnodup
  refine ⟨?_, fun row hrow hout => ?_⟩
  · rw [granted_append, tokens_append]
    exact List.mem_append_left _ h.1
  · rcases outstanding_cases hrow hout with ⟨row₀, hrow₀, hout₀⟩ | hmem
    · exact h.2 row₀ hrow₀ hout₀
    · exact List.disjoint_of_nodup_append hnodup h.1 hmem

/-- **Tokens.** Where the digest is injective, a claim's token is its own: it is granted once for its
target, it finishes the claim at most once and only while the claim is the last one granted, and
once the claim is over, finished or recovered, it never does anything again. -/
theorem token_laws (hinj : Function.Injective sha) (hrun : ∀ x ∈ run, x.1.sha256 = sha) :
    TokenLaws app run where
  distinct := tokens_nodup hinj hrun
  finish b c t token p hc h := by
    obtain ⟨⟨row, hrow, hout⟩, row', hrow', hnone⟩ := finish_eq_ok hc h
    have hlast := (accounts_row hrow).last t token hout
    refine ⟨hlast, ?_, fun row₁ hrow₁ => ?_⟩
    · rw [granted_append, tokens_append]
      exact List.mem_append_left _ (List.mem_of_getLast? hlast)
    · have hstep : after .empty (run ++ [(b, c)]) = p.1 := by
        rw [after_append]
        show b.step _ _ = _
        unfold Backend.step
        rw [h]
      rw [hstep, hrow'] at hrow₁
      rw [← Option.some.inj hrow₁, hnone]
      simp
  refused b c t token p hc hspent h := by
    obtain ⟨⟨row, hrow, hout⟩, -⟩ := finish_eq_ok hc h
    exact hspent.2 row hrow hout
  ignored b occurrence outcome key generation token p row' hspent h hrow' := by
    rcases perform_acknowledge h with hl | ⟨row, row₁, hrow, hl, hev⟩
    · rw [hl] at hrow'
      exact ⟨row', hrow', rfl⟩
    · rw [hl, get?_setApp, if_pos rfl] at hrow'
      obtain rfl := Option.some.inj hrow'
      rcases hev with hev | ⟨-, o, e, c, -, he, hc, rfl, -⟩
      · exact ⟨row, hrow, hev⟩
      · refine absurd ?_ (hspent.2 row hrow)
        rw [claims_event he]
        exact congrArg (Option.map EventClaim.token) hc
  spent pre post t token hsplit h := by
    subst hsplit
    exact h.append (tokens_nodup hinj hrun t)

/-- A backend that uses a text as its own digest. -/
def Backend.plain : Backend := { Backend.sample with sha256 := id }

/-- The sample run through it, and a claim. -/
def claimedRun : List Input :=
  sampleRun.map (fun x => (.plain, x.2)) ++
    [(.plain, .claimNotification "clock" "d1" "2024-01-01T07:00:00Z")]

theorem token_laws_sample : TokenLaws "clock" claimedRun :=
  token_laws Function.injective_id fun x hx => by
    rcases List.mem_append.1 hx with hx | hx
    · obtain ⟨y, -, rfl⟩ := List.mem_map.1 hx
      rfl
    · rw [List.mem_singleton.1 hx]
      rfl

end

end Vibapp.Scheduler
