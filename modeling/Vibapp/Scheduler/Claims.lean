import Vibapp.Scheduler.Correspondence

/-!
# Claims of notifications and guest events

An outbox row or a guest event is delivered under a claim: `claim_notification` and `claim_guest`
grant one with a token, and a finish, an acknowledgment or a lost owner refers to it. The results
are about whole runs. `granted` collects the claims that the calls of a run reported, and
`AppRow.Accounts` ties this history to the ledger.

**Accounts.** The count a record keeps is the number of claims granted on it, which is at most
three; the token of the `n`-th claim is the digest of the app, the id, an owner and `n`; an
outstanding claim is the last one granted. `TableStep` says what one transition does to the two
tables, `ClaimStep` what that means for the claims, and `after_accounts` follows for every run.
-/

namespace Vibapp.Scheduler

/-! ## What is claimed -/

/-- What a claim is of: an outbox row or a guest event. -/
inductive Target
  | effect (id : String)
  | event (id : String)
deriving DecidableEq

def Target.id : Target → String
  | .effect id => id
  | .event id => id

def Grant.target : Grant → Target
  | .effect id _ => .effect id
  | .event id _ => .event id

def Grant.token : Grant → String
  | .effect _ token => token
  | .event _ token => token

/-- The claims of a record: how many there were, and the token of the outstanding one. -/
structure Claims where
  attempts : Nat
  outstanding : Option String

def Effect.claims (e : Effect) : Claims := ⟨e.adapterAttemptCount, e.claim.map EffectClaim.token⟩

def Event.claims (e : Event) : Claims := ⟨e.attempts, e.claim.map EventClaim.token⟩

/-- The claims of each target of a row. -/
def AppRow.claims (row : AppRow) : Target → Claims
  | .effect id => ((row.outbox.get? id).map Effect.claims).getD ⟨0, none⟩
  | .event id => ((row.guestEvents.get? id).map Event.claims).getD ⟨0, none⟩

theorem claims_new (c : Context) (t : Target) : (AppRow.new c).claims t = ⟨0, none⟩ := by
  cases t <;> rfl

section

variable {row row' : AppRow}

theorem claims_effect {id : String} {e : Effect} (he : row.outbox.get? id = some e) :
    row.claims (.effect id) = e.claims := by
  simp [AppRow.claims, he]

theorem claims_event {id : String} {e : Event} (he : row.guestEvents.get? id = some e) :
    row.claims (.event id) = e.claims := by
  simp [AppRow.claims, he]

/-- A target with an outstanding claim exists. -/
theorem effect_of_outstanding {id token : String}
    (h : (row.claims (.effect id)).outstanding = some token) :
    ∃ e c, row.outbox.get? id = some e ∧ e.claim = some c ∧ c.token = token := by
  cases he : row.outbox.get? id with
  | none => simp [AppRow.claims, he] at h
  | some e =>
    rw [claims_effect he] at h
    obtain ⟨c, hc, htoken⟩ := Option.map_eq_some_iff.1 h
    exact ⟨e, c, rfl, hc, htoken⟩

theorem claims_setEffect {key : String} {e' : Effect} (hout : row'.outbox = row.outbox.set key e')
    (hev : row'.guestEvents = row.guestEvents) :
    row'.claims = Function.update row.claims (.effect key) e'.claims := by
  funext t
  by_cases ht : t = .effect key
  · rw [ht, Function.update_self]
    exact claims_effect (by rw [hout, Dict.get?_set_self])
  · rw [Function.update_of_ne ht]
    cases t with
    | effect id =>
      have hid : id ≠ key := fun h => ht (h ▸ rfl)
      simp [AppRow.claims, hout, Dict.get?_set_ne _ hid]
    | event id => simp [AppRow.claims, hev]

theorem claims_setEvent {key : String} {e' : Event}
    (hev : row'.guestEvents = row.guestEvents.set key e') (hout : row'.outbox = row.outbox) :
    row'.claims = Function.update row.claims (.event key) e'.claims := by
  funext t
  by_cases ht : t = .event key
  · rw [ht, Function.update_self]
    exact claims_event (by rw [hev, Dict.get?_set_self])
  · rw [Function.update_of_ne ht]
    cases t with
    | effect id => simp [AppRow.claims, hout]
    | event id =>
      have hid : id ≠ key := fun h => ht (h ▸ rfl)
      simp [AppRow.claims, hev, Dict.get?_set_ne _ hid]

theorem claims_of_eq (hout : row'.outbox = row.outbox) (hev : row'.guestEvents = row.guestEvents) :
    row'.claims = row.claims := by
  funext t
  cases t <;> simp [AppRow.claims, hout, hev]

end

/-! ## The two tables -/

/-- What a transition does to the outbox and the guest events of a row: nothing, it adds the
unclaimed records of a slot that fires, or it changes one record as the protocols allow. -/
inductive TableStep (b : Backend) (app : String) (row row' : AppRow) : Act → Prop
  | same {act : Act} (hact : act.grant? = none) (hout : row'.outbox = row.outbox)
      (hev : row'.guestEvents = row.guestEvents) : TableStep b app row row' act
  | fired {oid key : String} {e : Effect} {gid : String} {g : Event}
      (hout : row'.outbox = row.outbox ∨ row.outbox.get? key = none ∧
        row'.outbox = row.outbox.set key e)
      (he : e.state = .pending ∧ e.claims = ⟨0, none⟩) (hgid : row.guestEvents.get? gid = none)
      (hev : row'.guestEvents = row.guestEvents.set gid g)
      (hg : g.state = .pending ∧ g.claims = ⟨0, none⟩ ∧ g.ackRequested = none) :
      TableStep b app row row' (.slot oid)
  | effect {key : String} {act : EffectAct} {e e' : Effect} {due : Instant}
      {state : Option OccurrenceState} (he : row.outbox.get? key = some e)
      (hstep : EffectStep row.context.notificationPermission due act e e' state)
      (htoken : ∀ owner token now, act = .grant owner token now →
        b.claimToken app key owner (e.adapterAttemptCount + 1) = .ok token)
      (hout : row'.outbox = row.outbox.set key e') (hev : row'.guestEvents = row.guestEvents) :
      TableStep b app row row' (.effect key act)
  | event {key : String} {act : EventAct} {e e' : Event} (he : row.guestEvents.get? key = some e)
      (hstep : EventStep row act e e')
      (htoken : ∀ owner token generation now, act = .grant owner token generation now →
        b.claimToken app key owner (e.attempts + 1) = .ok token)
      (hev : row'.guestEvents = row.guestEvents.set key e') (hout : row'.outbox = row.outbox) :
      TableStep b app row row' (.event key act)

section

variable {b : Backend} {app : String} {row row' : AppRow}

theorem superseded_tables (row : AppRow) (id : String) :
    (row.superseded id).outbox = row.outbox ∧ (row.superseded id).guestEvents = row.guestEvents := by
  unfold AppRow.superseded
  split <;> exact ⟨rfl, rfl⟩

theorem cancelSlot_tables (oid : String) (occ : Occurrence) (a : Alarm) :
    (row.cancelSlot oid occ a).outbox = row.outbox ∧
      (row.cancelSlot oid occ a).guestEvents = row.guestEvents := by
  unfold AppRow.cancelSlot
  dsimp only
  split <;> exact ⟨rfl, rfl⟩

/-- A slot that fires makes records of its own, which nobody has claimed. -/
theorem fireSlot_tables (hm : row.Matched) {x : Advance} {oid : String} {occ : Occurrence} {a : Alarm}
    (ho : row.occurrences.get? oid = some occ) (hs : occ.state = .scheduled)
    (h : b.fireSlot x app row oid occ a = .ok row') : TableStep b app row row' (.slot oid) := by
  have hagree := hm.agree oid
  rw [ho] at hagree
  have hnew : row.outbox.get? (notifyId oid) = none := by
    have h := hagree.1
    rw [hs] at h
    exact Option.map_eq_none_iff.1 h
  have hgid : row.guestEvents.get? (guestId oid) = none := by
    cases hg : row.guestEvents.get? (guestId oid) with
    | none => rfl
    | some g =>
      rw [hg] at hagree
      exact absurd hs (hagree.2.1 rfl).1
  have hfired : ∀ adapterId, row'.outbox = (row.fired x oid occ a adapterId).outbox →
      row'.guestEvents = (row.fired x oid occ a adapterId).guestEvents →
      TableStep b app row row' (.slot oid) := fun adapterId hout hev => by
    have hout : row'.outbox = row.outbox ∨ row.outbox.get? (notifyId oid) = none ∧
        row'.outbox = row.outbox.set (notifyId oid) (newEffect x a oid adapterId) := by
      rw [hout]
      show (if _ then _ else _) = _ ∨ _ ∧ (if _ then _ else _) = _
      split
      · exact .inr ⟨hnew, rfl⟩
      · exact .inl rfl
    exact .fired hout ⟨rfl, rfl⟩ hgid hev ⟨rfl, rfl, rfl⟩
  obtain ⟨adapterId, ⟨-, rfl⟩ | ⟨-, -, rfl⟩ | ⟨-, -, slot, -, -, rfl⟩⟩ := fireSlot_eq_ok h <;>
    exact hfired adapterId rfl rfl

theorem RowStep.tables {act : Act} (hs : RowStep b app act row row') (hm : row.Matched)
    (hk : row.Keyed) : TableStep b app row row' act := by
  cases hs with
  | context => exact .same rfl rfl rfl
  | health => exact .same rfl rfl rfl
  | disable => exact .same rfl rfl rfl
  | install => exact .same rfl (superseded_tables row _).1 (superseded_tables row _).2
  | enable => exact .same rfl rfl rfl
  | snooze => exact .same rfl rfl rfl
  | receipt => exact .same rfl rfl rfl
  | dedup => exact .same rfl rfl rfl
  | cancelSlot => exact .same rfl (cancelSlot_tables _ _ _).1 (cancelSlot_tables _ _ _).2
  | fireSlot ho hsched _ _ _ hf => exact fireSlot_tables hm ho hsched hf
  | effect he ho hstep htoken =>
    rw [hk.outbox he] at htoken
    exact .effect he hstep htoken rfl rfl
  | @recoverEffect _ key e c he hc hn =>
    have hstep : EffectStep row.context.notificationPermission e.firstEligibleAtUtc
        (.recover c.owner) e { e with claim := none } none := .recover hc hn
    exact .effect he hstep (fun _ _ _ h => by cases h) rfl rfl
  | event he hstep _ htoken =>
    rw [hk.events he] at htoken
    exact .event he hstep htoken rfl rfl
  | acked he ho hstep hact =>
    refine .event he hstep (fun _ _ _ _ h => ?_) rfl rfl
    rw [h] at hact
    exact absurd hact (by simp [EventAct.isSuccess])

end

/-! ## One transition -/

/-- What a transition that grants `g`, if anything, does to the claims of a row: it counts the
claim, which is of an unclaimed target below its limit, and otherwise only takes claims away. -/
structure ClaimStep (b : Backend) (app : String) (g : Option Grant) (row row' : AppRow) : Prop where
  attempts : ∀ t, (row'.claims t).attempts =
    (row.claims t).attempts + if g.map Grant.target = some t then 1 else 0
  kept : ∀ t token, (row'.claims t).outstanding = some token →
    (row.claims t).outstanding = some token ∨ ∃ g', g = some g' ∧ g'.target = t ∧ g'.token = token
  fresh : ∀ g', g = some g' → (row.claims g'.target).attempts < 3 ∧
    (row.claims g'.target).outstanding = none ∧
    ∃ owner, b.claimToken app g'.target.id owner ((row.claims g'.target).attempts + 1) = .ok g'.token

section

variable {b : Backend} {app : String} {row row' : AppRow}

theorem ClaimStep.of_eq (h : row'.claims = row.claims) : ClaimStep b app none row row' where
  attempts t := by simp [h]
  kept t token ht := .inl (by rwa [h] at ht)
  fresh _ hg := absurd hg (by simp)

/-- The claims of one target change and nothing is granted: the count stays, and what is still
outstanding was. -/
theorem ClaimStep.of_quiet {t : Target} {c : Claims} (h : row'.claims = Function.update row.claims t c)
    (hcount : c.attempts = (row.claims t).attempts)
    (hkept : c.outstanding = none ∨ c.outstanding = (row.claims t).outstanding) :
    ClaimStep b app none row row' where
  attempts t' := by
    rw [h]
    by_cases ht : t' = t
    · rw [ht, Function.update_self, hcount]
      rfl
    · rw [Function.update_of_ne ht]
      rfl
  kept t' token htoken := by
    left
    rw [h] at htoken
    by_cases ht : t' = t
    · rw [ht, Function.update_self] at htoken
      rcases hkept with hnone | hsame
      · simp [hnone] at htoken
      · rwa [ht, ← hsame]
    · rwa [Function.update_of_ne ht] at htoken
  fresh _ hg := absurd hg (by simp)

/-- A claim is granted on an unclaimed target. -/
theorem ClaimStep.of_grant {g : Grant} {c : Claims}
    (h : row'.claims = Function.update row.claims g.target c)
    (hcount : c.attempts = (row.claims g.target).attempts + 1) (hclaim : c.outstanding = some g.token)
    (hlt : (row.claims g.target).attempts < 3) (hnone : (row.claims g.target).outstanding = none)
    (htoken : ∃ owner,
      b.claimToken app g.target.id owner ((row.claims g.target).attempts + 1) = .ok g.token) :
    ClaimStep b app (some g) row row' where
  attempts t := by
    rw [h]
    by_cases ht : t = g.target
    · rw [ht, Function.update_self, hcount]
      simp
    · have ht' : g.target ≠ t := fun h => ht h.symm
      rw [Function.update_of_ne ht]
      simp [ht']
  kept t token ht := by
    rw [h] at ht
    by_cases htarget : t = g.target
    · rw [htarget, Function.update_self, hclaim] at ht
      exact .inr ⟨g, rfl, htarget.symm, Option.some.inj ht⟩
    · rw [Function.update_of_ne htarget] at ht
      exact .inl ht
  fresh g' hg := by
    obtain rfl := Option.some.inj hg
    exact ⟨hlt, hnone, htoken⟩

/-- **One transition.** What an act grants is all a transition adds to the claims of a row. -/
theorem TableStep.claimStep {act : Act} (hs : TableStep b app row row' act) :
    ClaimStep b app act.grant? row row' := by
  cases hs with
  | same hact hout hev =>
    rw [hact]
    exact .of_eq (claims_of_eq hout hev)
  | @fired oid key e gid g hout he hgid hev hg =>
    refine .of_eq (funext fun t => ?_)
    cases t with
    | effect id =>
      rcases hout with hout | ⟨hnew, hout⟩
      · simp [AppRow.claims, hout]
      · by_cases hid : id = key
        · simp [AppRow.claims, hout, hid, hnew, he.2]
        · simp [AppRow.claims, hout, Dict.get?_set_ne _ hid]
    | event id =>
      by_cases hid : id = gid
      · simp [AppRow.claims, hev, hid, hgid, hg.2.1]
      · simp [AppRow.claims, hev, Dict.get?_set_ne _ hid]
  | @effect key act e e' due state he hstep htoken hout hev =>
    have hset := claims_setEffect hout hev
    have hclaims := claims_effect he
    cases hstep with
    | grant owner token h =>
      obtain ⟨-, hnone, -, hgrant⟩ := considerEffect_eq_ok h (by simp)
      refine ClaimStep.of_grant (g := .effect key token) hset ?_ rfl ?_ ?_ ?_
      all_goals simp only [Grant.target, hclaims]
      · rfl
      · exact (hgrant rfl).2.1
      · exact Option.map_eq_none_iff.2 hnone
      · exact ⟨owner, htoken owner token _ rfl⟩
    | _ => exact .of_quiet hset (by rw [hclaims]; rfl) (.inl rfl)
  | @event key act e e' he hstep htoken hev hout =>
    have hset := claims_setEvent hev hout
    have hclaims := claims_event he
    cases hstep with
    | grant owner token hg hr hn =>
      have hnone : e.claim = none := by
        simp only [Event.notReady, Bool.or_eq_false_iff] at hr
        exact Option.not_isSome_iff_eq_none.1 (by simp [hr.1.2])
      refine ClaimStep.of_grant (g := .event key token) hset ?_ rfl ?_ ?_ ?_
      all_goals simp only [Grant.target, hclaims]
      · rfl
      · exact hn
      · exact Option.map_eq_none_iff.2 hnone
      · exact ⟨owner, htoken owner token _ _ rfl⟩
    | expire => exact .of_quiet hset (by rw [hclaims]; rfl) (.inr (by rw [hclaims]; rfl))
    | acknowledge => exact .of_quiet hset (by rw [hclaims]; rfl) (.inr (by rw [hclaims]; rfl))
    | _ => exact .of_quiet hset (by rw [hclaims]; rfl) (.inl rfl)

end

/-! ## The account of a row -/

/-- The tokens of the claims granted on the target, in order. -/
def tokens (gs : List Grant) (t : Target) : List String :=
  gs.filterMap fun g => if g.target = t then some g.token else none

@[simp] theorem tokens_nil (t : Target) : tokens [] t = [] := rfl

theorem tokens_append (gs gs' : List Grant) (t : Target) :
    tokens (gs ++ gs') t = tokens gs t ++ tokens gs' t := List.filterMap_append

theorem tokens_singleton_self (g : Grant) : tokens [g] g.target = [g.token] := by simp [tokens]

theorem tokens_singleton_of_ne {g : Grant} {t : Target} (h : g.target ≠ t) : tokens [g] t = [] := by
  simp [tokens, h]

/-- A backend in `B` gives the `n`-th claim of the target this token. -/
def Issued (B : Backend → Prop) (app : String) (t : Target) (n : Nat) (token : String) : Prop :=
  ∃ b owner, B b ∧ b.claimToken app t.id owner n = .ok token

/-- The claims granted so far account for what a row says of its targets. -/
structure AppRow.Accounts (B : Backend → Prop) (app : String) (gs : List Grant) (row : AppRow) :
    Prop where
  count : ∀ t, (tokens gs t).length = (row.claims t).attempts
  limit : ∀ t, (row.claims t).attempts ≤ 3
  issued : ∀ t n token, (tokens gs t)[n]? = some token → Issued B app t (n + 1) token
  last : ∀ t token, (row.claims t).outstanding = some token → (tokens gs t).getLast? = some token

section

variable {B : Backend → Prop} {b : Backend} {app : String} {row row' : AppRow} {gs : List Grant}

theorem accounts_new (c : Context) : (AppRow.new c).Accounts B app [] where
  count t := by simp [claims_new]
  limit t := by simp [claims_new]
  issued t n token h := absurd h (by simp)
  last t token h := absurd h (by simp [claims_new])

theorem ClaimStep.accounts_of_none (h : ClaimStep b app none row row') (ha : row.Accounts B app gs) :
    row'.Accounts B app gs where
  count t := by rw [ha.count, h.attempts]; rfl
  limit t := by rw [h.attempts]; exact ha.limit t
  issued := ha.issued
  last t token ht := by
    rcases h.kept t token ht with hold | ⟨g, hg, -⟩
    · exact ha.last t token hold
    · exact absurd hg (by simp)

theorem ClaimStep.accounts_of_some {g : Grant} (h : ClaimStep b app (some g) row row') (hb : B b)
    (ha : row.Accounts B app gs) : row'.Accounts B app (gs ++ [g]) := by
  obtain ⟨hlt, hnone, owner, htoken⟩ := h.fresh g rfl
  have hother : ∀ t, t ≠ g.target → (row'.claims t).attempts = (row.claims t).attempts ∧
      tokens (gs ++ [g]) t = tokens gs t := fun t ht => by
    have ht' : g.target ≠ t := fun h => ht h.symm
    rw [h.attempts, tokens_append, tokens_singleton_of_ne ht']
    simp [ht']
  have hself : (row'.claims g.target).attempts = (row.claims g.target).attempts + 1 ∧
      tokens (gs ++ [g]) g.target = tokens gs g.target ++ [g.token] := by
    rw [h.attempts, tokens_append, tokens_singleton_self]
    simp
  refine ⟨fun t => ?_, fun t => ?_, fun t n token hn => ?_, fun t token ht => ?_⟩
  · by_cases ht : t = g.target
    · rw [ht, hself.1, hself.2, List.length_append, ha.count]
      rfl
    · rw [(hother t ht).1, (hother t ht).2, ha.count]
  · by_cases ht : t = g.target
    · rw [ht, hself.1]
      exact hlt
    · rw [(hother t ht).1]
      exact ha.limit t
  · by_cases ht : t = g.target
    · rw [ht, hself.2] at hn
      rw [ht]
      by_cases hlen : n < (tokens gs g.target).length
      · rw [List.getElem?_append_left hlen] at hn
        exact ha.issued _ n token hn
      · -- the new claim is the last one, numbered by the count
        have hlen : (tokens gs g.target).length ≤ n := Nat.le_of_not_lt hlen
        rw [List.getElem?_append_right hlen, List.getElem?_singleton] at hn
        obtain ⟨hzero, rfl⟩ : n - (tokens gs g.target).length = 0 ∧ g.token = token := by
          simpa using hn
        have hn : n = (row.claims g.target).attempts := by
          rw [← ha.count]
          omega
        rw [hn]
        exact ⟨b, owner, hb, htoken⟩
    · rw [(hother t ht).2] at hn
      exact ha.issued t n token hn
  · rcases h.kept t token ht with hold | ⟨g', hg, htarget, htok⟩
    · have hne : t ≠ g.target := fun htg => by
        rw [htg, hnone] at hold
        exact absurd hold (by simp)
      rw [(hother t hne).2]
      exact ha.last t token hold
    · obtain rfl := Option.some.inj hg
      rw [← htarget, hself.2, htok, List.getLast?_concat]

theorem RowStep.accounts {act : Act} (hs : RowStep b app act row row') (hb : B b) (hm : row.Matched)
    (hk : row.Keyed) (ha : row.Accounts B app gs) :
    row'.Accounts B app (gs ++ act.grant?.toList) := by
  have h := (hs.tables hm hk).claimStep
  cases hg : act.grant? with
  | none =>
    rw [hg] at h
    rw [Option.toList_none, List.append_nil]
    exact h.accounts_of_none ha
  | some g =>
    rw [hg] at h
    exact h.accounts_of_some hb ha

/-- A sequence of transitions adds the claims it grants. -/
theorem accounts_of_steps {as : List Act} (hs : Steps (RowStep b app) as row row') (hb : B b)
    (hm : row.Matched) (hk : row.Keyed) (ha : row.Accounts B app gs) :
    row'.Accounts B app (gs ++ as.filterMap Act.grant?) := by
  induction hs generalizing gs with
  | nil => simpa using ha
  | @cons act as row₁ row₂ row₃ head tail ih =>
    have h := ih (head.matched hm) (head.keyed hk) (head.accounts hb hm hk ha)
    rw [List.append_assoc] at h
    have hcons : act.grant?.toList ++ as.filterMap Act.grant? = (act :: as).filterMap Act.grant? := by
      rw [List.filterMap_cons]
      cases act.grant? <;> rfl
    rwa [hcons] at h

end

/-! ## The claims of a run -/

/-- The claims on an app's rows that a call grants. -/
def Backend.grants (b : Backend) (l : Ledger) (c : Call) (app : String) : List Grant :=
  match b.perform l c with
  | .ok (_, r) => c.grants r app
  | .error _ => []

/-- The claims on an app's rows that the calls of a run grant, in order. -/
def granted (app : String) : Ledger → List Input → List Grant
  | _, [] => []
  | l, x :: xs => x.1.grants l x.2 app ++ granted app (x.1.step l x.2) xs

@[simp] theorem granted_nil (app : String) (l : Ledger) : granted app l [] = [] := rfl

theorem granted_append (app : String) (l : Ledger) (xs ys : List Input) :
    granted app l (xs ++ ys) = granted app l xs ++ granted app (after l xs) ys := by
  induction xs generalizing l with
  | nil => rfl
  | cons x xs ih =>
    show x.1.grants l x.2 app ++ granted app (x.1.step l x.2) (xs ++ ys) = _
    rw [ih, ← List.append_assoc]
    rfl

/-- The claims granted so far account for every row. -/
structure Ledger.Accounts (B : Backend → Prop) (gs : String → List Grant) (l : Ledger) : Prop where
  rows : l.apps.All fun app row => row.Accounts B app (gs app)
  absent : ∀ app, l.apps.get? app = none → gs app = []

section

variable {B : Backend → Prop} {b : Backend} {l l' : Ledger} {r : Reply}

theorem claimNotification_eq_ok {app owner nowUtc : String} {claim : Option NotificationClaim}
    (h : b.claimNotification l app owner nowUtc = .ok (l', claim)) :
    ∃ now row row', parseUtc nowUtc = .ok now ∧ l.apps.get? app = some row ∧
      b.scanEffects app owner now row.effectOrder row = .ok (row', claim) ∧ l' = l.setApp app row' := by
  obtain ⟨o, ho, h⟩ := bind_eq_ok.1 h
  rw [checkText_eq_ok ho] at h
  obtain ⟨now, hnow, h⟩ := bind_eq_ok.1 h
  obtain ⟨row, hrow, h⟩ := bind_eq_ok.1 (edit_eq_ok h)
  obtain ⟨⟨row', claim'⟩, hscan, h⟩ := bind_eq_ok.1 h
  cases pure_eq_ok.1 h
  exact ⟨now, row, row', hnow, app_eq_ok hrow, hscan, rfl⟩

theorem claimGuest_eq_ok {app owner nowUtc : String} {claim : Option GuestClaim}
    (h : b.claimGuest l app owner nowUtc = .ok (l', claim)) :
    ∃ now row, parseUtc nowUtc = .ok now ∧ l.apps.get? app = some row ∧
      (claim = none ∧ l' = l ∨ ∃ generation row', row.guestGeneration = some generation ∧
        b.scanEvents app owner generation now row.eventOrder row = .ok (row', claim) ∧
        l' = l.setApp app row') := by
  obtain ⟨o, ho, h⟩ := bind_eq_ok.1 h
  rw [checkText_eq_ok ho] at h
  obtain ⟨now, hnow, h⟩ := bind_eq_ok.1 h
  obtain ⟨row, hrow, h⟩ := bind_eq_ok.1 (edit_eq_ok h)
  refine ⟨now, row, hnow, app_eq_ok hrow, ?_⟩
  split at h
  · cases pure_eq_ok.1 h
    exact .inl ⟨rfl, rfl⟩
  · rename_i generation hg
    obtain ⟨⟨row', claim'⟩, hscan, h⟩ := bind_eq_ok.1 h
    cases pure_eq_ok.1 h
    exact .inr ⟨generation, row', hg, hscan, rfl⟩

/-- An app without a row gets no claim. -/
theorem grants_eq_nil_of_absent {c : Call} {app : String} (h : b.perform l c = .ok (l', r))
    (happ : l.apps.get? app = none) : c.grants r app = [] := by
  cases c with
  | claimNotification app' =>
    obtain ⟨⟨l₁, claim⟩, hc, h⟩ := bind_eq_ok.1 h
    cases pure_eq_ok.1 h
    obtain ⟨now, row, row', -, hrow, -⟩ := claimNotification_eq_ok hc
    have hne : app' ≠ app := fun he => by
      rw [he, happ] at hrow
      exact absurd hrow (by simp)
    cases claim <;> simp [Call.grants, hne]
  | claimGuest app' =>
    obtain ⟨⟨l₁, claim⟩, hc, h⟩ := bind_eq_ok.1 h
    cases pure_eq_ok.1 h
    obtain ⟨now, row, -, hrow, -⟩ := claimGuest_eq_ok hc
    have hne : app' ≠ app := fun he => by
      rw [he, happ] at hrow
      exact absurd hrow (by simp)
    cases claim <;> simp [Call.grants, hne]
  | _ => rfl

/-- A call adds the claims it grants. -/
theorem step_accounts {gs : String → List Grant} {c : Call} (hb : B b) (hk : l.Keyed)
    (hm : l.apps.All fun _ row => row.Matched) (ha : l.Accounts B gs) :
    (b.step l c).Accounts B fun app => gs app ++ b.grants l c app := by
  unfold Backend.step Backend.grants
  cases h : b.perform l c with
  | error => simpa using ha
  | ok p =>
    obtain ⟨l', r⟩ := p
    have hr := perform_refines hk h
    refine ⟨fun app row' hrow' => ?_, fun app happ => ?_⟩
    · obtain ⟨row, as, hrow, -, hsteps, hgrants⟩ := hr.rows app row' hrow'
      show row'.Accounts B app (gs app ++ c.grants r app)
      rw [← hgrants]
      rcases hrow with hrow | ⟨hnone, context, rfl⟩
      · exact accounts_of_steps hsteps hb (hm hrow) (hk hrow) (ha.rows hrow)
      · rw [ha.absent app hnone]
        exact accounts_of_steps hsteps hb (matched_new context) (keyed_new context)
          (accounts_new context)
    · have hnone : l.apps.get? app = none := by
        cases hget : l.apps.get? app with
        | none => rfl
        | some row =>
          obtain ⟨row', hrow'⟩ := hr.kept app row hget
          exact absurd (happ.symm.trans hrow') (by simp)
      show gs app ++ c.grants r app = []
      rw [ha.absent app hnone, grants_eq_nil_of_absent h hnone]
      rfl

/-- **Accounts.** The claims a run granted account for the ledger it leads to. -/
theorem after_accounts {run : List Input} (hrun : ∀ x ∈ run, B x.1) :
    (after .empty run).Accounts B fun app => granted app .empty run := by
  induction run using List.reverseRecOn with
  | nil => exact ⟨Dict.all_empty, fun _ _ => rfl⟩
  | append_singleton xs x ih =>
    have hl : Reachable (after .empty xs) := ⟨xs, rfl⟩
    have hx : B x.1 := hrun x (by simp)
    have h := step_accounts (c := x.2) hx hl.keyed hl.matched
      (ih fun y hy => hrun y (List.mem_append_left _ hy))
    rw [after_append]
    simpa [granted_append, granted] using h

end

end Vibapp.Scheduler
