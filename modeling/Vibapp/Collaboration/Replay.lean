import Vibapp.Collaboration.Delivery
import Vibapp.Collaboration.Shrink

/-!
# What an app gets

Which session an event belongs to, and how often it comes. Session ids come from a UUID source, and
a callback keeps its session id for good, so this needs a source that gives no id twice.

**Main result** (`delivery`). In such a run an app gets only events of channels that it has open,
and two accepted events of one session with the same id are at least 1024 accepted events of that
session apart. The window is the session's own: `replay_across_sessions` is a run in which two
sessions both deliver one id.
-/

namespace Vibapp.Collaboration

namespace Desk

/-! ## The invariant -/

/-- The session has a row in the broker's table. -/
def Known (d : Desk) (sessionId : String) : Prop :=
  ∃ channel, d.broker.sessions.get? sessionId = some channel

/-- Nothing was accepted for the session yet. -/
def Unheard (d : Desk) (sessionId : String) : Prop := ofSession sessionId d.accepted = []

/-- What runs with fresh session ids keep. A session id moves from an opening that waits for its
transport to a result of the adapter and from there to the broker's table, and is in one of them. -/
structure Tracked (d : Desk) : Prop where
  ids : (d.callbacks.map Prod.fst).Nodup
  joining : ∀ call s c e, d.broker.adapter.openings.get? call = some (.joining s c e) →
    (s, c) ∈ d.callbacks
  joiningOne : ∀ call call' s c c' e e',
    d.broker.adapter.openings.get? call = some (.joining s c e) →
    d.broker.adapter.openings.get? call' = some (.joining s c' e') → call = call'
  joiningApart : ∀ call s c e, d.broker.adapter.openings.get? call = some (.joining s c e) →
    (∀ call' r, d.broker.opened.get? call' = some r → r.sessionId ≠ s) ∧ ¬ d.Known s ∧ d.Unheard s
  live : ∀ s x, d.broker.adapter.sessions.get? s = some x →
    x.sessionId = s ∧ (s, x.channelId) ∈ d.callbacks
  opened : ∀ call r, d.broker.opened.get? call = some r → (r.sessionId, r.channelId) ∈ d.callbacks
  openedOne : ∀ call call' r r', d.broker.opened.get? call = some r →
    d.broker.opened.get? call' = some r' → r.sessionId = r'.sessionId → call = call'
  openedApart : ∀ call r, d.broker.opened.get? call = some r →
    ¬ d.Known r.sessionId ∧ d.Unheard r.sessionId
  table : ∀ s ch, d.broker.sessions.get? s = some ch → (s, ch.channelId) ∈ d.callbacks
  queued : ∀ item ∈ d.queued, d.Known item.sessionId
  accepted : ∀ item ∈ d.accepted, (item.sessionId, item.channelId) ∈ d.callbacks ∧
    item.event.channelId = item.channelId ∧ item.event.appId = d.appId
  sound : ∀ item ∈ d.queued, item ∈ d.accepted
  seen : ∀ s ids, d.seenEvents.get? s = some ids → d.Known s
  window : ∀ s, d.Known s → (d.seenEvents.get? s).getD [] =
    ((ofSession s d.accepted).map fun item => item.event.key).rtake maxSeenEventsPerSession
  spaced : d.NoReplay

theorem tracked_new {appId : String} {settings : Settings} {d : Desk}
    (h : new appId settings = .ok d) : d.Tracked := by
  unfold new at h
  split at h
  · cases h
  split at h
  · cases h
  · rename_i broker hbroker
    cases h
    unfold Broker.new at hbroker
    split at hbroker
    · cases hbroker
    · cases hbroker
      exact {
        ids := List.nodup_nil
        joining := fun _ _ _ _ h => by cases h
        joiningOne := fun _ _ _ _ _ _ _ h => by cases h
        joiningApart := fun _ _ _ _ h => by cases h
        live := fun _ _ h => by cases h
        opened := fun _ _ h => by cases h
        openedOne := fun _ _ _ _ h => by cases h
        openedApart := fun _ _ h => by cases h
        table := fun _ _ h => by cases h
        queued := fun _ h => absurd h List.not_mem_nil
        accepted := fun _ h => absurd h List.not_mem_nil
        sound := fun _ h => absurd h List.not_mem_nil
        seen := fun _ _ h => by cases h
        window := fun _ h => by obtain ⟨_, h⟩ := h; cases h
        spaced := fun _ => spacedBy_nil }

/-- The callbacks give a session id one channel. -/
theorem Tracked.channel_unique {d : Desk} (h : d.Tracked) {s c c' : String}
    (hc : (s, c) ∈ d.callbacks) (hc' : (s, c') ∈ d.callbacks) : c = c' :=
  congrArg Prod.snd (List.inj_on_of_nodup_map h.ids hc hc' rfl)

/-! ## Steps that take nothing in -/

/-- The tables shrink, and a session that leaves the broker's table is forgotten. -/
theorem Tracked.shrink {d e : Desk} (h : d.Tracked) {broker : Broker}
    (hshrinks : Shrinks d.broker broker) {sessionIds : List String}
    (hforgets : Forgets sessionIds { d with broker := broker } e)
    (hleft : ∀ s, d.Known s → s ∉ sessionIds → ∃ ch, broker.sessions.get? s = some ch)
    (hgone : ∀ s ∈ sessionIds, broker.sessions.get? s = none) : e.Tracked := by
  have hbroker : e.broker = broker := hforgets.broker
  have haccepted : e.accepted = d.accepted := hforgets.accepted
  have hcallbacks : e.callbacks = d.callbacks := hforgets.callbacks
  have hknown : ∀ s, e.Known s → d.Known s := by
    rintro s ⟨ch, hch⟩
    rw [hbroker] at hch
    exact ⟨ch, hshrinks.sessions s ch hch⟩
  have hseen : ∀ s, e.Known s → e.seenEvents.get? s = d.seenEvents.get? s := by
    rintro s ⟨ch, hch⟩
    rw [hforgets.seen, if_neg]
    intro hmem
    rw [hbroker, hgone s hmem] at hch
    cases hch
  have hstays : ∀ s, d.Known s → s ∉ sessionIds → e.Known s := by
    intro s hs hnot
    obtain ⟨ch, hch⟩ := hleft s hs hnot
    exact ⟨ch, by rw [hbroker]; exact hch⟩
  have hqueued : ∀ item ∈ e.queued, item ∈ d.queued ∧ item.sessionId ∉ sessionIds := by
    intro item hitem
    rw [hforgets.queued, List.mem_filter, decide_eq_true_eq] at hitem
    exact hitem
  exact {
    ids := by rw [hcallbacks]; exact h.ids
    joining := by
      intro call s c x hj
      rw [hbroker] at hj
      rw [hcallbacks]
      exact h.joining call s c x (hshrinks.joining _ _ _ _ hj)
    joiningOne := by
      intro call call' s c c' x x' hj hj'
      rw [hbroker] at hj hj'
      exact h.joiningOne call call' s c c' x x' (hshrinks.joining _ _ _ _ hj)
        (hshrinks.joining _ _ _ _ hj')
    joiningApart := by
      intro call s c x hj
      rw [hbroker] at hj
      obtain ⟨hopened, htable, hunheard⟩ := h.joiningApart call s c x (hshrinks.joining _ _ _ _ hj)
      refine ⟨fun call' r hr => ?_, fun hs => htable (hknown s hs), ?_⟩
      · rw [hbroker] at hr
        exact hopened call' r (hshrinks.opened _ _ hr)
      · rw [Unheard, haccepted]
        exact hunheard
    live := by
      intro s x hx
      rw [hbroker] at hx
      rw [hcallbacks]
      exact h.live s x (hshrinks.live s x hx)
    opened := by
      intro call r hr
      rw [hbroker] at hr
      rw [hcallbacks]
      exact h.opened call r (hshrinks.opened _ _ hr)
    openedOne := by
      intro call call' r r' hr hr'
      rw [hbroker] at hr hr'
      exact h.openedOne call call' r r' (hshrinks.opened _ _ hr) (hshrinks.opened _ _ hr')
    openedApart := by
      intro call r hr
      rw [hbroker] at hr
      obtain ⟨htable, hunheard⟩ := h.openedApart call r (hshrinks.opened _ _ hr)
      refine ⟨fun hs => htable (hknown _ hs), ?_⟩
      rw [Unheard, haccepted]
      exact hunheard
    table := by
      intro s ch hch
      rw [hbroker] at hch
      rw [hcallbacks]
      exact h.table s ch (hshrinks.sessions s ch hch)
    queued := fun item hitem =>
      hstays _ (h.queued item (hqueued item hitem).1) (hqueued item hitem).2
    accepted := by
      rw [haccepted, hcallbacks, hforgets.appId]
      exact h.accepted
    sound := by
      rw [haccepted]
      exact fun item hitem => h.sound item (hqueued item hitem).1
    seen := by
      intro s ids hids
      rw [hforgets.seen] at hids
      split_ifs at hids with hnot
      exact hstays s (h.seen s ids hids) hnot
    window := by
      intro s hs
      rw [hseen s hs, haccepted]
      exact h.window s (hknown s hs)
    spaced := by
      rw [NoReplay, haccepted]
      exact h.spaced }

theorem Tracked.follow {d : Desk} (h : d.Tracked) {broker : Broker}
    (hshrinks : Shrinks d.broker broker) : (d.follow broker).Tracked := by
  refine h.shrink hshrinks (d.forgets_follow broker) (fun s hs hnot => ?_) fun s hs => ?_
  · obtain ⟨ch, hch⟩ := hs
    by_contra hnone
    refine hnot (List.mem_filter.2 ⟨Dict.mem_keys_iff.2 ⟨ch, hch⟩, ?_⟩)
    rw [Bool.not_eq_true', Dict.contains_eq_false_iff]
    exact Option.eq_none_iff_forall_ne_some.2 fun c hc => hnone ⟨c, hc⟩
  · rw [forgotten, List.mem_filter, Bool.not_eq_true', Dict.contains_eq_false_iff] at hs
    exact hs.2

theorem Tracked.pruneExpired {d : Desk} (h : d.Tracked) (now : Int) :
    (d.pruneExpired now).Tracked := h.follow (d.broker.shrinks_pruneExpired now)

/-- A step of the tables in which no session leaves the broker's table. -/
theorem follow_of_known {d : Desk} {broker : Broker}
    (hstays : ∀ s ch, d.broker.sessions.get? s = some ch → ∃ ch', broker.sessions.get? s = some ch') :
    d.follow broker = { d with broker := broker } := by
  have hnone : d.forgotten broker = [] := by
    refine List.filter_eq_nil_iff.2 fun s hs => ?_
    obtain ⟨ch, hch⟩ := Dict.mem_keys_iff.1 hs
    rw [Bool.not_eq_true', Bool.not_eq_false, Dict.contains_eq_true_iff]
    exact hstays s ch hch
  change (d.forgotten broker).foldl dropQueued _ = _
  rw [hnone]
  rfl

theorem Tracked.shrink_tables {d : Desk} (h : d.Tracked) {broker : Broker}
    (hshrinks : Shrinks d.broker broker) (hsessions : broker.sessions = d.broker.sessions) :
    Tracked { d with broker := broker } := by
  rw [← follow_of_known fun s ch hch => ⟨ch, by rw [hsessions]; exact hch⟩]
  exact h.follow hshrinks

theorem Tracked.left {d : Desk} (h : d.Tracked) (sessionId : String) :
    (d.left sessionId).Tracked := by
  unfold Desk.left
  split
  · rename_i hleaving
    have hshrinks := d.broker.shrinks_left sessionId
    have hbroker : (d.broker.left sessionId).sessions = d.broker.sessions.erase sessionId := by
      rw [Broker.left, if_pos hleaving]
      rfl
    refine h.shrink hshrinks (forgets_dropQueued _ sessionId) (fun s hs hnot => ?_) fun s hs => ?_
    · obtain ⟨ch, hch⟩ := hs
      rw [hbroker, Dict.get?_erase_ne _ fun heq => hnot (List.mem_singleton.2 heq)]
      exact ⟨ch, hch⟩
    · rw [hbroker, List.mem_singleton.1 hs, Dict.get?_erase_self]
  · exact h

theorem Tracked.close {d : Desk} (h : d.Tracked) : d.close.Tracked := by
  have hshrinks := d.broker.shrinks_close
  unfold Desk.close
  split
  · rename_i hclosed
    refine h.shrink_tables hshrinks ?_
    rw [Broker.close, if_pos hclosed]
  · rename_i hclosed
    have hempty : d.broker.close.sessions = ∅ := by
      rw [Broker.close, if_neg hclosed]
    -- everything in the queue belongs to a session of the table, so to close is to forget them all
    refine @Tracked.shrink _ _ h _ hshrinks d.broker.sessions.keys ?_ (fun s hs hnot => ?_)
      fun s _ => by rw [hempty]; rfl
    · refine ⟨rfl, rfl, rfl, rfl, rfl, ?_, fun s => ?_, fun _ => rfl⟩
      · refine (List.filter_eq_nil_iff.2 fun item hitem => ?_).symm
        obtain ⟨ch, hch⟩ := h.queued item hitem
        rw [decide_eq_true_eq, not_not]
        exact Dict.mem_keys_iff.2 ⟨ch, hch⟩
      · dsimp only
        rw [Dict.get?_empty]
        split_ifs with hs
        · rfl
        · refine (Option.eq_none_iff_forall_ne_some.2 fun ids hids => hs ?_).symm
          exact Dict.mem_keys_iff.2 (h.seen s ids hids)
    · exact absurd (Dict.mem_keys_iff.2 hs) hnot

/-! ## Openings -/

theorem Tracked.resumeAuthorized {d : Desk} (h : d.Tracked) {call : Nat} {sessionId : String}
    (hfresh : sessionId ∉ d.callbacks.map Prod.fst) :
    (d.resumeAuthorized call sessionId).Tracked := by
  have hnew : ∀ c, (sessionId, c) ∉ d.callbacks := fun c hc =>
    hfresh (List.mem_map.2 ⟨(sessionId, c), hc, rfl⟩)
  have hunheard : d.Unheard sessionId :=
    List.filter_eq_nil_iff.2 fun item hitem => by
      rw [decide_eq_true_eq]
      rintro rfl
      exact hnew _ (h.accepted item hitem).1
  unfold Desk.resumeAuthorized Broker.resumeAuthorized
  cases hanswer : d.broker.answers.get? call with
  | none => exact h
  | some answer =>
    cases hopening : d.broker.adapter.openings.get? call with
    | none =>
      simp only [Adapter.resumeAuthorized, hopening]
      exact h.shrink_tables ⟨fun _ _ _ _ h => h, fun _ _ h => h, fun _ _ h => h,
        fun _ _ h => h⟩ rfl
    | some opening =>
      cases opening with
      | joining s c e =>
        simp only [Adapter.resumeAuthorized, hopening]
        exact h.shrink_tables ⟨fun _ _ _ _ h => h, fun _ _ h => h, fun _ _ h => h,
          fun _ _ h => h⟩ rfl
      | authorizing c e =>
        rcases Adapter.resumeAuthorized_cases hopening answer sessionId with heq | heq
        · simp only [heq, Dict.get?_erase_self]
          exact h.shrink_tables ⟨fun _ _ _ _ h => Adapter.get?_of_erase h, fun _ _ h => h,
            fun _ _ h => h, fun _ _ h => h⟩ rfl
        · simp only [heq, Dict.get?_set_self]
          have hjoining : ∀ {call' s c' e'}, (d.broker.adapter.openings.set call
              (.joining sessionId c e)).get? call' = some (.joining s c' e') →
              call' = call ∧ s = sessionId ∧ c' = c ∨
                call' ≠ call ∧ d.broker.adapter.openings.get? call' = some (.joining s c' e') := by
            intro call' s c' e' hget
            rw [Dict.get?_set] at hget
            split_ifs at hget with hcall
            · cases hget
              exact .inl ⟨hcall, rfl, rfl⟩
            · exact .inr ⟨hcall, hget⟩
          exact {
            ids := List.nodup_cons.2 ⟨hfresh, h.ids⟩
            joining := by
              intro call' s c' e' hj
              rcases hjoining hj with ⟨-, rfl, rfl⟩ | ⟨-, hold⟩
              · exact List.mem_cons_self
              · exact List.mem_cons_of_mem _ (h.joining _ _ _ _ hold)
            joiningOne := by
              intro call₁ call₂ s c₁ c₂ e₁ e₂ hj₁ hj₂
              rcases hjoining hj₁ with ⟨h₁, hs₁, -⟩ | ⟨-, hold₁⟩
              · rcases hjoining hj₂ with ⟨h₂, -, -⟩ | ⟨-, hold₂⟩
                · exact h₁.trans h₂.symm
                · rw [hs₁] at hold₂
                  exact absurd (h.joining _ _ _ _ hold₂) (hnew _)
              · rcases hjoining hj₂ with ⟨-, hs₂, -⟩ | ⟨-, hold₂⟩
                · rw [hs₂] at hold₁
                  exact absurd (h.joining _ _ _ _ hold₁) (hnew _)
                · exact h.joiningOne _ _ _ _ _ _ _ hold₁ hold₂
            joiningApart := by
              intro call' s c' e' hj
              rcases hjoining hj with ⟨-, rfl, -⟩ | ⟨-, hold⟩
              · refine ⟨fun call' r hr heq => ?_, ?_, hunheard⟩
                · rw [← heq] at hnew
                  exact hnew _ (h.opened call' r hr)
                · rintro ⟨ch, hch⟩
                  exact hnew _ (h.table _ ch hch)
              · exact h.joiningApart _ _ _ _ hold
            live := fun s x hx => ⟨(h.live s x hx).1, List.mem_cons_of_mem _ (h.live s x hx).2⟩
            opened := fun call' r hr => List.mem_cons_of_mem _ (h.opened call' r hr)
            openedOne := h.openedOne
            openedApart := h.openedApart
            table := fun s ch hch => List.mem_cons_of_mem _ (h.table s ch hch)
            queued := h.queued
            accepted := fun item hitem => ⟨List.mem_cons_of_mem _ (h.accepted item hitem).1,
              (h.accepted item hitem).2⟩
            sound := h.sound
            seen := h.seen
            window := h.window
            spaced := h.spaced }

theorem Tracked.resumeJoined {d : Desk} (h : d.Tracked) (call : Nat) (transport : Option Nat) :
    (d.follow (d.broker.resumeJoined call transport)).Tracked := by
  have hsessions : (d.broker.resumeJoined call transport).sessions = d.broker.sessions := by
    unfold Broker.resumeJoined
    split
    all_goals rfl
  rw [follow_of_known fun s ch hch => ⟨ch, by rw [hsessions]; exact hch⟩]
  unfold Broker.resumeJoined Adapter.resumeJoined
  cases hopening : d.broker.adapter.openings.get? call with
  | none => exact h
  | some opening =>
    cases opening with
    | authorizing c e => exact h
    | joining s c e =>
      cases transport with
      | none =>
        exact h.shrink_tables ⟨fun _ _ _ _ h => Adapter.get?_of_erase h, fun _ _ h => h,
          fun _ _ h => h, fun _ _ h => h⟩ rfl
      | some transport =>
        obtain ⟨hopened, htable, hunheard⟩ := h.joiningApart call s c e hopening
        dsimp only
        exact {
          ids := h.ids
          joining := fun call' s' c' e' hj => h.joining _ _ _ _ (Adapter.get?_of_erase hj)
          joiningOne := fun _ _ _ _ _ _ _ hj hj' =>
            h.joiningOne _ _ _ _ _ _ _ (Adapter.get?_of_erase hj) (Adapter.get?_of_erase hj')
          joiningApart := by
            intro call' s' c' e' hj
            have hold := Adapter.get?_of_erase hj
            refine ⟨fun call'' r hr => ?_, (h.joiningApart _ _ _ _ hold).2⟩
            dsimp only at hr
            rw [Dict.get?_set] at hr
            split_ifs at hr
            · cases hr
              rintro rfl
              -- the opening that has just been answered waits no more
              rw [h.joiningOne _ _ _ _ _ _ _ hold hopening] at hj
              dsimp only at hj
              rw [Dict.get?_erase_self] at hj
              cases hj
            · exact (h.joiningApart _ _ _ _ hold).1 call'' r hr
          live := by
            intro s' x hx
            dsimp only at hx
            rw [Dict.get?_set] at hx
            split_ifs at hx with hs
            · cases hx
              rw [hs]
              exact ⟨rfl, h.joining _ _ _ _ hopening⟩
            · exact h.live s' x hx
          opened := by
            intro call' r hr
            dsimp only at hr
            rw [Dict.get?_set] at hr
            split_ifs at hr
            · cases hr
              exact h.joining _ _ _ _ hopening
            · exact h.opened call' r hr
          openedOne := by
            intro call₁ call₂ r₁ r₂ h₁ h₂ heq
            dsimp only at h₁ h₂
            rw [Dict.get?_set] at h₁ h₂
            split_ifs at h₁ h₂ with hc₁ hc₂ hc₂
            · exact hc₁.trans hc₂.symm
            · cases h₁
              exact absurd heq.symm (hopened call₂ r₂ h₂)
            · cases h₂
              exact absurd heq (hopened call₁ r₁ h₁)
            · exact h.openedOne call₁ call₂ r₁ r₂ h₁ h₂ heq
          openedApart := by
            intro call' r hr
            dsimp only at hr
            rw [Dict.get?_set] at hr
            split_ifs at hr
            · cases hr
              exact ⟨htable, hunheard⟩
            · exact h.openedApart call' r hr
          table := h.table
          queued := h.queued
          accepted := h.accepted
          sound := h.sound
          seen := h.seen
          window := h.window
          spaced := h.spaced }

theorem Tracked.settle {d : Desk} (h : d.Tracked) (call : Nat) :
    (d.follow (d.broker.settle call)).Tracked := by
  unfold Broker.settle
  cases hopened : d.broker.opened.get? call with
  | none =>
    rw [follow_of_known fun s ch hch => ⟨ch, hch⟩]
    exact h
  | some r =>
    dsimp only
    have hset : ∀ {s ch}, (d.broker.sessions.set r.sessionId ⟨r.channelId, r.expiresAt⟩).get? s =
        some ch → s = r.sessionId ∧ ch.channelId = r.channelId ∨
          s ≠ r.sessionId ∧ d.broker.sessions.get? s = some ch := by
      intro s ch hch
      rw [Dict.get?_set] at hch
      split_ifs at hch with hs
      · cases hch
        exact .inl ⟨hs, rfl⟩
      · exact .inr ⟨hs, hch⟩
    have hmono : ∀ {s ch}, d.broker.sessions.get? s = some ch →
        ∃ ch', (d.broker.sessions.set r.sessionId ⟨r.channelId, r.expiresAt⟩).get? s =
          some ch' := by
      intro s ch hch
      rw [Dict.get?_set]
      split_ifs
      · exact ⟨_, rfl⟩
      · exact ⟨ch, hch⟩
    rw [follow_of_known fun s ch hch => hmono hch]
    obtain ⟨htable, hunheard⟩ := h.openedApart call r hopened
    have hother : ∀ {s}, (∃ ch, (d.broker.sessions.set r.sessionId
        ⟨r.channelId, r.expiresAt⟩).get? s = some ch) → s ≠ r.sessionId → d.Known s := by
      rintro s ⟨ch, hch⟩ hne
      rcases hset hch with ⟨hs, -⟩ | ⟨-, hold⟩
      · exact absurd hs hne
      · exact ⟨ch, hold⟩
    exact {
      ids := h.ids
      joining := h.joining
      joiningOne := h.joiningOne
      joiningApart := by
        intro call' s c e hj
        obtain ⟨hapart, hknown, hheard⟩ := h.joiningApart call' s c e hj
        refine ⟨fun call'' r' hr' => hapart call'' r' (Adapter.get?_of_erase hr'), ?_, hheard⟩
        exact fun hs => hknown (hother hs fun heq => hapart call r hopened heq.symm)
      live := h.live
      opened := fun call' r' hr' => h.opened call' r' (Adapter.get?_of_erase hr')
      openedOne := fun call₁ call₂ r₁ r₂ h₁ h₂ =>
        h.openedOne call₁ call₂ r₁ r₂ (Adapter.get?_of_erase h₁) (Adapter.get?_of_erase h₂)
      openedApart := by
        intro call' r' hr'
        have hold := Adapter.get?_of_erase hr'
        obtain ⟨hknown, hheard⟩ := h.openedApart call' r' hold
        refine ⟨fun hs => hknown (hother hs fun heq => ?_), hheard⟩
        rw [h.openedOne call' call r' r hold hopened heq] at hr'
        dsimp only at hr'
        rw [Dict.get?_erase_self] at hr'
        cases hr'
      table := by
        intro s ch hch
        rcases hset hch with ⟨rfl, hc⟩ | ⟨-, hold⟩
        · rw [hc]
          exact h.opened call r hopened
        · exact h.table s ch hold
      queued := fun item hitem => (h.queued item hitem).elim fun _ hch => hmono hch
      accepted := h.accepted
      sound := h.sound
      seen := fun s ids hids => (h.seen s ids hids).elim fun _ hch => hmono hch
      window := by
        intro s hs
        by_cases hsr : s = r.sessionId
        · subst hsr
          have hnone : d.seenEvents.get? r.sessionId = none :=
            Option.eq_none_iff_forall_ne_some.2 fun ids hids => htable (h.seen _ ids hids)
          dsimp only
          rw [hnone, hunheard]
          rfl
        · exact h.window s (hother hs hsr)
      spaced := h.spaced }

/-! ## Messages and calls of `receive` -/

theorem decodedEvent_eq_some {value : Option Json} {appId channelId : String} {event : Event}
    (h : decodedEvent value appId channelId = some event) :
    event.channelId = channelId ∧ event.appId = appId := by
  unfold decodedEvent at h
  split at h
  · split at h
    · cases h
    · split at h
      · split at h
        · cases h
        · rename_i hchecks
          cases h
          push Not at hchecks
          exact ⟨hchecks.2.2.1, hchecks.2.1⟩
      · cases h
  · cases h

theorem Tracked.onMessage {d : Desk} (h : d.Tracked) {s c : String} (hcallback : (s, c) ∈ d.callbacks)
    (value : Option Json) (byteLength : Nat) (now : Int) :
    (d.onMessage s c value byteLength now).1.Tracked := by
  have hpruned : (d.pruneExpired now).Tracked := h.pruneExpired now
  have hcalls : (s, c) ∈ (d.pruneExpired now).callbacks := by
    rw [Desk.pruneExpired, (d.forgets_follow _).callbacks]
    exact hcallback
  have happ : (d.pruneExpired now).appId = d.appId := (d.forgets_follow _).appId
  unfold Desk.onMessage
  generalize d.pruneExpired now = e at hpruned hcalls happ
  dsimp only
  split
  · exact hpruned
  · rename_i hopen
    have hknown : e.Known s := by
      rw [Bool.or_eq_true, not_or, Bool.not_eq_true', Bool.not_eq_false,
        Dict.contains_eq_true_iff] at hopen
      exact hopen.2
    split
    · exact hpruned
    · rename_i event hevent
      obtain ⟨hchannel, happId⟩ := decodedEvent_eq_some hevent
      split
      · exact hpruned
      · rename_i hseen
        split
        · exact hpruned
        · have hwindow := hpruned.window s hknown
          have hself : ofSession s [(⟨s, c, byteLength, event⟩ : Queued)] =
              [⟨s, c, byteLength, event⟩] := by simp [ofSession]
          have hother : ∀ s', s' ≠ s →
              ofSession s' [(⟨s, c, byteLength, event⟩ : Queued)] = [] := by
            intro s' hne
            simp [ofSession, Ne.symm hne]
          have hunheard : ∀ s', ¬ e.Known s' → e.Unheard s' →
              ofSession s' (e.accepted ++ [⟨s, c, byteLength, event⟩]) = [] := by
            intro s' hs' hheard
            rw [ofSession_append, hheard, hother s' fun heq => hs' (heq ▸ hknown), List.nil_append]
          have hset : ∀ s' ids, (e.seenEvents.set s (pushWindow maxSeenEventsPerSession
              ((e.seenEvents.get? s).getD []) event.key)).get? s' = some ids → e.Known s' := by
            intro s' ids hids
            by_cases hs : s' = s
            · rw [hs]
              exact hknown
            · rw [Dict.get?_set, if_neg hs] at hids
              exact hpruned.seen s' ids hids
          exact {
            ids := hpruned.ids
            joining := hpruned.joining
            joiningOne := hpruned.joiningOne
            joiningApart := by
              intro call s' c' x hj
              obtain ⟨hopened, htable, hheard⟩ := hpruned.joiningApart call s' c' x hj
              exact ⟨hopened, htable, hunheard s' htable hheard⟩
            live := hpruned.live
            opened := hpruned.opened
            openedOne := hpruned.openedOne
            openedApart := by
              intro call r hr
              obtain ⟨htable, hheard⟩ := hpruned.openedApart call r hr
              exact ⟨htable, hunheard _ htable hheard⟩
            table := hpruned.table
            queued := by
              intro item hitem
              rcases List.mem_append.1 hitem with hold | hnew
              · exact hpruned.queued item hold
              · rw [List.mem_singleton.1 hnew]
                exact hknown
            accepted := by
              intro item hitem
              rcases List.mem_append.1 hitem with hold | hnew
              · exact hpruned.accepted item hold
              · rw [List.mem_singleton.1 hnew]
                exact ⟨hcalls, hchannel, happId⟩
            sound := by
              intro item hitem
              rcases List.mem_append.1 hitem with hold | hnew
              · exact List.mem_append_left _ (hpruned.sound item hold)
              · exact List.mem_append_right _ hnew
            seen := hset
            window := by
              intro s' hs'
              dsimp only
              by_cases hs : s' = s
              · rw [hs, Dict.get?_set_self, Option.getD_some, hwindow,
                  pushWindow_rtake (by decide), ofSession_append, hself, List.map_append]
                rfl
              · rw [Dict.get?_set, if_neg hs, ofSession_append, hother s' hs, List.append_nil]
                exact hpruned.window s' hs'
            spaced := by
              intro s'
              dsimp only
              rw [ofSession_append]
              by_cases hs : s' = s
              · rw [hs, hself, List.map_append]
                refine (hpruned.spaced s).concat fun hmem => hseen ?_
                rw [List.contains_iff_mem, hwindow]
                exact hmem
              · rw [hother s' hs, List.append_nil]
                exact hpruned.spaced s' }

/-- What leaves the queue for the app. -/
theorem Tracked.receive {d : Desk} (h : d.Tracked) (s : String) (limit now : Int) :
    (d.receive s limit now).1.Tracked := by
  have hpruned : (d.pruneExpired now).Tracked := h.pruneExpired now
  unfold Desk.receive
  generalize d.pruneExpired now = e at hpruned
  dsimp only
  split
  · exact hpruned
  split
  · exact hpruned
  · have hrest := @take_sublist s limit.toNat e.queued
    exact {
      ids := hpruned.ids
      joining := hpruned.joining
      joiningOne := hpruned.joiningOne
      joiningApart := hpruned.joiningApart
      live := hpruned.live
      opened := hpruned.opened
      openedOne := hpruned.openedOne
      openedApart := hpruned.openedApart
      table := hpruned.table
      queued := fun item hitem => hpruned.queued item (hrest.subset hitem)
      accepted := hpruned.accepted
      sound := fun item hitem => hpruned.sound item (hrest.subset hitem)
      seen := hpruned.seen
      window := hpruned.window
      spaced := hpruned.spaced }

/-- The app has open what its table of sessions holds after a pruning. -/
theorem Tracked.openAt {d : Desk} (h : d.Tracked) {now : Int} {s c : String}
    (hknown : (d.pruneExpired now).Known s) (hcallback : (s, c) ∈ d.callbacks) :
    (d.pruneExpired now).OpenAt now s c := by
  have hpruned := h.pruneExpired now
  have hcalls : (s, c) ∈ (d.pruneExpired now).callbacks := by
    rw [Desk.pruneExpired, (d.forgets_follow _).callbacks]
    exact hcallback
  have hbroker : (d.pruneExpired now).broker = d.broker.pruneExpired now :=
    (d.forgets_follow _).broker
  obtain ⟨ch, hch⟩ := hknown
  refine ⟨⟨ch, hch, hpruned.channel_unique (hpruned.table s ch hch) hcalls⟩, ?_⟩
  have hlive := hch
  rw [hbroker] at hlive
  obtain ⟨x, hx, hlt⟩ := Broker.live_of_pruneExpired (fun s x hx => (h.live s x hx).1) hlive
  rw [← hbroker] at hx
  exact ⟨x, hx, hpruned.channel_unique (hpruned.live s x hx).2 hcalls, hlt⟩

/-- What `receive` gives out: events of its session, in a channel that the app has open. -/
theorem Tracked.receive_openAt {d : Desk} (h : d.Tracked) {s : String} {limit now : Int}
    {values : List (String × Event)} (hvalues : (d.receive s limit now).2 = .ok values) :
    ∀ value ∈ values, (d.receive s limit now).1.OpenAt now s value.1 ∧
      value.2.channelId = value.1 ∧ value.2.appId = d.appId := by
  have hopen := @Tracked.openAt d h now s
  have hpruned : (d.pruneExpired now).Tracked := h.pruneExpired now
  have hcalls : (d.pruneExpired now).callbacks = d.callbacks := (d.forgets_follow _).callbacks
  have happ : (d.pruneExpired now).appId = d.appId := (d.forgets_follow _).appId
  unfold Desk.receive at hvalues ⊢
  generalize d.pruneExpired now = e at hpruned hcalls happ hopen hvalues
  dsimp only at hvalues ⊢
  split at hvalues
  · cases hvalues
  rename_i hcontains
  split at hvalues
  · cases hvalues
  rename_i hlimit
  cases hvalues
  rw [if_neg hcontains, if_neg hlimit]
  intro value hvalue
  obtain ⟨item, hitem, rfl⟩ := List.mem_map.1 hvalue
  rw [take_fst] at hitem
  obtain ⟨hqueued, hsession⟩ := mem_ofSession.1 (List.mem_of_mem_take hitem)
  obtain ⟨hcallback, hchannel, happId⟩ := hpruned.accepted item (hpruned.sound item hqueued)
  rw [hsession, hcalls] at hcallback
  have hknown : e.Known s := by
    rw [← hsession]
    exact hpruned.queued item hqueued
  exact ⟨hopen hknown hcallback, hchannel, happId.trans happ⟩

/-! ## Runs -/

/-- **Step lemma**, for a step with a fresh session id. -/
theorem Tracked.next {parse : ByteArray → Option Json} {d : Desk} (h : d.Tracked) {step : DeskStep}
    (hfresh : d.Fresh step) : (d.next parse step).Tracked := by
  cases step with
  | tables step =>
    cases step with
    | create => exact h.follow (d.broker.shrinks_openChannel ..)
    | join => exact h.follow (d.broker.shrinks_openChannel ..)
    | authorized call sessionId => exact h.resumeAuthorized hfresh
    | joined call transport => exact h.resumeJoined call transport
    | settled call => exact h.settle call
    | timer timer => exact h.follow (d.broker.shrinks_timer timer)
    | leave sessionId now later => exact h.follow (d.broker.shrinks_leave sessionId now later)
    | left sessionId => exact h.left sessionId
    | poll now => exact h.pruneExpired now
    | close => exact h.close
    | closeDone => exact h.follow d.broker.shrinks_closeDone
  | message callback message now =>
    unfold Desk.next
    dsimp only
    split
    · rename_i s c hget
      unfold Desk.incoming
      split
      · exact h
      · exact h.onMessage (List.mem_of_getElem? hget) ..
    · exact h
  | receive s limit now => exact h.receive s limit now

/-- **Run lemma.** -/
theorem tracked_of_runs {parse : ByteArray → Option Json} {appId : String} {settings : Settings}
    {steps : List DeskStep} {d₀ d : Desk} (hnew : new appId settings = .ok d₀)
    (h : Steps (FreshStep parse) steps d₀ d) : d.Tracked :=
  h.invariant (tracked_new hnew) fun _ hstep htracked => hstep.2 ▸ htracked.next hstep.1

end Desk

/-! ## Main result -/

open Desk

/-- **Main result.** In every run the byte count is exact, and a session's events come out in order.
In every run whose session ids are fresh, an event id comes again only beyond the window of its
session, and what `receive` returns belongs to a channel that the app has open. -/
theorem delivery {parse : ByteArray → Option Json} {appId : String} {settings : Settings} {d₀ : Desk}
    (hnew : Desk.new appId settings = .ok d₀) :
    (∀ steps d, Steps (AnyStep parse) steps d₀ d → d.Exact) ∧
    ∀ steps d, Steps (FreshStep parse) steps d₀ d → d.NoReplay ∧
      ∀ s limit now values, (d.receive s limit now).2 = .ok values → ∀ value ∈ values,
        (d.receive s limit now).1.OpenAt now s value.1 ∧
          value.2.channelId = value.1 ∧ value.2.appId = d.appId := by
  refine ⟨fun steps d h => exact_of_runs hnew h, fun steps d h => ?_⟩
  have htracked := tracked_of_runs hnew h
  exact ⟨htracked.spaced, fun s limit now values hvalues => htracked.receive_openAt hvalues⟩

namespace Desk

/-- An opening of a channel, from its start to its row in the broker's table. -/
def openSteps (call : Nat) (grant sessionId : String) : List DeskStep :=
  [.tables (.join call true "11111111-1111-4111-8111-111111111111" grant 60000 0 0),
    .tables (.authorized call sessionId), .tables (.joined call (some call)),
    .tables (.settled call)]

/-- Messages of one byte hold an event. -/
def sampleParse (message : ByteArray) : Option Json :=
  if message.size = 1 then
    some (.obj [("app_id", .str "a"), ("channel_id", .str "11111111-1111-4111-8111-111111111111"),
      ("event_id", .str "77777777-7777-4777-8777-777777777777"), ("payload", .null),
      ("schema_version", .str eventSchema), ("sent_at", .int 0)])
  else none

/-- One session, and a message that comes twice. -/
def onceSteps : List DeskStep :=
  openSteps 0 "22222222-2222-4222-8222-222222222222" "33333333-3333-4333-8333-333333333333" ++
    [.message 0 ⟨#[0]⟩ 0, .message 0 ⟨#[0]⟩ 0]

/-- Two sessions in the channel, and a message that comes to both. -/
def twiceSteps : List DeskStep :=
  openSteps 0 "22222222-2222-4222-8222-222222222222" "33333333-3333-4333-8333-333333333333" ++
    openSteps 1 "44444444-4444-4444-8444-444444444444" "55555555-5555-4555-8555-555555555555" ++
    [.message 1 ⟨#[0]⟩ 0, .message 0 ⟨#[0]⟩ 0, .receive "33333333-3333-4333-8333-333333333333" 1 0,
      .receive "55555555-5555-4555-8555-555555555555" 1 0]

end Desk

/-- A run of one session. -/
theorem delivery_once :
    ∃ d₀, Desk.new "a" ⟨true, false, 2⟩ = .ok d₀ ∧
      (onceSteps.foldl (Desk.next sampleParse) d₀).Exact ∧
      (onceSteps.foldl (Desk.next sampleParse) d₀).NoReplay ∧
      (onceSteps.foldl (Desk.next sampleParse) d₀).queued.length = 1 := by
  refine ⟨_, rfl, (@delivery sampleParse "a" ⟨true, false, 2⟩ _ rfl).1 onceSteps _ ?_,
    ((@delivery sampleParse "a" ⟨true, false, 2⟩ _ rfl).2 onceSteps _ ?_).1, ?_⟩
  · exact .cons rfl (.cons rfl (.cons rfl (.cons rfl (.cons rfl (.cons rfl (.nil _))))))
  · exact .cons ⟨trivial, rfl⟩ (.cons ⟨List.not_mem_nil, rfl⟩ (.cons ⟨trivial, rfl⟩
      (.cons ⟨trivial, rfl⟩ (.cons ⟨trivial, rfl⟩ (.cons ⟨trivial, rfl⟩ (.nil _))))))
  · decide +kernel

/-- Two sessions of one broker in one channel: the same event comes out of both. -/
theorem replay_across_sessions :
    ∃ d₀, Desk.new "a" ⟨true, false, 2⟩ = .ok d₀ ∧
      (twiceSteps.foldl (Desk.next sampleParse) d₀).delivered.map (fun item => item.event.key) =
        ["77777777-7777-4777-8777-777777777777", "77777777-7777-4777-8777-777777777777"] := by
  refine ⟨_, rfl, ?_⟩
  decide +kernel

end Vibapp.Collaboration
