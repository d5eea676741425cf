import Vibapp.Collaboration.Broker

/-!
# Steps of the tables that take nothing in

Most steps of a broker only forget: `Shrinks` says so, with one lemma for each method. What pruning
leaves is live (`live_of_pruneExpired`).
-/

namespace Vibapp.Collaboration

/-! ## Tables that take nothing in -/

/-- A step of the tables that opens nothing further: waiting openings, sessions and channels are
those that were there. -/
structure Shrinks (b c : Broker) : Prop where
  joining : ∀ call s ch e, c.adapter.openings.get? call = some (.joining s ch e) →
    b.adapter.openings.get? call = some (.joining s ch e)
  live : ∀ s x, c.adapter.sessions.get? s = some x → b.adapter.sessions.get? s = some x
  opened : ∀ call r, c.opened.get? call = some r → b.opened.get? call = some r
  sessions : ∀ s ch, c.sessions.get? s = some ch → b.sessions.get? s = some ch

namespace Shrinks

theorem refl (b : Broker) : Shrinks b b :=
  ⟨fun _ _ _ _ h => h, fun _ _ h => h, fun _ _ h => h, fun _ _ h => h⟩

theorem trans {b c d : Broker} (h₁ : Shrinks b c) (h₂ : Shrinks c d) : Shrinks b d where
  joining call s ch e h := h₁.joining call s ch e (h₂.joining call s ch e h)
  live s x h := h₁.live s x (h₂.live s x h)
  opened call r h := h₁.opened call r (h₂.opened call r h)
  sessions s ch h := h₁.sessions s ch (h₂.sessions s ch h)

/-- A step of the adapter alone. -/
theorem of_adapter {b : Broker} {a : Adapter}
    (hjoining : ∀ call s ch e, a.openings.get? call = some (.joining s ch e) →
      b.adapter.openings.get? call = some (.joining s ch e))
    (hlive : ∀ s x, a.sessions.get? s = some x → b.adapter.sessions.get? s = some x) :
    Shrinks b { b with adapter := a } :=
  ⟨hjoining, hlive, fun _ _ h => h, fun _ _ h => h⟩

end Shrinks

namespace Adapter

theorem get?_of_erase {κ ν : Type} [DecidableEq κ] {d : Dict κ ν} {k k' : κ} {v : ν}
    (h : (d.erase k).get? k' = some v) : d.get? k' = some v := by
  rw [Dict.get?_erase] at h
  split_ifs at h
  exact h

theorem live_foldl_remove {l : List Session} {a : Adapter} {s : String} {x : Session}
    (h : (l.foldl remove a).sessions.get? s = some x) : a.sessions.get? s = some x := by
  rw [get?_foldl_remove] at h
  split_ifs at h
  exact h

theorem live_expire {a : Adapter} {now : Int} {s : String} {x : Session}
    (h : (a.expire now).sessions.get? s = some x) : a.sessions.get? s = some x :=
  live_foldl_remove h

/-- An answered authorization drops the opening or makes it wait for its transport. -/
theorem resumeAuthorized_cases {a : Adapter} {call : Nat} {c : String} {e : Int}
    (hopening : a.openings.get? call = some (.authorizing c e)) (authorized : Bool) (s : String) :
    (a.resumeAuthorized call authorized s).1 = { a with openings := a.openings.erase call } ∨
      (a.resumeAuthorized call authorized s).1 =
        { a with openings := a.openings.set call (.joining s c e) } := by
  rw [resumeAuthorized, hopening]
  dsimp only
  split
  · exact .inl rfl
  split
  · exact .inl rfl
  · exact .inr rfl

/-- What is left is not expired. -/
theorem lt_of_expire {a : Adapter} (hkey : ∀ s x, a.sessions.get? s = some x → x.sessionId = s)
    {now : Int} {s : String} {x : Session} (h : (a.expire now).sessions.get? s = some x) :
    now < x.expiresAt := by
  rw [expire, get?_foldl_remove] at h
  split_ifs at h with hmem
  by_contra hexpired
  refine hmem (List.mem_map.2 ⟨x, ?_, hkey s x h⟩)
  exact List.mem_filter.2 ⟨Dict.mem_values_iff.2 ⟨s, h⟩, decide_eq_true (not_lt.1 hexpired)⟩

end Adapter

namespace Broker

theorem get?_foldl_forgetSession (l : List String) (b : Broker) (s : String) :
    (l.foldl forgetSession b).sessions.get? s = if s ∈ l then none else b.sessions.get? s := by
  induction l generalizing b with
  | nil => simp
  | cons t l ih =>
    rw [List.foldl_cons, ih, forgetSession, Dict.get?_erase]
    by_cases hl : s ∈ l
    · rw [if_pos hl, if_pos (List.mem_cons_of_mem _ hl)]
    · rw [if_neg hl]
      simp [hl]

theorem shrinks_pruneExpired (b : Broker) (now : Int) : Shrinks b (b.pruneExpired now) := by
  obtain ⟨_, _, heq⟩ := b.pruneExpired_eq now
  refine ⟨fun call s ch e h => ?_, fun s x h => ?_, fun call r h => ?_, fun s ch h => ?_⟩
  · rw [heq] at h
    rwa [← Adapter.expire_openings b.adapter now]
  · rw [heq] at h
    exact Adapter.live_expire h
  · rw [heq] at h
    exact h
  · rw [pruneExpired, get?_foldl_forgetSession] at h
    split_ifs at h
    exact h

/-- Pruning leaves the channels of live sessions. -/
theorem live_of_pruneExpired {b : Broker}
    (hkey : ∀ s x, b.adapter.sessions.get? s = some x → x.sessionId = s) {now : Int} {s : String}
    {ch : Channel} (h : (b.pruneExpired now).sessions.get? s = some ch) :
    ∃ x, (b.pruneExpired now).adapter.sessions.get? s = some x ∧ now < x.expiresAt := by
  obtain ⟨_, _, heq⟩ := b.pruneExpired_eq now
  have hadapter : (b.pruneExpired now).adapter = b.adapter.expire now := by
    rw [heq]
    rfl
  have hold := (b.shrinks_pruneExpired now).sessions s ch h
  rw [pruneExpired, get?_foldl_forgetSession] at h
  split_ifs at h with hforgotten
  have hactive : s ∈ (b.adapter.expire now).sessions.values.map Session.sessionId := by
    by_contra hnone
    refine hforgotten (List.mem_filter.2 ⟨Dict.mem_keys_iff.2 ⟨ch, hold⟩, ?_⟩)
    rw [Bool.not_eq_true', List.contains_eq_mem, decide_eq_false_iff_not]
    exact hnone
  obtain ⟨x, hx, hid⟩ := List.mem_map.1 hactive
  obtain ⟨t, ht⟩ := Dict.mem_values_iff.1 hx
  have hts : t = s := by rw [← hid, hkey t x (Adapter.live_expire ht)]
  rw [hts] at ht
  rw [hadapter]
  exact ⟨x, ht, Adapter.lt_of_expire hkey ht⟩

theorem shrinks_openChannel (b : Broker) (operation : Operation) (label : String) (call : Nat)
    (confirmed : Bool) (channelId grant : String) (expiresInMs now later : Int) :
    Shrinks b
      (b.openChannel operation label call confirmed channelId grant expiresInMs now later).1 := by
  have hopen : Shrinks b (b.ensureOpen now).1 := by
    unfold ensureOpen
    split
    · exact .refl b
    · dsimp only
      split
      all_goals exact b.shrinks_pruneExpired now
  unfold openChannel
  split
  · exact .refl b
  · split
    · rename_i heq
      rw [heq] at hopen
      exact hopen
    · rename_i c heq
      rw [heq] at hopen
      split
      · exact hopen
      · split
        · exact hopen
        · rename_i expiresAt _
          split
          · exact hopen
          · have hstart : ∀ a, (c.adapter.startOpen call channelId.toLower expiresAt later).1 = a →
                (∀ call' s ch e, a.openings.get? call' = some (.joining s ch e) →
                  c.adapter.openings.get? call' = some (.joining s ch e)) ∧
                ∀ s x, a.sessions.get? s = some x → c.adapter.sessions.get? s = some x := by
              rintro _ rfl
              unfold Adapter.startOpen
              split
              · exact ⟨fun _ _ _ _ h => h, fun _ _ h => h⟩
              · dsimp only
                split
                · exact ⟨fun _ _ _ _ h => Adapter.expire_openings c.adapter later ▸ h,
                    fun _ _ h => Adapter.live_expire h⟩
                · split
                  · exact ⟨fun _ _ _ _ h => Adapter.expire_openings c.adapter later ▸ h,
                      fun _ _ h => Adapter.live_expire h⟩
                  · refine ⟨fun call' s ch e h => ?_, fun _ _ h => Adapter.live_expire h⟩
                    dsimp only at h
                    rw [Dict.get?_set] at h
                    split_ifs at h
                    · cases h
                    · exact Adapter.expire_openings c.adapter later ▸ h
            dsimp only
            refine hopen.trans ?_
            split
            all_goals
              rename_i hstarted
              obtain ⟨hjoining, hlive⟩ := hstart _ (congrArg Prod.fst hstarted)
              exact ⟨hjoining, hlive, fun _ _ h => h, fun _ _ h => h⟩

theorem shrinks_timer (b : Broker) (timer : Nat) :
    Shrinks b { b with adapter := b.adapter.fireTimer timer } := by
  refine .of_adapter (fun call s ch e h => ?_) (fun s x h => ?_)
  · unfold Adapter.fireTimer at h
    split at h
    · dsimp only at h
      split at h
      all_goals exact h
    · exact h
  · unfold Adapter.fireTimer at h
    split at h
    · dsimp only at h
      split at h
      · exact Adapter.get?_of_erase h
      · exact h
    · exact h

theorem shrinks_leave (b : Broker) (sessionId : String) (now later : Int) :
    Shrinks b (b.leave sessionId now later).1 := by
  unfold leave
  split
  · exact .refl b
  · have hprune := b.shrinks_pruneExpired now
    dsimp only
    split
    · exact hprune
    · refine hprune.trans ⟨fun call s ch e h => ?_, fun s x h => ?_, fun _ _ h => h, fun _ _ h => h⟩
      · unfold Adapter.leave at h
        dsimp only at h
        split at h
        all_goals exact Adapter.expire_openings (b.pruneExpired now).adapter later ▸ h
      · unfold Adapter.leave at h
        dsimp only at h
        split at h
        · exact Adapter.live_expire h
        · exact Adapter.live_expire (Adapter.get?_of_erase h)

theorem shrinks_left (b : Broker) (sessionId : String) : Shrinks b (b.left sessionId) := by
  unfold left
  split
  · exact ⟨fun _ _ _ _ h => h, fun _ _ h => h, fun _ _ h => h, fun _ _ h => Adapter.get?_of_erase h⟩
  · exact .refl b

theorem shrinks_close (b : Broker) : Shrinks b b.close := by
  unfold close
  split
  · exact ⟨fun _ _ _ _ h => h, fun _ _ h => h, fun _ _ h => h, fun _ _ h => h⟩
  · refine ⟨fun call s ch e h => ?_, fun s x h => ?_, fun _ _ h => h, fun s ch h => by cases h⟩
    · unfold Adapter.close at h
      split at h
      · exact h
      · exact (Adapter.foldl_remove_closed b.adapter.sessions.values b.adapter).2.2 ▸ h
    · unfold Adapter.close at h
      split at h
      · exact h
      · exact Adapter.live_foldl_remove h

theorem shrinks_closeDone (b : Broker) : Shrinks b b.closeDone := by
  unfold closeDone
  split
  · refine ⟨fun call s ch e h => ?_, fun s x h => ?_, fun _ _ h => h, fun _ _ h => h⟩
    all_goals
      unfold Adapter.closeDone at h
      split at h
      all_goals exact h
  · exact .refl b

end Broker

end Vibapp.Collaboration
