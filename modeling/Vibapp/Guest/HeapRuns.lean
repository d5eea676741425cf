import Vibapp.Guest.HeapSpecs

/-!
# Runs of the allocator

**Events.** A call of the allocator, a byte that the program writes to a payload or outside the heap,
and pages that somebody else adds. A valid call names a live allocation with its layout.

**Refusals** (`Call.Refused`). `cabi_realloc` has no null pointer to answer with, so it traps where the
layout is none or the memory cannot be had.

**Main results.** `call_spec`: what a call does to a heap that keeps the invariant. `allocator_laws`:
what holds after every sequence of events.
-/

namespace Vibapp.Guest

open Prog

/-! ## Calls -/

inductive Call
  | alloc (layout : Layout)
  | dealloc (pointer : Nat) (layout : Layout)
  | realloc (pointer : Nat) (layout : Layout) (newSize : Nat)
  | cabiRealloc (old oldSize alignment newSize : Nat)

namespace Call

/-- A call, and the pointer it answers with. -/
def run : Call → Run Nat
  | alloc layout => Guest.alloc layout
  | dealloc pointer layout => do
    Guest.dealloc pointer layout
    return 0
  | realloc pointer layout newSize => Guest.realloc pointer layout newSize
  | cabiRealloc old oldSize alignment newSize => Guest.cabiRealloc old oldSize alignment newSize

/-- The allocation that a call names. -/
def named : Call → List Live
  | alloc _ => []
  | dealloc pointer layout => [⟨pointer, layout⟩]
  | realloc pointer layout _ => [⟨pointer, layout⟩]
  | cabiRealloc old oldSize alignment _ =>
    if oldSize = 0 then []
    else (Layout.fromSizeAlign oldSize alignment).toList.map fun layout => ⟨old, layout⟩

/-- The layout that a call asks for. -/
def wanted : Call → Option Layout
  | alloc layout => some layout
  | dealloc _ _ => none
  | realloc _ layout newSize => Layout.fromSizeAlign newSize layout.align
  | cabiRealloc _ _ alignment newSize => Layout.fromSizeAlign newSize alignment

/-- The call gives memory back and asks for none. -/
def Frees : Call → Prop
  | dealloc _ _ => True
  | cabiRealloc _ _ _ newSize => newSize = 0
  | _ => False

instance : (c : Call) → Decidable c.Frees
  | alloc _ => inferInstanceAs (Decidable False)
  | dealloc _ _ => inferInstanceAs (Decidable True)
  | realloc _ _ _ => inferInstanceAs (Decidable False)
  | cabiRealloc _ _ _ newSize => inferInstanceAs (Decidable (newSize = 0))

/-- The allocation that is gone after a call that answers with the pointer. -/
def gone (c : Call) (pointer : Nat) : List Live :=
  if c.Frees ∨ pointer ≠ 0 then c.named else []

/-- The allocation that the call has made. -/
def made (c : Call) (pointer : Nat) : List Live :=
  if c.Frees ∨ pointer = 0 then [] else c.wanted.toList.map fun layout => ⟨pointer, layout⟩

/-- The allocations that the call leaves alone. -/
def others (c : Call) (pointer : Nat) (live : List Live) : List Live := live.diff (c.gone pointer)

/-- The live allocations after a call. -/
def after (c : Call) (pointer : Nat) (live : List Live) : List Live :=
  c.made pointer ++ c.others pointer live

/-- The contract: what a call names is live, with its layout. -/
def Valid (c : Call) (live : List Live) : Prop := ∀ a ∈ c.named, a ∈ live

/-- `cabi_realloc` has no pointer to answer with. -/
def Refused (c : Call) (host : Host) (h : Heap) : Prop :=
  match c with
  | cabiRealloc old oldSize alignment newSize =>
    match Layout.fromSizeAlign (max oldSize 1) alignment with
    | none => True
    | some layout => newSize ≠ 0 ∧
      if oldSize = 0 then
        match Layout.fromSizeAlign newSize alignment with
        | none => True
        | some nextLayout => (Guest.alloc nextLayout host h).1 = .done 0
      else (Guest.realloc old layout newSize host h).1 = .done 0
  | _ => False

end Call

/-! ## What a call does -/

variable {host : Host} {h t : Heap} {live : List Live}

/-- What a call that answers with a pointer does. -/
structure Effect (c : Call) (h : Heap) (live : List Live) (pointer : Nat) (t : Heap) : Prop where
  inv : HeapInv t (c.after pointer live)
  keeps : Keeps h t (c.others pointer live)
  bytes : ∀ a ∈ c.gone pointer, ∀ b ∈ c.made pointer,
    SameBytes h t a.pointer b.pointer (min a.layout.size b.layout.size)

/-- A heap with a live allocation is in use. -/
theorem HeapInv.used (hinv : HeapInv h live) {a : Live} (ha : a ∈ live) :
    ∃ frees, Used h (a :: live.erase a) frees := by
  rcases hinv with ⟨-, rfl⟩ | ⟨frees, hu⟩
  · exact absurd ha List.not_mem_nil
  · exact ⟨frees, hu.perm (List.perm_cons_erase ha)⟩

/-- The call that gives an allocation back. -/
theorem effect_of_dealloc {c : Call} {a : Live} (hfrees : c.Frees) (hnamed : c.named = [a])
    (pointer : Nat) (hused : ∃ frees, Used t (live.erase a) frees) (hkeeps : Keeps h t (live.erase a)) :
    Effect c h live pointer t := by
  have hgone : c.gone pointer = [a] := by rw [Call.gone, if_pos (.inl hfrees), hnamed]
  have hmade : c.made pointer = [] := if_pos (.inl hfrees)
  have hothers : c.others pointer live = live.erase a := by
    rw [Call.others, hgone, List.diff_cons, List.diff_nil]
  refine ⟨?_, ?_, ?_⟩
  · rw [Call.after, hmade, hothers]
    exact .inr hused
  · rwa [hothers]
  · intro b _ d hd
    rw [hmade] at hd
    exact absurd hd List.not_mem_nil

/-- The call that leaves everything as it is. -/
theorem effect_of_none {c : Call} {pointer : Nat} (hgone : c.gone pointer = [])
    (hmade : c.made pointer = []) (hinv : HeapInv t live) (hkeeps : Keeps h t live) :
    Effect c h live pointer t := by
  have hothers : c.others pointer live = live := by rw [Call.others, hgone, List.diff_nil]
  refine ⟨?_, ?_, ?_⟩
  · rw [Call.after, hmade, hothers]
    exact hinv
  · rwa [hothers]
  · intro b hb
    rw [hgone] at hb
    exact absurd hb List.not_mem_nil

/-- The call that asks for memory and names no allocation. -/
theorem effect_of_alloc {c : Call} {layout : Layout} {pointer : Nat} (hfrees : ¬ c.Frees)
    (hnamed : c.named = []) (hwanted : c.wanted = some layout)
    (halloc : Allocates h live layout pointer t) : Effect c h live pointer t := by
  have hgone : c.gone pointer = [] := by
    unfold Call.gone
    rw [hnamed, ite_self]
  obtain ⟨hkeeps, ⟨rfl, hinv⟩ | ⟨hne, frees, hu⟩⟩ := halloc
  · exact effect_of_none hgone (if_pos (.inr rfl)) hinv hkeeps
  · have hmade : c.made pointer = [⟨pointer, layout⟩] := by
      rw [Call.made, if_neg (not_or.2 ⟨hfrees, hne⟩), hwanted]
      rfl
    have hothers : c.others pointer live = live := by rw [Call.others, hgone, List.diff_nil]
    refine ⟨?_, ?_, ?_⟩
    · rw [Call.after, hmade, hothers]
      exact .inr ⟨frees, hu⟩
    · rwa [hothers]
    · intro b hb
      rw [hgone] at hb
      exact absurd hb List.not_mem_nil

/-- The call that asks for memory in place of an allocation. -/
theorem effect_of_realloc {c : Call} {a : Live} {newSize pointer : Nat} (ha : a ∈ live)
    (hfrees : ¬ c.Frees) (hnamed : c.named = [a])
    (hwanted : c.wanted = Layout.fromSizeAlign newSize a.layout.align)
    (hre : Reallocates h a (live.erase a) newSize pointer t) : Effect c h live pointer t := by
  have hperm := List.perm_cons_erase ha
  rcases hre with ⟨rfl, ⟨frees, hu⟩, hkeeps⟩ | ⟨hne, layout, hlayout, hused, hkeeps, hbytes⟩
  · have hgone : c.gone 0 = [] := if_neg (not_or.2 ⟨hfrees, fun hne => hne rfl⟩)
    refine effect_of_none hgone (if_pos (.inr rfl)) (.inr ⟨frees, hu.perm hperm.symm⟩) ?_
    exact hkeeps.mono fun b hb => hperm.mem_iff.1 hb
  · have hgone : c.gone pointer = [a] := by rw [Call.gone, if_pos (.inr hne), hnamed]
    have hmade : c.made pointer = [⟨pointer, layout⟩] := by
      rw [Call.made, if_neg (not_or.2 ⟨hfrees, hne⟩), hwanted, hlayout]
      rfl
    have hothers : c.others pointer live = live.erase a := by
      rw [Call.others, hgone, List.diff_cons, List.diff_nil]
    refine ⟨?_, ?_, ?_⟩
    · rw [Call.after, hmade, hothers]
      exact .inr hused
    · rwa [hothers]
    · intro b hb d hd
      rw [hgone] at hb
      rw [hmade] at hd
      rw [List.mem_singleton.1 hb, List.mem_singleton.1 hd]
      dsimp only
      rw [(Layout.fromSizeAlign_eq_some hlayout).1]
      exact hbytes

/-- How a call ends. -/
def Answers (c : Call) (host : Host) (h : Heap) (live : List Live) : Prop :=
  (c.Refused host h ∧ ∃ t, c.run host h = (.raised (), t)) ∨
  (¬ c.Refused host h ∧ ∃ pointer t, c.run host h = (.done pointer, t) ∧ Effect c h live pointer t)

theorem answers_of_total {c : Call} (hrefused : ¬ c.Refused host h)
    (htotal : Total c.run host h fun pointer t => Effect c h live pointer t) : Answers c host h live :=
  .inr ⟨hrefused, total_iff.1 htotal⟩

section

variable {old oldSize alignment newSize : Nat} {layout : Layout}

theorem refused_of_none (hlayout : Layout.fromSizeAlign (max oldSize 1) alignment = none) :
    (Call.cabiRealloc old oldSize alignment newSize).Refused host h := by
  unfold Call.Refused
  dsimp only
  rw [hlayout]
  trivial

theorem refused_iff (hlayout : Layout.fromSizeAlign (max oldSize 1) alignment = some layout) :
    (Call.cabiRealloc old oldSize alignment newSize).Refused host h ↔ newSize ≠ 0 ∧
      if oldSize = 0 then
        match Layout.fromSizeAlign newSize alignment with
        | none => True
        | some nextLayout => (Guest.alloc nextLayout host h).1 = .done 0
      else (Guest.realloc old layout newSize host h).1 = .done 0 := by
  unfold Call.Refused
  dsimp only
  rw [hlayout]

/-- `cabi_realloc` that gives memory back. -/
theorem cabiRealloc_zero (hlayout : Layout.fromSizeAlign (max oldSize 1) alignment = some layout)
    (hnew : newSize = 0) : cabiRealloc old oldSize alignment newSize = (do
      if oldSize ≠ 0 then Guest.dealloc old layout
      return alignment) := by
  unfold cabiRealloc
  rw [hlayout]
  exact if_pos hnew

/-- `cabi_realloc` that asks for memory traps on the null pointer. -/
theorem cabiRealloc_request (hlayout : Layout.fromSizeAlign (max oldSize 1) alignment = some layout)
    (hnew : newSize ≠ 0) : cabiRealloc old oldSize alignment newSize = (do
      let pointer ← cabiRequest old oldSize alignment newSize layout
      trapIf (pointer = 0)
      return pointer) := by
  unfold cabiRealloc
  rw [hlayout]
  exact if_neg hnew

theorem cabi_answers (hlayout : Layout.fromSizeAlign (max oldSize 1) alignment = some layout)
    (hnew : newSize ≠ 0)
    (hrefused : (Call.cabiRealloc old oldSize alignment newSize).Refused host h ↔
      (cabiRequest old oldSize alignment newSize layout host h).1 = .done 0)
    (htotal : Total (cabiRequest old oldSize alignment newSize layout) host h fun pointer t =>
      Effect (.cabiRealloc old oldSize alignment newSize) h live pointer t) :
    Answers (.cabiRealloc old oldSize alignment newSize) host h live := by
  obtain ⟨pointer, t, hrequest, heffect⟩ := total_iff.1 htotal
  have hrun : (Call.cabiRealloc old oldSize alignment newSize).run host h =
      (do trapIf (pointer = 0); return pointer : Run Nat) host t := by
    change cabiRealloc old oldSize alignment newSize host h = _
    rw [cabiRealloc_request hlayout hnew]
    exact bind_of_done hrequest
  by_cases hnull : pointer = 0
  · refine .inl ⟨hrefused.2 ?_, t, ?_⟩
    · rw [hrequest, hnull]
    · rw [hrun, hnull]
      rfl
  · refine .inr ⟨fun hr => ?_, pointer, t, ?_, heffect⟩
    · rw [hrefused, hrequest] at hr
      exact hnull (Ends.done.inj hr)
    · rw [hrun]
      exact bind_of_done (trapIf_false hnull)

/-- `cabi_realloc` without an allocation. -/
theorem cabi_spec_new (hinv : HeapInv h live) (hold : oldSize = 0)
    (hlayout : Layout.fromSizeAlign (max oldSize 1) alignment = some layout) :
    Answers (.cabiRealloc old oldSize alignment newSize) host h live := by
  have hnamed : (Call.cabiRealloc old oldSize alignment newSize).named = [] := if_pos hold
  by_cases hnew : newSize = 0
  · refine answers_of_total (fun hr => ((refused_iff hlayout).1 hr).1 hnew) ?_
    change Total (cabiRealloc old oldSize alignment newSize) host h _
    rw [cabiRealloc_zero hlayout hnew, if_neg (fun hne => hne hold)]
    refine effect_of_none ?_ (if_pos (.inl hnew)) hinv (keeps_refl _ _)
    unfold Call.gone
    rw [hnamed, ite_self]
  · cases hnext : Layout.fromSizeAlign newSize alignment with
    | none =>
      refine .inl ⟨(refused_iff hlayout).2 ⟨hnew, ?_⟩, h, ?_⟩
      · rw [if_pos hold, hnext]
        trivial
      · change cabiRealloc old oldSize alignment newSize host h = _
        rw [cabiRealloc_request hlayout hnew]
        unfold cabiRequest
        rw [if_pos hold, hnext]
        rfl
    | some nextLayout =>
      have hrequest : cabiRequest old oldSize alignment newSize layout = alloc nextLayout := by
        unfold cabiRequest
        rw [if_pos hold, hnext]
      refine cabi_answers hlayout hnew ?_ ?_
      · rw [hrequest, refused_iff hlayout, if_pos hold, hnext]
        exact ⟨fun hr => hr.2, fun hr => ⟨hnew, hr⟩⟩
      · rw [hrequest]
        refine (allocate_spec hinv nextLayout).mono fun pointer t hp => ?_
        exact effect_of_alloc (c := .cabiRealloc old oldSize alignment newSize) hnew hnamed hnext hp

/-- `cabi_realloc` of a live allocation. -/
theorem cabi_spec_old (hinv : HeapInv h live) (hold : oldSize ≠ 0)
    (hvalid : (Call.cabiRealloc old oldSize alignment newSize).Valid live)
    (hlayout : Layout.fromSizeAlign (max oldSize 1) alignment = some layout) :
    Answers (.cabiRealloc old oldSize alignment newSize) host h live := by
  have hnamed : (Call.cabiRealloc old oldSize alignment newSize).named = [⟨old, layout⟩] := by
    change (if oldSize = 0 then [] else
      (Layout.fromSizeAlign oldSize alignment).toList.map fun layout => (⟨old, layout⟩ : Live)) = _
    rw [if_neg hold, ← show max oldSize 1 = oldSize by omega, hlayout]
    rfl
  have ha : ⟨old, layout⟩ ∈ live := hvalid _ (hnamed ▸ List.mem_cons_self)
  obtain ⟨frees, hu⟩ := hinv.used ha
  by_cases hnew : newSize = 0
  · refine answers_of_total (fun hr => ((refused_iff hlayout).1 hr).1 hnew) ?_
    change Total (cabiRealloc old oldSize alignment newSize) host h _
    rw [cabiRealloc_zero hlayout hnew, if_pos hold]
    refine Total.bind (dealloc_spec hu) ?_
    rintro _ t ⟨hused, hkeeps⟩
    exact effect_of_dealloc (c := .cabiRealloc old oldSize alignment newSize) hnew hnamed alignment
      hused hkeeps
  · have hrequest : cabiRequest old oldSize alignment newSize layout = realloc old layout newSize :=
      if_neg hold
    refine cabi_answers hlayout hnew ?_ ?_
    · rw [hrequest, refused_iff hlayout, if_neg hold]
      exact ⟨fun hr => hr.2, fun hr => ⟨hnew, hr⟩⟩
    · rw [hrequest]
      refine (realloc_spec hu newSize).mono fun next t hre => ?_
      refine effect_of_realloc (c := .cabiRealloc old oldSize alignment newSize) ha hnew hnamed ?_ hre
      change Layout.fromSizeAlign newSize alignment = Layout.fromSizeAlign newSize layout.align
      rw [(Layout.fromSizeAlign_eq_some hlayout).2]

end

/-- **A call**, on a heap that keeps the invariant. -/
theorem call_spec (hinv : HeapInv h live) {c : Call} (hvalid : c.Valid live) :
    Answers c host h live := by
  cases c with
  | alloc layout =>
    refine answers_of_total id ((allocate_spec hinv layout).mono fun pointer t hp => ?_)
    exact effect_of_alloc id rfl rfl hp
  | dealloc pointer layout =>
    have ha : ⟨pointer, layout⟩ ∈ live := hvalid _ List.mem_cons_self
    obtain ⟨frees, hu⟩ := hinv.used ha
    refine answers_of_total id (Total.bind (dealloc_spec hu) ?_)
    rintro _ t ⟨hused, hkeeps⟩
    exact effect_of_dealloc (c := .dealloc pointer layout) trivial rfl 0 hused hkeeps
  | realloc pointer layout newSize =>
    have ha : ⟨pointer, layout⟩ ∈ live := hvalid _ List.mem_cons_self
    obtain ⟨frees, hu⟩ := hinv.used ha
    refine answers_of_total id ((realloc_spec hu newSize).mono fun next t hre => ?_)
    exact effect_of_realloc (c := .realloc pointer layout newSize) ha id rfl rfl hre
  | cabiRealloc old oldSize alignment newSize =>
    cases hlayout : Layout.fromSizeAlign (max oldSize 1) alignment with
    | none =>
      refine .inl ⟨refused_of_none hlayout, h, ?_⟩
      change cabiRealloc old oldSize alignment newSize host h = _
      unfold cabiRealloc
      rw [hlayout]
      rfl
    | some layout =>
      by_cases hold : oldSize = 0
      · exact cabi_spec_new hinv hold hlayout
      · exact cabi_spec_old hinv hold hvalid hlayout

/-! ## Runs -/

/-- The heap, and the allocations that the program holds. -/
structure World where
  heap : Heap
  live : List Live

/-- Before the first call. -/
structure World.Initial (w : World) : Prop where
  heap : Unused w.heap
  live : w.live = []

inductive Event
  | call (c : Call)
  | write (address : Nat) (byte : UInt8)
  | grow (count : Nat)

/-- A byte of a live payload, or outside the heap. -/
def World.Writable (w : World) (address : Nat) : Prop :=
  (∃ a ∈ w.live, a.pointer ≤ address ∧ address < a.pointer + a.layout.size) ∨
    address < w.heap.heapStart ∨ w.heap.heapEnd ≤ address

/-- An event. A call that traps has no step: nothing comes after it. -/
inductive EventStep : Host × Event → World → World → Prop
  | call {host : Host} {c : Call} {w : World} {pointer : Nat} {t : Heap} (valid : c.Valid w.live)
    (run : c.run host w.heap = (.done pointer, t)) :
    EventStep (host, .call c) w ⟨t, c.after pointer w.live⟩
  | write {host : Host} {address : Nat} {byte : UInt8} {w : World} (writable : w.Writable address) :
    EventStep (host, .write address byte) w
      ⟨{ w.heap with memory := w.heap.memory.write8 address byte }, w.live⟩
  | grow {host : Host} {count : Nat} {w : World} {t : Heap}
    (run : memoryGrow count host w.heap = (.done true, t)) :
    EventStep (host, .grow count) w ⟨t, w.live⟩

/-- A byte outside the heap. -/
theorem Used.write_off {frees : List Block} (hu : Used h live frees) {m : Memory}
    (hsame : ∀ x, h.heapStart ≤ x → x < h.heapEnd → m x = h.memory x) :
    Used { h with memory := m } live frees := by
  have hkeeps : Keeps h { h with memory := m } live := by
    intro a ha x hx
    have hin := hu.inside ha
    unfold Inside Block.Contains at *
    exact hsame x (by omega) (by omega)
  refine ⟨⟨hu.bounds.start, hu.bounds.alignedStart, hu.bounds.order, hu.bounds.most,
    hu.bounds.alignedEnd, hu.bounds.mapped⟩, ⟨hu.list.head, ?_, hu.list.aligned, hu.list.inside,
      hu.list.separated⟩, fun a ha => (hu.holds a ha).congr (hkeeps a ha), ?_⟩
  · refine hu.list.linked.congr fun c hc x hx hx' => ?_
    have hleast := (hu.list.aligned c hc).least
    have hin := hu.list.inside c hc
    unfold granule at hleast
    unfold Inside Block.stop at hin
    exact hsame x (by omega) (by omega)
  · have hblocks := hkeeps.blocksOf hu.holds
    change Tiles h.heapStart h.heapEnd (blocksOf m live ++ frees)
    change blocksOf m live = _ at hblocks
    rw [hblocks]
    exact hu.tiles

theorem HeapInv.write (hinv : HeapInv h live) {address : Nat} {byte : UInt8}
    (hw : World.Writable ⟨h, live⟩ address) :
    HeapInv { h with memory := h.memory.write8 address byte } live := by
  have hoff : ∀ x, x ≠ address → h.memory.write8 address byte x = h.memory x := fun x hx => if_neg hx
  rcases hinv with ⟨hu, hnil⟩ | hused
  · exact .inl ⟨⟨hu.heapStart, hu.heapEnd, hu.head⟩, hnil⟩
  · refine .inr ?_
    rcases hw with ⟨a, ha, hlo, hhi⟩ | hout
    · obtain ⟨frees, hu⟩ := HeapInv.used (.inr hused) ha
      refine ⟨frees, (hu.write fun x hx => hoff x (by omega)).perm (List.perm_cons_erase ha).symm⟩
    · obtain ⟨frees, hu⟩ := hused
      refine ⟨frees, hu.write_off fun x hx hx' => hoff x ?_⟩
      dsimp only at hout
      omega

theorem HeapInv.grow (hinv : HeapInv h live) {count : Nat}
    (hrun : memoryGrow count host h = (.done true, t)) : HeapInv t live := by
  have ht : t = { h with pages := h.pages + count } := by
    by_cases hgrant : h.pages + count ≤ maxPages ∧ host.grants h.pages count = true
    · have hdone : memoryGrow count host h = (.done true, { h with pages := h.pages + count }) := by
        change (if h.pages + count ≤ maxPages ∧ host.grants h.pages count = true
          then _ else _ : Run Bool) host h = _
        rw [if_pos hgrant]
        rfl
      rw [hdone] at hrun
      exact (Prod.mk.inj hrun).2.symm
    · have hnot : memoryGrow count host h = (.done false, h) := by
        change (if h.pages + count ≤ maxPages ∧ host.grants h.pages count = true
          then _ else _ : Run Bool) host h = _
        rw [if_neg hgrant]
        rfl
      rw [hnot] at hrun
      exact absurd (Ends.done.inj (Prod.mk.inj hrun).1) Bool.noConfusion
  rw [ht]
  rcases hinv with ⟨hu, hnil⟩ | ⟨frees, hu⟩
  · exact .inl ⟨⟨hu.heapStart, hu.heapEnd, hu.head⟩, hnil⟩
  · have hmapped := hu.bounds.mapped
    refine .inr ⟨frees, ⟨hu.bounds.start, hu.bounds.alignedStart, hu.bounds.order, hu.bounds.most,
      hu.bounds.alignedEnd, Nat.le_trans hmapped (Nat.mul_le_mul_right _ (Nat.le_add_right _ _))⟩, ?_,
        hu.holds, hu.tiles⟩
    exact ⟨hu.list.head, hu.list.linked, hu.list.aligned, hu.list.inside, hu.list.separated⟩

/-- One event keeps the invariant. -/
theorem EventStep.inv {label : Host × Event} {w w' : World} (hstep : EventStep label w w')
    (hinv : HeapInv w.heap w.live) : HeapInv w'.heap w'.live := by
  cases hstep with
  | @call host c _ pointer t hvalid hrun =>
    rcases @call_spec host w.heap w.live hinv c hvalid with ⟨-, u, hraised⟩ | ⟨-, p, u, hdone, heffect⟩
    · rw [hraised] at hrun
      cases hrun
    · rw [hdone] at hrun
      cases hrun
      exact heffect.inv
  | write hw => exact hinv.write hw
  | grow hrun => exact hinv.grow hrun

/-! ## Laws -/

/-- The bytes of an allocation that its holder may use. -/
def Live.payload (a : Live) : Block := ⟨a.pointer, a.layout.size⟩

/-- What a call that answers does, as its caller sees it. -/
structure CallLaws (c : Call) (h : Heap) (live : List Live) (pointer : Nat) (t : Heap) : Prop where
  others : ∀ a ∈ c.others pointer live, SameBytes h t a.pointer a.pointer a.layout.size
  bytes : ∀ a ∈ c.gone pointer, ∀ b ∈ c.made pointer,
    SameBytes h t a.pointer b.pointer (min a.layout.size b.layout.size)

/-- The laws of the allocator. -/
structure AllocatorLaws (w : World) : Prop where
  /-- The free list stands in the order of its addresses, is coalesced and aligned, and tiles the heap
  with the blocks of the live allocations. -/
  tiled : ∃ frees, FreeList w.heap frees ∧
    Tiles w.heap.heapStart w.heap.heapEnd (blocksOf w.heap.memory w.live ++ frees)
  /-- Each live allocation is in its block, behind its header. -/
  holds : ∀ a ∈ w.live, Holds w.heap.memory a
  aligned : ∀ a ∈ w.live, a.pointer % a.layout.align = 0
  inside : ∀ a ∈ w.live, Inside w.heap a.payload
  apart : w.live.Pairwise fun a b => a.payload.Apart b.payload
  /-- With everything given back, one free block covers the heap. -/
  whole : w.live = [] → w.heap.heapStart < w.heap.heapEnd →
    FreeList w.heap [⟨w.heap.heapStart, w.heap.heapEnd - w.heap.heapStart⟩]
  /-- A valid call answers, but for a `cabi_realloc` that is refused, which traps. -/
  refused : ∀ (host : Host) (c : Call), c.Valid w.live → c.Refused host w.heap →
    ∃ t, c.run host w.heap = (.raised (), t)
  answers : ∀ (host : Host) (c : Call), c.Valid w.live → ¬ c.Refused host w.heap →
    ∃ pointer t, c.run host w.heap = (.done pointer, t) ∧ CallLaws c w.heap w.live pointer t

theorem HeapInv.free (hinv : HeapInv h live) : ∃ frees, FreeList h frees ∧
    Tiles h.heapStart h.heapEnd (blocksOf h.memory live ++ frees) ∧
      (∀ b ∈ frees, 0 < b.size) ∧ ∀ a ∈ live, Holds h.memory a := by
  rcases hinv with ⟨hu, rfl⟩ | ⟨frees, hu⟩
  · refine ⟨[], ⟨hu.head, trivial, fun b hb => absurd hb List.not_mem_nil,
      fun b hb => absurd hb List.not_mem_nil, .nil⟩, ?_, fun b hb => absurd hb List.not_mem_nil,
        fun a ha => absurd ha List.not_mem_nil⟩
    rw [hu.heapStart, hu.heapEnd]
    exact tiles_nil 0
  · exact ⟨frees, hu.list, hu.tiles, fun b hb => hu.pos b (List.mem_append_right _ hb), hu.holds⟩

/-- The alignment of a layout divides that of its block. -/
theorem Holds.aligned_payload {m : Memory} {a : Live} (ha : Holds m a) :
    a.pointer % a.layout.align = 0 := by
  have hmod := ha.alignment
  refine Nat.mod_eq_zero_of_dvd (Nat.dvd_trans ?_ (Nat.dvd_of_mod_eq_zero hmod))
  rcases Nat.le_total a.layout.align granule with hle | hle
  · rw [Nat.max_eq_right hle]
    rw [a.layout.power] at hle ⊢
    have hlog : a.layout.align.log2 ≤ 4 :=
      (Nat.pow_le_pow_iff_right (show 1 < 2 by decide)).1 (show _ ≤ 2 ^ 4 from hle)
    exact Nat.pow_dvd_pow 2 hlog
  · exact ⟨1, by rw [Nat.mul_one, Nat.max_eq_left hle]⟩

theorem HeapInv.laws {w : World} (hinv : HeapInv w.heap w.live) : AllocatorLaws w := by
  obtain ⟨frees, hfree, htiles, hpos, hholds⟩ := hinv.free
  have hin : ∀ a ∈ w.live, Inside w.heap (blockOf w.heap.memory a.pointer) := fun a ha =>
    htiles.within (List.mem_append_left _ (List.mem_map_of_mem ha)) (hholds a ha).size_pos
  have hheader : header = 8 := rfl
  refine ⟨⟨frees, hfree, htiles⟩, hholds, fun a ha => (hholds a ha).aligned_payload, ?_, ?_, ?_, ?_, ?_⟩
  · intro a ha
    have hroom := (hholds a ha).room
    have hfits := (hholds a ha).fits
    have hblock := hin a ha
    unfold Inside Live.payload at *
    unfold Block.stop at *
    dsimp only
    omega
  · have hall : (blocksOf w.heap.memory w.live ++ frees).Pairwise Block.Apart := by
      refine htiles.pairwise_apart fun b hb => ?_
      rcases List.mem_append.1 hb with hb | hb
      · obtain ⟨a, ha, rfl⟩ := List.mem_map.1 hb
        exact (hholds a ha).size_pos
      · exact hpos b hb
    have hblocks := List.pairwise_map.1 (List.pairwise_append.1 hall).1
    refine hblocks.imp_of_mem fun {a b} ha hb hor => ?_
    have hroomA := (hholds a ha).room
    have hfitsA := (hholds a ha).fits
    have hroomB := (hholds b hb).room
    have hfitsB := (hholds b hb).fits
    unfold Block.Apart Live.payload at *
    unfold Block.stop at *
    dsimp only
    omega
  · intro hnil hlt
    rw [hnil] at htiles
    have hone := hfree.separated.eq_of_tiles htiles hpos hlt
    rwa [hone] at hfree
  · intro host c hvalid hrefused
    rcases @call_spec host w.heap w.live hinv c hvalid with ⟨-, hraised⟩ | ⟨hnot, -⟩
    · exact hraised
    · exact absurd hrefused hnot
  · intro host c hvalid hnot
    rcases @call_spec host w.heap w.live hinv c hvalid with ⟨hrefused, -⟩ | ⟨-, p, t, hrun, heffect⟩
    · exact absurd hrefused hnot
    · refine ⟨p, t, hrun, fun a ha i hi => ?_, heffect.bytes⟩
      have hmem : a ∈ w.live := List.diff_subset _ _ ha
      have hroom := (hholds a hmem).room
      have hfits := (hholds a hmem).fits
      exact heffect.keeps a ha _ ⟨by omega, by omega⟩

/-- **The allocator**, after every sequence of events. -/
theorem allocator_laws {events : List (Host × Event)} {w w' : World} (hinit : w.Initial)
    (hsteps : Steps EventStep events w w') : AllocatorLaws w' := by
  have hinv : HeapInv w'.heap w'.live :=
    hsteps.invariant (.inl ⟨hinit.heap, hinit.live⟩) fun _ hstep hs => hstep.inv hs
  exact hinv.laws

/-- A host with the heap from 1024 on, and one page of memory. -/
def sampleHost : Host := ⟨1024, fun _ _ => true⟩

def sampleWorld : World := ⟨⟨fun _ => 0, 1, 0, 0, 0⟩, []⟩

def sampleLayout : Layout := ⟨24, 32, by decide, by decide⟩

/-- The sample world after the first allocation. -/
def sampleNext : World := ⟨((Call.alloc sampleLayout).run sampleHost sampleWorld.heap).2,
  (Call.alloc sampleLayout).after 1056 []⟩

theorem allocator_laws_sample : AllocatorLaws sampleNext := by
  have hinit : sampleWorld.Initial := ⟨⟨rfl, rfl, rfl⟩, rfl⟩
  have hsteps : Steps EventStep [(sampleHost, .call (.alloc sampleLayout))] sampleWorld sampleNext :=
    .single (.call (fun _ ha => absurd ha List.not_mem_nil) (Prod.ext (by rfl) rfl))
  exact allocator_laws hinit hsteps

/-- `cabi_realloc` asked for more than the largest heap traps. -/
theorem cabi_traps : (Call.cabiRealloc 0 0 1 (maxMemoryBytes + 1)).Valid sampleWorld.live ∧
    (Call.cabiRealloc 0 0 1 (maxMemoryBytes + 1)).run sampleHost sampleWorld.heap =
      (.raised (), sampleWorld.heap) :=
  ⟨fun _ ha => absurd ha List.not_mem_nil, rfl⟩

end Vibapp.Guest
