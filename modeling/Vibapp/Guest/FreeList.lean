import Vibapp.Guest.Allocator

/-!
# The free list

**The representation** (`FreeList`). The words of the free blocks link a separated list of blocks inside
the heap, each of them aligned.

**Main result** (`release_spec`). A block that shares no address with the free ones joins them. The list
covers what it covered and the block, and no byte outside them changes.
-/

namespace Vibapp.Guest

open Prog

/-! ## Arithmetic -/

theorem and_mask {k v : Nat} (hk : k ≤ 32) (hv : v < 2 ^ 32) :
    v &&& (2 ^ 32 - 2 ^ k) = v - v % 2 ^ k := by
  have hmask : 2 ^ 32 - 2 ^ k = (2 ^ (32 - k) - 1) <<< k := by
    rw [Nat.shiftLeft_eq, Nat.sub_mul, Nat.one_mul, ← Nat.pow_add, Nat.sub_add_cancel hk]
  have hdiv : v - v % 2 ^ k = (v >>> k) <<< k := by
    have h := Nat.div_add_mod v (2 ^ k)
    rw [Nat.mul_comm] at h
    rw [Nat.shiftLeft_eq, Nat.shiftRight_eq_div_pow]
    omega
  rw [hmask, hdiv]
  apply Nat.eq_of_testBit_eq
  intro i
  rw [Nat.testBit_and, Nat.testBit_shiftLeft, Nat.testBit_shiftLeft, Nat.testBit_two_pow_sub_one,
    Nat.testBit_shiftRight]
  by_cases hi : k ≤ i
  · rw [Nat.add_sub_cancel' hi]
    by_cases hlow : i - k < 32 - k
    · simp [hi, hlow]
    · have hbit : v.testBit i = false :=
        Nat.testBit_lt_two_pow (lt_of_lt_of_le hv (Nat.pow_le_pow_right (by decide) (by omega)))
      simp [hbit]
  · simp [hi]

theorem checkedAdd_of_lt {a b : Nat} (h : a + b < usizeLimit) : checkedAdd a b = some (a + b) :=
  if_pos h

theorem checkedAdd_eq_some {a b c : Nat} : checkedAdd a b = some c ↔ a + b < usizeLimit ∧ c = a + b := by
  unfold checkedAdd
  split_ifs with h <;> simp [h, eq_comm]

/-- An alignment that `align_up` is used with. -/
def PowerOfTwo (alignment : Nat) : Prop := ∃ k ≤ 32, alignment = 2 ^ k

theorem powerOfTwo_granule : PowerOfTwo granule := ⟨4, by decide, rfl⟩

theorem powerOfTwo_page : PowerOfTwo page := ⟨16, by decide, rfl⟩

theorem Layout.powerOfTwo (layout : Layout) : PowerOfTwo (max layout.align granule) := by
  by_cases h : layout.align ≤ granule
  · rw [Nat.max_eq_right h]
    exact powerOfTwo_granule
  · rw [Nat.max_eq_left (by omega)]
    refine ⟨layout.align.log2, ?_, layout.power⟩
    have hlt : layout.align < 2 ^ 32 := by
      have hbound := layout.bound
      omega
    have hpos : layout.align ≠ 0 := by
      unfold granule at h
      omega
    exact Nat.le_of_lt ((Nat.log2_lt hpos).2 hlt)

theorem alignUp_eq_some {value alignment w : Nat} (ha : PowerOfTwo alignment)
    (h : alignUp value alignment = some w) :
    value ≤ w ∧ w < value + alignment ∧ w % alignment = 0 := by
  obtain ⟨k, hk, rfl⟩ := ha
  have hpos : 0 < 2 ^ k := Nat.two_pow_pos k
  obtain ⟨v, hv, rfl⟩ := Option.map_eq_some_iff.1 h
  obtain ⟨hlt, rfl⟩ := checkedAdd_eq_some.1 hv
  unfold usizeLimit at *
  rw [and_mask hk hlt]
  have hmod := Nat.mod_lt (value + (2 ^ k - 1)) hpos
  refine ⟨by omega, by omega, ?_⟩
  exact Nat.sub_mod_eq_zero_of_mod_eq (by rw [Nat.mod_mod])

/-! ## Runs that end -/

/-- The run returns, and the result and the heap are as stated: it neither traps nor runs out of
steps. -/
def Total {α : Type} (m : Run α) (host : Host) (h : Heap) (Q : α → Heap → Prop) : Prop :=
  wp m Q (fun _ _ => False) (fun _ => False) host h

variable {host : Host} {h t : Heap} {α β : Type}

theorem total_iff {m : Run α} {Q : α → Heap → Prop} :
    Total m host h Q ↔ ∃ a t, m host h = (.done a, t) ∧ Q a t := by
  unfold Total wp
  rcases hm : m host h with ⟨a | e | _, t⟩
  · constructor
    · exact fun hQ => ⟨a, t, rfl, hQ⟩
    · rintro ⟨a', t', heq, hQ⟩
      cases heq
      exact hQ
  · exact ⟨False.elim, fun ⟨_, _, heq, _⟩ => by cases heq⟩
  · exact ⟨False.elim, fun ⟨_, _, heq, _⟩ => by cases heq⟩

theorem Total.bind {m : Run α} {f : α → Run β} {M : α → Heap → Prop} {Q : β → Heap → Prop}
    (hm : Total m host h M) (hf : ∀ a t, M a t → Total (f a) host t Q) : Total (m >>= f) host h Q :=
  wp_bind.2 (wp.mono hm hf (fun _ _ h => h) fun _ h => h)

/-- What comes after a run whose result is known. -/
theorem Total.after {m : Run α} {f : α → Run β} {a : α} {Q : β → Heap → Prop}
    (hm : m host h = (.done a, t)) (hf : Total (f a) host t Q) : Total (m >>= f) host h Q :=
  Total.bind (M := fun a' t' => a' = a ∧ t' = t) (total_iff.2 ⟨a, t, hm, rfl, rfl⟩)
    fun _ _ ⟨ha, ht⟩ => ha ▸ ht ▸ hf

theorem Total.pure {a : α} {Q : α → Heap → Prop} (hQ : Q a h) : Total (Pure.pure a) host h Q := hQ

theorem Total.mono {m : Run α} {Q Q' : α → Heap → Prop} (hm : Total m host h Q)
    (hQ : ∀ a t, Q a t → Q' a t) : Total m host h Q' :=
  wp.mono_done hm hQ

theorem eq_of_total {m : Run α} {a : α} {u : Heap} (hm : Total m host h fun r t => r = a ∧ t = u) :
    m host h = (.done a, u) := by
  obtain ⟨r, t, heq, rfl, rfl⟩ := total_iff.1 hm
  exact heq

theorem trapIf_false {c : Prop} [Decidable c] (hc : ¬ c) : trapIf c host h = (.done (), h) := by
  unfold trapIf
  rw [if_neg hc]
  rfl

theorem checkedEnd_eq {start size : Nat} (hlt : start + size < usizeLimit) :
    checkedEnd start size host h = (.done (start + size), h) := by
  unfold checkedEnd
  rw [checkedAdd_of_lt hlt]
  rfl

/-! ## Words -/

theorem loadPair_eq {address : Nat} (hin : address + 8 ≤ h.pages * page) :
    loadPair address host h =
      (.done (h.memory.read32 address, h.memory.read32 (address + 4)), h) := by
  have hword : ∀ {a : Nat}, a + 4 ≤ h.pages * page →
      loadWord a host h = (.done (h.memory.read32 a), h) := by
    intro a ha
    change (trapIf (h.pages * page < a + 4) >>= fun _ =>
      (read fun _ h => h.memory.read32 a : Run Nat)) host h = _
    unfold trapIf
    rw [if_neg (by omega)]
    rfl
  change (loadWord address >>= fun first => loadWord (address + 4) >>= fun second =>
    (Pure.pure (first, second) : Run (Nat × Nat))) host h = _
  simp only [Bind.bind, hword (show address + 4 ≤ h.pages * page by omega),
    hword (show address + 4 + 4 ≤ h.pages * page by omega)]
  rfl

theorem storeWord_eq {address value : Nat} (hin : address + 4 ≤ h.pages * page) :
    storeWord address value host h =
      (.done (), { h with memory := h.memory.write32 address value }) := by
  change (trapIf (h.pages * page < address + 4) >>= fun _ =>
    (modify fun h => { h with memory := h.memory.write32 address value } : Run Unit)) host h = _
  unfold trapIf
  rw [if_neg (by omega)]
  rfl

/-- The memory with a pair of words. -/
def withPair (m : Memory) (address first second : Nat) : Memory :=
  (m.write32 address first).write32 (address + 4) second

theorem storePair_eq {address first second : Nat} (hin : address + 8 ≤ h.pages * page) :
    storePair address first second host h =
      (.done (), { h with memory := withPair h.memory address first second }) := by
  change (storeWord address first >>= fun _ => storeWord (address + 4) second) host h = _
  have hsecond := @storeWord_eq host { h with memory := h.memory.write32 address first }
    (address + 4) second (show address + 4 + 4 ≤ h.pages * page by omega)
  simp only [Bind.bind, storeWord_eq (show address + 4 ≤ h.pages * page by omega)]
  exact hsecond

theorem withPair_outside {m : Memory} {address x : Nat} (first second : Nat)
    (hx : x < address ∨ address + 8 ≤ x) : withPair m address first second x = m x := by
  unfold withPair
  rw [Memory.write32_of_outside _ _ (by omega), Memory.write32_of_outside _ _ (by omega)]

theorem read32_withPair_first {m : Memory} {address first second : Nat} (hlt : first < 2 ^ 32) :
    (withPair m address first second).read32 address = first := by
  unfold withPair
  rw [Memory.read32_write32_of_disjoint _ _ (by omega), Memory.read32_write32_self _ _ hlt]

theorem read32_withPair_second {m : Memory} {address first second : Nat} (hlt : second < 2 ^ 32) :
    (withPair m address first second).read32 (address + 4) = second := by
  unfold withPair
  rw [Memory.read32_write32_self _ _ hlt]

/-! ## Lists in memory -/

/-- Where a list of blocks starts, with `next` behind it. -/
def entry : List Block → Nat → Nat
  | [], next => next
  | b :: _, _ => b.start

/-- Where the last of the blocks starts, and 0 without blocks. -/
def lastStart (blocks : List Block) : Nat := (blocks.getLast?.map Block.start).getD 0

/-- The words of the blocks link them, and the last one to `next`. -/
def Linked (m : Memory) : List Block → Nat → Prop
  | [], _ => True
  | b :: rest, next =>
    m.read32 b.start = b.size ∧ m.read32 (b.start + 4) = entry rest next ∧ Linked m rest next

@[simp] theorem lastStart_nil : lastStart [] = 0 := rfl

@[simp] theorem lastStart_concat (left : List Block) (b : Block) :
    lastStart (left ++ [b]) = b.start := by
  simp [lastStart]

theorem entry_append (left right : List Block) (next : Nat) :
    entry (left ++ right) next = entry left (entry right next) := by
  cases left <;> rfl

theorem linked_append {m : Memory} {left right : List Block} {next : Nat} :
    Linked m (left ++ right) next ↔ Linked m left (entry right next) ∧ Linked m right next := by
  induction left with
  | nil => simp [Linked]
  | cons b left ih => simp only [List.cons_append, Linked, ih, entry_append, and_assoc]

/-- Only the first words of the blocks count. -/
theorem Linked.congr {m m' : Memory} {blocks : List Block} {next : Nat} (hl : Linked m blocks next)
    (hsame : ∀ b ∈ blocks, ∀ x, b.start ≤ x → x < b.start + 8 → m' x = m x) :
    Linked m' blocks next := by
  induction blocks with
  | nil => trivial
  | cons b rest ih =>
    have hb := hsame b List.mem_cons_self
    obtain ⟨hsize, hnext, hrest⟩ := hl
    refine ⟨?_, ?_, ih hrest fun c hc => hsame c (List.mem_cons_of_mem _ hc)⟩
    · rw [← hsize]
      exact Memory.read32_congr fun x hx hx' => hb x hx (by omega)
    · rw [← hnext]
      exact Memory.read32_congr fun x hx hx' => hb x (by omega) (by omega)

/-! ## The representation -/

/-- A block starts and ends at a multiple of `GRANULE`, and is not empty. -/
structure Aligned (b : Block) : Prop where
  start : b.start % granule = 0
  size : b.size % granule = 0
  least : granule ≤ b.size

/-- The bounds of a heap that is in use. -/
structure Bounds (h : Heap) : Prop where
  start : 0 < h.heapStart
  alignedStart : h.heapStart % granule = 0
  order : h.heapStart ≤ h.heapEnd
  most : h.heapEnd ≤ maxMemoryBytes
  alignedEnd : h.heapEnd % page = 0
  mapped : h.heapEnd ≤ h.pages * page

/-- The block is in the heap. -/
def Inside (h : Heap) (b : Block) : Prop := h.heapStart ≤ b.start ∧ b.stop ≤ h.heapEnd

structure FreeList (h : Heap) (frees : List Block) : Prop where
  head : h.head = entry frees 0
  linked : Linked h.memory frees 0
  aligned : ∀ b ∈ frees, Aligned b
  inside : ∀ b ∈ frees, Inside h b
  separated : Separated frees

theorem Bounds.small (hb : Bounds h) : h.heapEnd < 2 ^ 31 := by
  have := hb.most
  unfold maxMemoryBytes at this
  omega

/-- A list has less blocks than a walk takes steps. -/
theorem length_lt_walkFuel (hb : Bounds h) {frees : List Block} (hl : FreeList h frees) :
    frees.length < walkFuel := by
  have hroom : ∀ (l : List Block) (lo : Nat), Separated l → (∀ b ∈ l, Aligned b) →
      (∀ b ∈ l, lo ≤ b.start ∧ b.stop ≤ h.heapEnd) → lo ≤ h.heapEnd →
        lo + granule * l.length ≤ h.heapEnd := by
    intro l
    induction l with
    | nil => exact fun lo _ _ _ hle => hle
    | cons b l ih =>
      intro lo hsep hal hin hle
      have hb := hin b List.mem_cons_self
      have hleast := (hal b List.mem_cons_self).least
      have hrest := ih b.stop (List.pairwise_cons.1 hsep).2
        (fun c hc => hal c (List.mem_cons_of_mem _ hc))
        (fun c hc => ⟨Nat.le_of_lt (List.rel_of_pairwise_cons hsep hc),
          (hin c (List.mem_cons_of_mem _ hc)).2⟩) hb.2
      rw [List.length_cons, Nat.mul_succ]
      unfold Block.stop at hrest
      omega
  have hlen := hroom frees h.heapStart hl.separated hl.aligned hl.inside hb.order
  have hmost := hb.most
  have hfuel : walkFuel = 1048577 := rfl
  unfold granule maxMemoryBytes at *
  omega

/-! ## Reading -/

theorem readFree_eq (hb : Bounds h) {left right : List Block} {b : Block}
    (hl : FreeList h (left ++ b :: right)) :
    readFree b.start host h = (.done (b.size, entry right 0), h) := by
  have hmem : b ∈ left ++ b :: right := List.mem_append_right _ List.mem_cons_self
  have hal := hl.aligned b hmem
  have hin := hl.inside b hmem
  have hsmall := hb.small
  obtain ⟨hsize, hnext, -⟩ := (linked_append.1 hl.linked).2
  have hleast := hal.least
  have hmapped := hb.mapped
  unfold Inside Block.stop at hin
  unfold granule at hleast
  have hgap : entry right 0 = 0 ∨ b.start + b.size < entry right 0 := by
    cases right with
    | nil => exact .inl rfl
    | cons c right =>
      have hsep := (List.pairwise_append.1 hl.separated).2.1
      exact .inr (List.rel_of_pairwise_cons hsep List.mem_cons_self)
  have hstart : ¬ (b.start < h.heapStart ∨ b.start % granule ≠ 0) := by
    have := hal.start
    omega
  have hpair := @loadPair_eq host h b.start (by omega)
  rw [hsize, hnext] at hpair
  have hword := @checkedEnd_eq host h b.start header
    (by have : header = 8 := rfl; unfold usizeLimit; omega)
  have hstop := @checkedEnd_eq host h b.start b.size (by unfold usizeLimit; omega)
  have hbounds : ¬ (h.heapEnd < b.start + header) := by
    have : header = 8 := rfl
    omega
  have hnode : ¬ (b.size < granule ∨ b.size % granule ≠ 0 ∨ h.heapEnd < b.start + b.size ∨
      entry right 0 ≠ 0 ∧ entry right 0 < b.start + b.size) := by
    have := hal.size
    have : granule = 16 := rfl
    omega
  apply eq_of_total
  unfold readFree
  refine Total.after (a := h.heapStart) rfl (Total.after (trapIf_false hstart) ?_)
  refine Total.after hword (Total.after (a := h.heapEnd) rfl ?_)
  refine Total.after (trapIf_false hbounds) (Total.after hpair ?_)
  refine Total.after hstop (Total.after (a := h.heapEnd) rfl ?_)
  exact Total.after (trapIf_false hnode) ⟨rfl, rfl⟩

/-- The loop of `release` splits the list at `start`. -/
theorem findPlace_eq (hb : Bounds h) {frees : List Block} (hl : FreeList h frees) (start : Nat)
    (right : List Block) : ∀ (left : List Block) (fuel : Nat), frees = left ++ right →
      right.length < fuel → (∀ b ∈ left, b.start < start) →
        ∃ left' right', frees = left' ++ right' ∧ (∀ b ∈ left', b.start < start) ∧
          (∀ b ∈ right', start ≤ b.start) ∧
            findPlace start fuel (lastStart left) (entry right 0) host h =
              (.done (lastStart left', entry right' 0), h) := by
  induction right with
  | nil =>
    intro left fuel heq hfuel hleft
    obtain ⟨k, rfl⟩ : ∃ k, fuel = k + 1 := ⟨fuel - 1, by omega⟩
    refine ⟨left, [], heq, hleft, fun b hb => absurd hb List.not_mem_nil, ?_⟩
    rw [findPlace, if_neg (fun hc => hc.1 rfl)]
    rfl
  | cons b right ih =>
    intro left fuel heq hfuel hleft
    obtain ⟨k, rfl⟩ : ∃ k, fuel = k + 1 := ⟨fuel - 1, by omega⟩
    have hmem : b ∈ frees := heq ▸ List.mem_append_right _ List.mem_cons_self
    by_cases hbefore : b.start < start
    · have hne : b.start ≠ 0 := by
        have hin := (hl.inside b hmem).1
        have hpos := hb.start
        omega
      obtain ⟨left', right', heq', hleft', hright', hrun⟩ := ih (left ++ [b]) k
        (by rw [heq, List.append_assoc]; rfl) (by rw [List.length_cons] at hfuel; omega)
        (by
          intro c hc
          rcases List.mem_append.1 hc with hc | hc
          · exact hleft c hc
          · rw [List.mem_singleton.1 hc]
            exact hbefore)
      refine ⟨left', right', heq', hleft', hright', ?_⟩
      rw [lastStart_concat] at hrun
      change findPlace start (k + 1) (lastStart left) b.start host h = _
      rw [findPlace, if_pos ⟨hne, hbefore⟩]
      simp only [Bind.bind, readFree_eq hb (heq ▸ hl : FreeList h (left ++ b :: right))]
      exact hrun
    · refine ⟨left, b :: right, heq, hleft, fun c hc => ?_, ?_⟩
      · rcases List.mem_cons.1 hc with rfl | hc
        · omega
        · have hsep := (List.pairwise_append.1 (heq ▸ hl.separated)).2.1
          have hgap := List.rel_of_pairwise_cons hsep hc
          unfold Block.stop at hgap
          omega
      · change findPlace start (k + 1) (lastStart left) b.start host h = _
        rw [findPlace, if_neg (fun hc => hbefore hc.2)]
        rfl

/-! ## Writing -/

/-- The bounds are the same, and so is every byte outside the blocks. -/
structure Touches (blocks : List Block) (h t : Heap) : Prop where
  pages : t.pages = h.pages
  heapStart : t.heapStart = h.heapStart
  heapEnd : t.heapEnd = h.heapEnd
  memory : ∀ a, cover blocks a = 0 → t.memory a = h.memory a

theorem Touches.refl (blocks : List Block) (h : Heap) : Touches blocks h h :=
  ⟨rfl, rfl, rfl, fun _ _ => rfl⟩

theorem Touches.trans {blocks : List Block} {u : Heap} (h₁ : Touches blocks h t)
    (h₂ : Touches blocks t u) : Touches blocks h u :=
  ⟨h₂.pages.trans h₁.pages, h₂.heapStart.trans h₁.heapStart, h₂.heapEnd.trans h₁.heapEnd,
    fun a ha => (h₂.memory a ha).trans (h₁.memory a ha)⟩

theorem Touches.mono {bs cs : List Block} (ht : Touches bs h t)
    (hle : ∀ a, cover cs a = 0 → cover bs a = 0) : Touches cs h t :=
  ⟨ht.pages, ht.heapStart, ht.heapEnd, fun a ha => ht.memory a (hle a ha)⟩

theorem Touches.bounds {blocks : List Block} (ht : Touches blocks h t) (hb : Bounds h) : Bounds t := by
  obtain ⟨hpages, hstart, hend, -⟩ := ht
  constructor
  · rw [hstart]
    exact hb.start
  · rw [hstart]
    exact hb.alignedStart
  · rw [hstart, hend]
    exact hb.order
  · rw [hend]
    exact hb.most
  · rw [hend]
    exact hb.alignedEnd
  · rw [hend, hpages]
    exact hb.mapped

theorem Touches.inside {blocks : List Block} (ht : Touches blocks h t) {b : Block} (hb : Inside h b) :
    Inside t b := by
  unfold Inside
  rw [ht.heapStart, ht.heapEnd]
  exact hb

/-- The words of a block are written. -/
theorem touches_withPair {b : Block} {address first second : Nat}
    (hfrom : b.start ≤ address) (hto : address + 8 ≤ b.stop) :
    Touches [b] h { h with memory := withPair h.memory address first second } := by
  refine ⟨rfl, rfl, rfl, fun a ha => withPair_outside _ _ ?_⟩
  have hnot := cover_eq_zero.1 ha b List.mem_cons_self
  unfold Block.Contains at hnot
  omega

/-- `replace_link` links the blocks before to another one. -/
theorem replaceLink_spec (hb : Bounds h) {left : List Block} {next : Nat} (y : Nat)
    (hy : y < 2 ^ 32) (hhead : h.head = entry left next) (hlinked : Linked h.memory left next)
    (hal : ∀ b ∈ left, Aligned b) (hin : ∀ b ∈ left, Inside h b) (hsep : Separated left) :
    ∃ t, replaceLink (lastStart left) y host h = (.done (), t) ∧ t.head = entry left y ∧
      Linked t.memory left y ∧ Touches left h t := by
  rcases List.eq_nil_or_concat left with rfl | ⟨l, p, rfl⟩
  · refine ⟨{ h with head := y }, ?_, rfl, trivial, rfl, rfl, rfl, fun _ _ => rfl⟩
    rw [replaceLink, if_pos lastStart_nil]
    rfl
  · rw [List.concat_eq_append] at *
    have hp : p ∈ l ++ [p] := List.mem_append_right _ List.mem_cons_self
    have hinp := hin p hp
    have hleast := (hal p hp).least
    have hpos := hb.start
    have hmapped := hb.mapped
    unfold Inside Block.stop at hinp
    unfold granule at hleast
    refine ⟨{ h with memory := h.memory.write32 (p.start + 4) y }, ?_, ?_, ?_, rfl, rfl, rfl, ?_⟩
    · rw [replaceLink, lastStart_concat, if_neg (by omega)]
      exact storeWord_eq (by omega)
    · rw [hhead, entry_append, entry_append]
      rfl
    · obtain ⟨hl, hpsize, -, -⟩ := linked_append.1 hlinked
      refine linked_append.2 ⟨hl.congr fun b hbl x hx hx' => ?_, ?_, ?_, trivial⟩
      · have hgap := (List.pairwise_append.1 hsep).2.2 b hbl p List.mem_cons_self
        have hbleast := (hal b (List.mem_append_left _ hbl)).least
        unfold Block.stop at hgap
        unfold granule at hbleast
        exact Memory.write32_of_outside _ _ (by omega)
      · rw [← hpsize]
        exact Memory.read32_write32_of_disjoint _ _ (by omega)
      · exact Memory.read32_write32_self _ _ hy
    · intro a ha
      have hnot := cover_eq_zero.1 ha p hp
      unfold Block.Contains Block.stop at hnot
      exact Memory.write32_of_outside _ _ (by omega)

/-! ## Coalescing -/

theorem Aligned.join {b c : Block} (hb : Aligned b) (hc : Aligned c) :
    Aligned ⟨b.start, b.size + c.size⟩ := by
  obtain ⟨hstart, hsize, hleast⟩ := hb
  obtain ⟨-, hsize', -⟩ := hc
  refine ⟨hstart, ?_, ?_⟩ <;> unfold granule at * <;> dsimp only <;> omega

theorem stop_lt_of_separated {left : List Block} {p : Block} (hsep : Separated (left ++ [p])) {a : Nat}
    (hp : p.stop ≤ a) (hal : ∀ b ∈ left ++ [p], Aligned b) : ∀ c ∈ left, c.stop < a := by
  intro c hc
  have hgap := (List.pairwise_append.1 hsep).2.2 c hc p List.mem_cons_self
  have hleast := (hal p (List.mem_append_right _ List.mem_cons_self)).least
  unfold Block.stop at *
  omega

/-- The block `b` behind `left` makes `m` behind `l`: itself, or joined to the last one. -/
structure JoinsBefore (h : Heap) (left : List Block) (b : Block) (l : List Block) (m : Block) :
    Prop where
  stop : m.stop = b.stop
  aligned : Aligned m
  inside : Inside h m
  gap : ∀ c ∈ l, c.stop < m.start
  covers : ∀ a, cover (l ++ [m]) a = cover (left ++ [b]) a
  cases : l = left ∧ m = b ∨ ∃ p, left = l ++ [p] ∧ p.start = m.start

/-- The block `m` before `right` makes `n` before `r`: itself, or joined to the first one. -/
structure JoinsBehind (h : Heap) (right : List Block) (m : Block) (r : List Block) (n : Block) :
    Prop where
  start : n.start = m.start
  aligned : Aligned n
  inside : Inside h n
  gap : ∀ c ∈ r, n.stop < c.start
  covers : ∀ a, cover (n :: r) a = cover (m :: right) a
  cases : r = right ∨ ∃ c, right = c :: r

/-- The block before is joined where it ends at the start. -/
theorem mergeBefore_spec (hb : Bounds h) {left right : List Block} (hl : FreeList h (left ++ right))
    {b : Block} (hal : Aligned b) (hin : Inside h b) (hleft : ∀ c ∈ left, c.stop ≤ b.start) :
    ∃ l m, mergeBefore (lastStart left) b.start b.size host h = (.done (m.start, m.size), h) ∧
      JoinsBefore h left b l m := by
  rcases List.eq_nil_or_concat left with rfl | ⟨l, p, rfl⟩
  · refine ⟨[], b, ?_, rfl, hal, hin, fun c hc => absurd hc List.not_mem_nil, fun _ => rfl,
      .inl ⟨rfl, rfl⟩⟩
    rw [mergeBefore, lastStart_nil, if_neg (fun hne => hne rfl)]
    rfl
  · rw [List.concat_eq_append] at *
    have hmem : p ∈ l ++ [p] := List.mem_append_right _ List.mem_cons_self
    have hpal := hl.aligned p (List.mem_append_left _ hmem)
    have hpin := hl.inside p (List.mem_append_left _ hmem)
    have hple := hleft p hmem
    have hpos := hb.start
    have hsmall := hb.small
    have hseps := (List.pairwise_append.1 hl.separated).1
    unfold Inside Block.stop at hpin hin hple
    have hread := @readFree_eq host h hb l right p (by
      rw [List.append_assoc] at hl
      exact hl)
    have hstop := @checkedEnd_eq host h p.start p.size (by unfold usizeLimit; omega)
    have hjoin := @checkedEnd_eq host h p.size b.size (by unfold usizeLimit; omega)
    by_cases heq : p.start + p.size = b.start
    · refine ⟨l, ⟨p.start, p.size + b.size⟩, ?_, ?_⟩
      · rw [lastStart_concat, mergeBefore, if_pos (by omega)]
        apply eq_of_total
        refine Total.after hread (Total.after hstop (Total.after (trapIf_false (by omega)) ?_))
        rw [if_pos heq]
        exact Total.after hjoin ⟨rfl, rfl⟩
      · have hend : p.start + (p.size + b.size) = b.start + b.size := by omega
        refine ⟨hend, hpal.join hal, ⟨hpin.1, ?_⟩, ?_, fun a => ?_, .inr ⟨p, rfl, rfl⟩⟩
        · unfold Block.stop
          dsimp only
          omega
        · exact fun c hc => (List.pairwise_append.1 hseps).2.2 c hc p List.mem_cons_self
        · have hsplit := cover_join p.start p.size b.size [] a
          rw [heq] at hsplit
          rw [List.append_assoc, cover_append, cover_append, hsplit]
          rfl
    · refine ⟨l ++ [p], b, ?_, rfl, hal, hin, fun c hc => ?_, fun _ => rfl, .inl ⟨rfl, rfl⟩⟩
      · rw [lastStart_concat, mergeBefore, if_pos (by omega)]
        apply eq_of_total
        refine Total.after hread (Total.after hstop (Total.after (trapIf_false (by omega)) ?_))
        rw [if_neg heq]
        exact ⟨rfl, rfl⟩
      · rcases List.mem_append.1 hc with hc | hc
        · exact stop_lt_of_separated hseps hple
            (fun c hc => hl.aligned c (List.mem_append_left _ hc)) c hc
        · rw [List.mem_singleton.1 hc]
          unfold Block.stop
          omega

/-- The block behind is joined where it starts at the end. -/
theorem mergeBehind_spec (hb : Bounds h) {left right : List Block} (hl : FreeList h (left ++ right))
    {m : Block} (hal : Aligned m) (hin : Inside h m) (hright : ∀ c ∈ right, m.stop ≤ c.start) :
    ∃ r n, mergeBehind (entry right 0) m.start m.size host h = (.done (n.size, entry r 0), h) ∧
      JoinsBehind h right m r n := by
  cases right with
  | nil =>
    refine ⟨[], m, ?_, rfl, hal, hin, fun c hc => absurd hc List.not_mem_nil, fun _ => rfl, .inl rfl⟩
    rw [mergeBehind, if_neg (fun hne => hne rfl)]
    rfl
  | cons c right =>
    have hmem : c ∈ left ++ c :: right := List.mem_append_right _ List.mem_cons_self
    have hcal := hl.aligned c hmem
    have hcin := hl.inside c hmem
    have hcle := hright c List.mem_cons_self
    have hpos := hb.start
    have hsmall := hb.small
    have hseps := (List.pairwise_append.1 hl.separated).2.1
    unfold Inside Block.stop at hcin hin hcle
    have hread := @readFree_eq host h hb left right c hl
    have hstop := @checkedEnd_eq host h m.start m.size (by unfold usizeLimit; omega)
    have hjoin := @checkedEnd_eq host h m.size c.size (by unfold usizeLimit; omega)
    change ∃ r n, mergeBehind c.start m.start m.size host h = _ ∧ _
    by_cases heq : m.start + m.size = c.start
    · refine ⟨right, ⟨m.start, m.size + c.size⟩, ?_, ?_⟩
      · rw [mergeBehind, if_pos (by omega)]
        apply eq_of_total
        refine Total.after hstop ?_
        rw [if_pos heq]
        exact Total.after hread (Total.after hjoin ⟨rfl, rfl⟩)
      · have hend : m.start + (m.size + c.size) = c.start + c.size := by omega
        refine ⟨rfl, hal.join hcal, ⟨hin.1, ?_⟩, fun d hd => ?_, fun a => ?_, .inr ⟨c, rfl⟩⟩
        · unfold Block.stop
          dsimp only
          omega
        · have hgap := List.rel_of_pairwise_cons hseps hd
          unfold Block.stop at *
          dsimp only
          omega
        · have hsplit := cover_join m.start m.size c.size right a
          rw [heq] at hsplit
          exact hsplit
    · refine ⟨c :: right, m, ?_, rfl, hal, hin, fun d hd => ?_, fun _ => rfl, .inl rfl⟩
      · rw [mergeBehind, if_pos (by omega)]
        apply eq_of_total
        refine Total.after hstop ?_
        rw [if_neg heq]
        exact ⟨rfl, rfl⟩
      · rcases List.mem_cons.1 hd with rfl | hd
        · unfold Block.stop
          omega
        · have hgap := List.rel_of_pairwise_cons hseps hd
          unfold Block.stop at *
          omega

/-! ## Release -/

/-- Parts of a separated list, with a block that fits between them. -/
theorem separated_between {left right : List Block} {n : Block} (hleft : Separated left)
    (hright : Separated right) (hbefore : ∀ c ∈ left, c.stop < n.start)
    (hbehind : ∀ c ∈ right, n.stop < c.start) : Separated (left ++ n :: right) := by
  refine List.pairwise_append.2 ⟨hleft, List.pairwise_cons.2 ⟨hbehind, hright⟩, fun c hc d hd => ?_⟩
  have hgap := hbefore c hc
  rcases List.mem_cons.1 hd with rfl | hd
  · exact hgap
  · have hgap' := hbehind d hd
    unfold Block.stop at *
    omega

/-- The end of `release`: the words of the joined block are written, and it is linked. -/
theorem link_spec (hb : Bounds h) {left right l r : List Block} {b m n : Block}
    (hl : FreeList h (left ++ right)) (hbefore : JoinsBefore h left b l m)
    (hbehind : JoinsBehind h right m r n) (hleft : ∀ c ∈ left, c.start < b.start)
    (hstops : ∀ c ∈ left, c.stop ≤ b.start) :
    Total (storePair m.start n.size (entry r 0) >>= fun _ =>
      if m.start ≠ lastStart left then replaceLink (lastStart left) m.start else Pure.pure ()) host h
      fun _ t => FreeList t (l ++ n :: r) ∧ Touches (b :: (left ++ right)) h t := by
  have hsmall := hb.small
  have hpos := hb.start
  have hmapped := hb.mapped
  have hnin := hbehind.inside
  have hnleast := hbehind.aligned.least
  have hnstart := hbehind.start
  have hgranule : granule = 16 := rfl
  unfold Inside Block.stop at hnin
  have hseps := List.pairwise_append.1 hl.separated
  obtain ⟨hlinkLeft, hlinkRight⟩ := linked_append.1 hl.linked
  have hcover : ∀ a, cover (b :: (left ++ right)) a = 0 → cover (l ++ n :: r) a = 0 := by
    intro a ha
    have h₁ := hbefore.covers a
    have h₂ := hbehind.covers a
    simp only [cover_append, cover_cons, cover_nil] at *
    omega
  have hsubleft : ∀ c ∈ l, c ∈ left := by
    rcases hbefore.cases with ⟨rfl, -⟩ | ⟨p, rfl, -⟩
    · exact fun c hc => hc
    · exact fun c hc => List.mem_append_left _ hc
  have hsubright : ∀ c ∈ r, c ∈ right := by
    rcases hbehind.cases with rfl | ⟨c, rfl⟩
    · exact fun c hc => hc
    · exact fun c hc => List.mem_cons_of_mem _ hc
  have hrlink : Linked h.memory r 0 := by
    rcases hbehind.cases with rfl | ⟨c, rfl⟩
    · exact hlinkRight
    · exact hlinkRight.2.2
  have hnext : entry r 0 < 2 ^ 32 := by
    cases r with
    | nil => exact Nat.two_pow_pos 32
    | cons c r =>
      have hcin := hl.inside c (List.mem_append_right _ (hsubright c List.mem_cons_self))
      unfold Inside Block.stop at hcin
      change c.start < 2 ^ 32
      omega
  have hsep : Separated (l ++ n :: r) := by
    refine separated_between ?_ ?_ (fun c hc => hnstart ▸ hbefore.gap c hc) hbehind.gap
    · rcases hbefore.cases with ⟨rfl, -⟩ | ⟨p, rfl, -⟩
      · exact hseps.1
      · exact (List.pairwise_append.1 hseps.1).1
    · rcases hbehind.cases with rfl | ⟨c, rfl⟩
      · exact hseps.2.1
      · exact (List.pairwise_cons.1 hseps.2.1).2
  have hal : ∀ c ∈ l ++ n :: r, Aligned c := by
    intro c hc
    rcases List.mem_append.1 hc with hc | hc
    · exact hl.aligned c (List.mem_append_left _ (hsubleft c hc))
    · rcases List.mem_cons.1 hc with rfl | hc
      · exact hbehind.aligned
      · exact hl.aligned c (List.mem_append_right _ (hsubright c hc))
  have hin : ∀ c ∈ l ++ n :: r, Inside h c := by
    intro c hc
    rcases List.mem_append.1 hc with hc | hc
    · exact hl.inside c (List.mem_append_left _ (hsubleft c hc))
    · rcases List.mem_cons.1 hc with rfl | hc
      · exact hbehind.inside
      · exact hl.inside c (List.mem_append_right _ (hsubright c hc))
  -- the heap with the words of the joined block
  obtain ⟨u, hu⟩ : ∃ u : Heap, u = { h with memory := withPair h.memory m.start n.size (entry r 0) } :=
    ⟨_, rfl⟩
  have hstore : storePair m.start n.size (entry r 0) host h = (.done (), u) := by
    rw [hu]
    exact storePair_eq (by omega)
  have htouch : Touches [n] h u := by
    rw [hu]
    exact touches_withPair (by omega) (by unfold Block.stop; omega)
  have hsize : u.memory.read32 n.start = n.size := by
    rw [hu, hnstart]
    exact read32_withPair_first (by omega)
  have hnextWord : u.memory.read32 (n.start + 4) = entry r 0 := by
    rw [hu, hnstart]
    exact read32_withPair_second hnext
  have hrlink' : Linked u.memory r 0 := by
    refine hrlink.congr fun c hc x hx _ => htouch.memory x (cover_eq_zero.2 fun d hd hdx => ?_)
    rw [List.mem_singleton.1 hd] at hdx
    have hgap := hbehind.gap c hc
    unfold Block.Contains at hdx
    omega
  have hbelow : ∀ {c x}, c ∈ left → x < c.start + 8 → c.stop ≤ m.start → u.memory x = h.memory x := by
    intro c x hc hx hle
    have hcleast := (hl.aligned c (List.mem_append_left _ hc)).least
    refine htouch.memory x (cover_eq_zero.2 fun d hd hdx => ?_)
    rw [List.mem_singleton.1 hd] at hdx
    unfold Block.Contains Block.stop at *
    omega
  refine Total.after hstore ?_
  rcases hbefore.cases with ⟨rfl, rfl⟩ | ⟨p, rfl, hp⟩
  · -- the block is not joined to one before it: those are linked to it
    have hne : m.start ≠ lastStart l := by
      rcases List.eq_nil_or_concat l with rfl | ⟨l, p, rfl⟩
      · rw [lastStart_nil]
        omega
      · rw [List.concat_eq_append, lastStart_concat]
        have hlt := hleft p (by simp)
        omega
    rw [if_pos hne]
    obtain ⟨t, hrun, hhead, hlinked, htouch'⟩ := @replaceLink_spec host u (htouch.bounds hb) l
      (entry right 0) m.start (by omega) (by rw [hu, ← entry_append]; exact hl.head)
      (hlinkLeft.congr fun c hc x _ hx' => hbelow hc hx' (hstops c hc))
      (fun c hc => hl.aligned c (List.mem_append_left _ hc))
      (fun c hc => htouch.inside (hl.inside c (List.mem_append_left _ hc))) hseps.1
    have hkept : ∀ x, n.start ≤ x → t.memory x = u.memory x := by
      intro x hx
      refine htouch'.memory x (cover_eq_zero.2 fun c hc hcx => ?_)
      have hgap := hbefore.gap c hc
      unfold Block.Contains at hcx
      omega
    refine total_iff.2 ⟨(), t, hrun, ⟨?_, ?_, hal, ?_, hsep⟩, ?_⟩
    · rw [hhead, entry_append, ← hnstart]
      rfl
    · refine linked_append.2 ⟨?_, ?_, ?_, ?_⟩
      · rw [← hnstart] at hlinked
        exact hlinked
      · rw [← hsize]
        exact Memory.read32_congr fun x hx _ => hkept x hx
      · rw [← hnextWord]
        exact Memory.read32_congr fun x hx _ => hkept x (by omega)
      · refine hrlink'.congr fun c hc x hx _ => hkept x ?_
        have hgap := hbehind.gap c hc
        unfold Block.stop at hgap
        omega
    · exact fun c hc => htouch'.inside (htouch.inside (hin c hc))
    · refine Touches.trans (htouch.mono fun a ha => ?_) (htouch'.mono fun a ha => ?_)
      · have hzero := hcover a ha
        simp only [cover_append, cover_cons, cover_nil] at *
        omega
      · have hzero := hcover a ha
        rw [cover_append] at hzero
        omega
  · -- the block before is the joined one
    have heq : m.start = lastStart (l ++ [p]) := by rw [lastStart_concat, hp]
    rw [if_neg (fun hne => hne heq)]
    refine ⟨⟨?_, ?_, hal, fun c hc => htouch.inside (hin c hc), hsep⟩, htouch.mono fun a ha => ?_⟩
    · have hhead : h.head = entry l n.start := by
        rw [hl.head, List.append_assoc, entry_append, hnstart, ← hp]
        rfl
      rw [entry_append, hu]
      exact hhead
    · refine linked_append.2 ⟨?_, hsize, hnextWord, hrlink'⟩
      have hfirst := (linked_append.1 hlinkLeft).1
      change Linked h.memory l p.start at hfirst
      change Linked u.memory l n.start
      rw [hnstart, ← hp]
      exact hfirst.congr fun c hc x _ hx' =>
        hbelow (List.mem_append_left _ hc) hx' (Nat.le_of_lt (hbefore.gap c hc))
    · have hzero := hcover a ha
      simp only [cover_append, cover_cons, cover_nil] at *
      omega

/-- **Release.** A block that shares no address with the free ones joins them. -/
theorem release_spec (hb : Bounds h) {frees : List Block} (hl : FreeList h frees) {b : Block}
    (hal : Aligned b) (hin : Inside h b) (hapart : ∀ c ∈ frees, b.Apart c) :
    Total (release b.start b.size) host h fun _ t => ∃ frees', FreeList t frees' ∧
      (∀ a, cover frees' a = cover (b :: frees) a) ∧ Touches (b :: frees) h t := by
  have hsmall := hb.small
  have hgranule : granule = 16 := rfl
  have hleast := hal.least
  have hinb := hin
  unfold Inside Block.stop at hinb
  obtain ⟨left, right, rfl, hlow, hhigh, hfind⟩ := @findPlace_eq host h hb frees hl b.start frees
    [] walkFuel rfl (length_lt_walkFuel hb hl) fun c hc => absurd hc List.not_mem_nil
  rw [← hl.head] at hfind
  have hstops : ∀ c ∈ left, c.stop ≤ b.start := by
    intro c hc
    have hbefore := hlow c hc
    have hor := hapart c (List.mem_append_left _ hc)
    unfold Block.Apart Block.stop at *
    omega
  have hstarts : ∀ c ∈ right, b.stop ≤ c.start := by
    intro c hc
    have hbehind := hhigh c hc
    have hor := hapart c (List.mem_append_right _ hc)
    have hcleast := (hl.aligned c (List.mem_append_right _ hc)).least
    unfold Block.Apart Block.stop at *
    omega
  obtain ⟨l, m, hmerge, hbefore⟩ := @mergeBefore_spec host h hb left right hl b hal hin hstops
  obtain ⟨r, n, hmerge', hbehind⟩ := @mergeBehind_spec host h hb left right hl m hbefore.aligned
    hbefore.inside fun c hc => hbefore.stop ▸ hstarts c hc
  have hcover : ∀ a, cover (l ++ n :: r) a = cover (b :: (left ++ right)) a := by
    intro a
    have h₁ := hbefore.covers a
    have h₂ := hbehind.covers a
    simp only [cover_append, cover_cons, cover_nil] at *
    omega
  have hentry : ¬ (entry right 0 ≠ 0 ∧ entry right 0 < b.start + b.size) := by
    cases right with
    | nil => exact fun hc => hc.1 rfl
    | cons c right =>
      have hc := hstarts c List.mem_cons_self
      unfold Block.stop at hc
      exact fun hlt => absurd hlt.2 (Nat.not_lt.2 hc)
  unfold release
  refine Total.after (checkedEnd_eq (by unfold usizeLimit; omega)) (Total.after (a := h.heapStart) rfl
    (Total.after (a := h.heapEnd) rfl (Total.after (trapIf_false ?_) (Total.after (a := h.head) rfl ?_))))
  · have hstart := hal.start
    have hsize := hal.size
    omega
  refine Total.after hfind (Total.after (trapIf_false hentry) (Total.after hmerge
    (Total.after hmerge' ?_)))
  exact (link_spec hb hl hbefore hbehind hlow hstops).mono fun _ t ht => ⟨_, ht.1, hcover, ht.2⟩

end Vibapp.Guest
