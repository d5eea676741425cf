import Vibapp.Guest.Allocate

/-!
# Calls on a heap

**The invariant** (`HeapInv`). The free blocks and the blocks of the live allocations tile the heap, and
the header of each live allocation names a block that has room for it. It is stated over the live
allocations that the callers know and the words in memory.

**Main results.** Each call keeps the invariant, and answers: `allocate_spec`, `dealloc_spec`,
`realloc_spec`.
-/

namespace Vibapp.Guest

open Prog

variable {host : Host} {h t : Heap}

/-! ## The invariant -/

/-- The blocks of allocations. -/
def blocksOf (m : Memory) (live : List Live) : List Block := live.map fun a => blockOf m a.pointer

/-- A heap that is in use. -/
structure Used (h : Heap) (live : List Live) (frees : List Block) : Prop where
  bounds : Bounds h
  list : FreeList h frees
  holds : ∀ a ∈ live, Holds h.memory a
  tiles : Tiles h.heapStart h.heapEnd (blocksOf h.memory live ++ frees)

/-- A heap before the first allocation. -/
structure Unused (h : Heap) : Prop where
  heapStart : h.heapStart = 0
  heapEnd : h.heapEnd = 0
  head : h.head = 0

/-- The invariant. -/
def HeapInv (h : Heap) (live : List Live) : Prop :=
  Unused h ∧ live = [] ∨ ∃ frees, Used h live frees

/-- Every byte of the allocations' blocks is the same. -/
def Keeps (h t : Heap) (live : List Live) : Prop :=
  ∀ a ∈ live, ∀ x, (blockOf h.memory a.pointer).Contains x → t.memory x = h.memory x

theorem Keeps.mono {live live' : List Live} (hk : Keeps h t live) (hsub : ∀ a ∈ live', a ∈ live) :
    Keeps h t live' :=
  fun a ha => hk a (hsub a ha)

/-- A header is in its block. -/
theorem blockOf_congr {m m' : Memory} {a : Live} (ha : Holds m a)
    (hsame : ∀ x, (blockOf m a.pointer).Contains x → m' x = m x) :
    blockOf m' a.pointer = blockOf m a.pointer := by
  have hroom := ha.room
  have hfits := ha.fits
  have hheader : header = 8 := rfl
  have hin : ∀ x, a.pointer - header ≤ x → x < a.pointer → m' x = m x := by
    intro x hx hx'
    refine hsame x ⟨?_, ?_⟩ <;> omega
  have hfirst : m'.read32 (a.pointer - header) = m.read32 (a.pointer - header) :=
    Memory.read32_congr fun x hx hx' => hin x hx (by omega)
  have hsecond : m'.read32 (a.pointer - header + 4) = m.read32 (a.pointer - header + 4) :=
    Memory.read32_congr fun x hx hx' => hin x (by omega) (by omega)
  unfold blockOf
  rw [hfirst, hsecond]

theorem Holds.congr {m m' : Memory} {a : Live} (ha : Holds m a)
    (hsame : ∀ x, (blockOf m a.pointer).Contains x → m' x = m x) : Holds m' a := by
  have hblock := blockOf_congr ha hsame
  exact ⟨hblock ▸ ha.aligned, hblock ▸ ha.room, hblock ▸ ha.fits, ha.alignment⟩

theorem Keeps.blocksOf {live : List Live} (hk : Keeps h t live)
    (hholds : ∀ a ∈ live, Holds h.memory a) : blocksOf t.memory live = blocksOf h.memory live :=
  List.map_congr_left fun a ha => blockOf_congr (hholds a ha) (hk a ha)

theorem Keeps.trans {u : Heap} {live : List Live} (hk : Keeps h u live) (hk' : Keeps u t live)
    (hholds : ∀ a ∈ live, Holds h.memory a) : Keeps h t live := by
  intro a ha x hx
  rw [← hk a ha x hx]
  refine hk' a ha x ?_
  rw [blockOf_congr (hholds a ha) (hk a ha)]
  exact hx

theorem Holds.size_pos {m : Memory} {a : Live} (ha : Holds m a) : 0 < (blockOf m a.pointer).size := by
  have hleast := ha.aligned.least
  unfold granule at hleast
  omega

/-- The order of the live allocations does not count. -/
theorem Used.perm {live live' : List Live} {frees : List Block} (hu : Used h live frees)
    (hperm : live.Perm live') : Used h live' frees := by
  refine ⟨hu.bounds, hu.list, fun a ha => hu.holds a (hperm.mem_iff.2 ha), hu.tiles.congr fun a => ?_⟩
  exact cover_perm ((hperm.symm.map _).append_right frees) a

theorem Used.pos {live : List Live} {frees : List Block} (hu : Used h live frees) :
    ∀ b ∈ blocksOf h.memory live ++ frees, 0 < b.size := by
  intro b hb
  rcases List.mem_append.1 hb with hb | hb
  · obtain ⟨a, ha, rfl⟩ := List.mem_map.1 hb
    exact (hu.holds a ha).size_pos
  · have hleast := (hu.list.aligned b hb).least
    unfold granule at hleast
    omega

theorem Used.inside {live : List Live} {frees : List Block} (hu : Used h live frees) {a : Live}
    (ha : a ∈ live) : Inside h (blockOf h.memory a.pointer) :=
  hu.tiles.within (List.mem_append_left _ (List.mem_map_of_mem ha)) (hu.holds a ha).size_pos

/-- The pages that the heap has grown by go on where it ended. -/
theorem grown_contains {lo : Nat} (hlo : lo ≤ h.heapEnd) (hend : h.heapEnd ≤ t.heapEnd) (a : Nat) :
    (if (grown h t).Contains a then 1 else 0) + (if lo ≤ a ∧ a < h.heapEnd then 1 else 0) =
      if lo ≤ a ∧ a < t.heapEnd then 1 else 0 := by
  split_ifs <;> simp only [grown, Block.Contains, Block.stop] at * <;> omega

/-- **Changing the allocations.** Some are gone and some are made, and the other blocks are left
alone. -/
theorem Used.change {gone made rest : List Live} {frees frees' : List Block}
    (hu : Used h (gone ++ rest) frees) (hmade : ∀ a ∈ made, Holds t.memory a)
    (hy : Yields h (blocksOf h.memory gone ++ frees) t (blocksOf t.memory made) frees') :
    Used t (made ++ rest) frees' ∧ Keeps h t rest := by
  have htiles : ∀ a, cover (blocksOf h.memory gone ++ frees) a + cover (blocksOf h.memory rest) a =
      if h.heapStart ≤ a ∧ a < h.heapEnd then 1 else 0 := by
    intro a
    rw [← hu.tiles a]
    unfold blocksOf
    simp only [List.map_append, cover_append]
    omega
  have hkeeps : Keeps h t rest := by
    intro a ha x hx
    have hblock : cover (blocksOf h.memory rest) x ≠ 0 :=
      fun hzero => cover_eq_zero.1 hzero _ (List.mem_map_of_mem ha) hx
    have hone := htiles x
    refine hy.memory x ?_
    rw [cover_cons, if_neg]
    · split_ifs at hone <;> omega
    · intro hnew
      have hfrom := hnew.1
      unfold grown at hfrom
      rw [if_neg (fun hin => absurd hin.2 (Nat.not_lt.2 hfrom))] at hone
      omega
  refine ⟨⟨hy.bounds, hy.list, fun a ha => ?_, fun a => ?_⟩, hkeeps⟩
  · rcases List.mem_append.1 ha with ha | ha
    · exact hmade a ha
    · exact (hu.holds a (List.mem_append_right _ ha)).congr (hkeeps a ha)
  · have hrest := hkeeps.blocksOf fun a ha => hu.holds a (List.mem_append_right _ ha)
    have hcover := hy.covers a
    have hone := htiles a
    have hstart := hy.heapStart
    have hend := hy.heapEnd
    have horder := hu.bounds.order
    unfold blocksOf at *
    rw [List.map_append, hrest]
    rw [cover_cons] at hcover
    simp only [cover_append] at *
    have hgrown := grown_contains horder hend a
    rw [hstart]
    omega

/-! ## Allocation -/

/-- `initialize`, on a heap that is not in use yet. -/
theorem initializeHeap_spec (hu : Unused h) : Total initializeHeap host h fun ready t =>
    ready = false ∧ t = h ∨ ready = true ∧ ∃ frees, Used t [] frees := by
  have hmax : maxMemoryBytes = 16777216 := rfl
  have hlimit : usizeLimit = 4294967296 := rfl
  have hgranule : granule = 16 := rfl
  have hpage : page = 65536 := rfl
  unfold initializeHeap
  refine Total.after (a := h.heapStart) (t := h) rfl ?_
  rw [if_neg (fun hne => hne hu.heapStart)]
  refine Total.after (a := host.heapBase) (t := h) rfl ?_
  cases hbase : alignUp host.heapBase granule with
  | none => exact .inl ⟨rfl, rfl⟩
  | some start =>
    obtain ⟨-, -, hmod⟩ := alignUp_eq_some powerOfTwo_granule hbase
    rw [hgranule] at hmod
    obtain ⟨bytes, hbytes⟩ : ∃ bytes, bytes = min (h.pages * page % usizeLimit) maxMemoryBytes :=
      ⟨_, rfl⟩
    refine Total.after (a := bytes) (t := h) (by rw [hbytes]; rfl) ?_
    rw [hpage, hmax, hlimit] at hbytes
    by_cases hnone : start = 0 ∨ bytes < start
    · rw [if_pos hnone]
      exact .inl ⟨rfl, rfl⟩
    rw [if_neg hnone]
    obtain ⟨u, hueq⟩ : ∃ u : Heap, u = { h with heapStart := start, heapEnd := bytes } := ⟨_, rfl⟩
    have hustart : u.heapStart = start := by rw [hueq]
    have huend : u.heapEnd = bytes := by rw [hueq]
    have hb : Bounds u := by
      refine ⟨?_, ?_, ?_, ?_, ?_, ?_⟩
      · omega
      · rw [hustart, hgranule]
        exact hmod
      · omega
      · omega
      · rw [huend, hpage]
        omega
      · rw [huend, hueq, hpage]
        dsimp only
        omega
    have hl : FreeList u [] := by
      refine ⟨?_, trivial, fun b hb => absurd hb List.not_mem_nil,
        fun b hb => absurd hb List.not_mem_nil, .nil⟩
      rw [hueq]
      exact hu.head
    refine Total.after (a := ()) (t := u) (by rw [hueq]; rfl) ?_
    by_cases hroom : granule ≤ bytes - start
    · rw [if_pos hroom]
      have hal : Aligned ⟨start, bytes - start⟩ := by
        rw [hgranule] at hroom
        refine ⟨?_, ?_, ?_⟩ <;> rw [hgranule] <;> dsimp only <;> omega
      have hin : Inside u ⟨start, bytes - start⟩ := by
        unfold Inside Block.stop
        dsimp only
        omega
      refine Total.bind (release_spec hb hl hal hin fun c hc => absurd hc List.not_mem_nil) ?_
      rintro _ t ⟨frees, hfree, hcover, htouch⟩
      refine .inr ⟨rfl, frees, htouch.bounds hb, hfree, fun a ha => absurd ha List.not_mem_nil, ?_⟩
      intro a
      change cover frees a = _
      rw [hcover a, htouch.heapStart, htouch.heapEnd, hustart, huend]
      simp only [cover_cons, cover_nil]
      split_ifs <;> simp only [Block.Contains, Block.stop] at * <;> omega
    · rw [if_neg hroom]
      refine .inr ⟨rfl, [], hb, hl, fun a ha => absurd ha List.not_mem_nil, ?_⟩
      have heq : u.heapStart = u.heapEnd := by
        rw [hgranule] at hroom
        omega
      rw [heq]
      exact tiles_nil _

theorem keeps_nil (h t : Heap) : Keeps h t [] := fun _ ha => absurd ha List.not_mem_nil

theorem keeps_refl (h : Heap) (live : List Live) : Keeps h h live := fun _ _ _ _ => rfl

/-- What `allocate` does to a heap with live allocations. -/
def Allocates (h : Heap) (live : List Live) (layout : Layout) (pointer : Nat) (t : Heap) : Prop :=
  Keeps h t live ∧ (pointer = 0 ∧ HeapInv t live ∨
    pointer ≠ 0 ∧ ∃ frees, Used t (⟨pointer, layout⟩ :: live) frees)

theorem allocates_of_yields {live : List Live} {frees frees' : List Block} {layout : Layout}
    {pointer : Nat} (hu : Used h live frees)
    (hy : pointer = 0 ∧ Yields h frees t [] frees' ∨ pointer ≠ 0 ∧
      Holds t.memory ⟨pointer, layout⟩ ∧ Yields h frees t [blockOf t.memory pointer] frees') :
    Allocates h live layout pointer t := by
  rcases hy with ⟨hnull, hy⟩ | ⟨hne, hholds, hy⟩
  · obtain ⟨hused, hkeeps⟩ := @Used.change h t [] [] live frees frees' hu
      (fun a ha => absurd ha List.not_mem_nil) hy
    exact ⟨hkeeps, .inl ⟨hnull, .inr ⟨_, hused⟩⟩⟩
  · obtain ⟨hused, hkeeps⟩ := @Used.change h t [] [⟨pointer, layout⟩] live frees frees' hu
      (fun a ha => List.mem_singleton.1 ha ▸ hholds) hy
    exact ⟨hkeeps, .inr ⟨hne, _, hused⟩⟩

/-- **Allocation.** -/
theorem allocate_spec {live : List Live} (hinv : HeapInv h live) (layout : Layout) :
    Total (allocate layout) host h fun pointer t => Allocates h live layout pointer t := by
  have hnull : ∀ {u}, u = h → Allocates h live layout 0 u := by
    rintro u rfl
    exact ⟨keeps_refl _ _, .inl ⟨rfl, hinv⟩⟩
  have hloop : ∀ {u : Heap} {frees : List Block} (minimum : Nat), Used u live frees →
      Total (allocateLoop layout (max layout.align granule) minimum growFuel) host u
        fun pointer t => Allocates u live layout pointer t := by
    intro u frees minimum hu
    refine (allocateLoop_spec layout minimum growFuel hu.bounds hu.list ?_).mono ?_
    · have hfuel : growFuel = 258 := rfl
      have hmax : maxMemoryBytes = 16777216 := rfl
      have hpage : page = 65536 := rfl
      rw [hfuel, hmax, hpage]
      omega
    · exact fun pointer t ⟨frees', hy⟩ => allocates_of_yields hu hy
  unfold allocate
  dsimp only
  cases hminimum : (checkedAdd (max layout.size 1) header).bind fun n =>
      checkedAdd n (max layout.align granule - 1) with
  | none => exact hnull rfl
  | some minimum =>
    dsimp only
    by_cases hlarge : maxMemoryBytes < layout.size
    · rw [if_pos hlarge]
      exact hnull rfl
    rw [if_neg hlarge]
    rcases hinv with ⟨hunused, rfl⟩ | ⟨frees, hu⟩
    · refine Total.bind (initializeHeap_spec hunused) ?_
      rintro ready u (⟨rfl, rfl⟩ | ⟨rfl, frees, hu⟩)
      · rw [if_neg Bool.noConfusion]
        exact hnull rfl
      · rw [if_pos rfl]
        refine (hloop minimum hu).mono fun pointer t ht => ⟨keeps_nil _ _, ht.2⟩
    · have hready : initializeHeap host h = (.done true, h) := by
        have hstart := hu.bounds.start
        change (if h.heapStart ≠ 0 then _ else _ : Run Bool) host h = _
        rw [if_pos (by omega)]
        rfl
      refine Total.after hready ?_
      rw [if_pos rfl]
      exact hloop minimum hu

/-! ## Deallocation -/

/-- `allocation` reads the block of a live allocation. -/
theorem allocation_eq {a : Live} {rest : List Live} {frees : List Block}
    (hu : Used h (a :: rest) frees) : allocation a.pointer a.layout host h =
      (.done ((blockOf h.memory a.pointer).start, (blockOf h.memory a.pointer).size), h) := by
  obtain ⟨b, hb⟩ : ∃ b, b = blockOf h.memory a.pointer := ⟨_, rfl⟩
  have hholds := hu.holds a List.mem_cons_self
  have hin := hu.inside List.mem_cons_self
  obtain ⟨hal, hroom, hfits, halign⟩ := hholds
  rw [← hb] at hal hroom hfits hin
  obtain ⟨hstart, hsize, hleast⟩ := hal
  have hpos := hu.bounds.start
  have hsmall := hu.bounds.small
  have hmapped := hu.bounds.mapped
  have hgranule : granule = 16 := rfl
  have hheader : header = 8 := rfl
  have hlimit : usizeLimit = 4294967296 := rfl
  unfold Inside Block.stop at hin
  unfold Block.stop at hfits
  have hfirst := @checkedEnd_eq host h h.heapStart header (by omega)
  have hpair : loadPair (a.pointer - header) host h = (.done (b.start, b.size), h) := by
    rw [loadPair_eq (by omega), hb]
    rfl
  have hbody := @checkedEnd_eq host h b.start header (by omega)
  have hstop := @checkedEnd_eq host h b.start b.size (by omega)
  have hend := @checkedEnd_eq host h a.pointer (max a.layout.size 1) (by omega)
  rw [← hb]
  apply eq_of_total
  unfold allocation
  refine Total.after (a := h.heapStart) rfl (Total.after hfirst (Total.after (a := h.heapEnd) rfl ?_))
  refine Total.after (trapIf_false (by omega)) (Total.after hpair ?_)
  refine Total.after (a := h.heapStart) rfl (Total.after (trapIf_false (by omega)) ?_)
  refine Total.after hbody (Total.after (trapIf_false (by omega)) ?_)
  refine Total.after (trapIf_false (by omega)) (Total.after hstop (Total.after hend ?_))
  refine Total.after (trapIf_false (by omega)) (Total.after (a := h.heapEnd) rfl ?_)
  exact Total.after hstop (Total.after (trapIf_false (by omega)) ⟨rfl, rfl⟩)

/-- The block of a live allocation shares no address with the free ones. -/
theorem Used.apart {a : Live} {rest : List Live} {frees : List Block}
    (hu : Used h (a :: rest) frees) {c : Block} (hc : c ∈ frees) :
    (blockOf h.memory a.pointer).Apart c :=
  hu.tiles.apart (List.mem_append_right (blocksOf h.memory rest) hc)
    (hu.holds a List.mem_cons_self).size_pos (hu.pos c (List.mem_append_right _ hc))

/-- The release of a live allocation's block. -/
theorem release_live {a : Live} {rest : List Live} {frees : List Block}
    (hu : Used h (a :: rest) frees) :
    Total (release (blockOf h.memory a.pointer).start (blockOf h.memory a.pointer).size) host h
      fun _ t => (∃ frees', Used t rest frees') ∧ Keeps h t rest := by
  refine (release_spec hu.bounds hu.list (hu.holds a List.mem_cons_self).aligned
    (hu.inside List.mem_cons_self) fun c hc => hu.apart hc).mono ?_
  rintro _ t ⟨frees', hfree, hcover, htouch⟩
  obtain ⟨hused, hkeeps⟩ := @Used.change h t [a] [] rest frees frees' hu
    (fun a ha => absurd ha List.not_mem_nil) (yields_of_touches hu.bounds hfree hcover htouch)
  exact ⟨⟨frees', hused⟩, hkeeps⟩

/-- **Deallocation.** -/
theorem dealloc_spec {a : Live} {rest : List Live} {frees : List Block}
    (hu : Used h (a :: rest) frees) : Total (dealloc a.pointer a.layout) host h fun _ t =>
      (∃ frees', Used t rest frees') ∧ Keeps h t rest :=
  Total.after (allocation_eq hu) (release_live hu)

/-! ## Writing to a payload -/

/-- Bytes that differ in the payload of a live allocation only are in its block. -/
theorem Used.write_outside {a : Live} {rest : List Live} {frees : List Block}
    (hu : Used h (a :: rest) frees) {m : Memory}
    (hsame : ∀ x, x < a.pointer ∨ a.pointer + max a.layout.size 1 ≤ x → m x = h.memory x) {b : Block}
    (hb : b ∈ blocksOf h.memory rest ++ frees) {x : Nat} (hx : b.Contains x) : m x = h.memory x := by
  have hholds := hu.holds a List.mem_cons_self
  have hroom := hholds.room
  have hfits := hholds.fits
  have hor : (blockOf h.memory a.pointer).Apart b :=
    hu.tiles.apart hb hholds.size_pos (hu.pos b (List.mem_cons_of_mem _ hb))
  unfold Block.Apart Block.Contains at *
  exact hsame x (by omega)

/-- The other allocations keep their bytes. -/
theorem Used.write_keeps {a : Live} {rest : List Live} {frees : List Block}
    (hu : Used h (a :: rest) frees) {m : Memory}
    (hsame : ∀ x, x < a.pointer ∨ a.pointer + max a.layout.size 1 ≤ x → m x = h.memory x) :
    Keeps h { h with memory := m } rest :=
  fun _ hc _ hx => hu.write_outside hsame (List.mem_append_left frees (List.mem_map_of_mem hc)) hx

/-- A header is in front of its payload. -/
theorem blockOf_write {a : Live} {m m' : Memory} (ha : Holds m a)
    (hsame : ∀ x, x < a.pointer ∨ a.pointer + max a.layout.size 1 ≤ x → m' x = m x) :
    blockOf m' a.pointer = blockOf m a.pointer := by
  have hroom := ha.room
  have hheader : header = 8 := rfl
  have hfirst : m'.read32 (a.pointer - header) = m.read32 (a.pointer - header) :=
    Memory.read32_congr fun x _ hx => hsame x (by omega)
  have hsecond : m'.read32 (a.pointer - header + 4) = m.read32 (a.pointer - header + 4) :=
    Memory.read32_congr fun x _ hx => hsame x (by omega)
  unfold blockOf
  rw [hfirst, hsecond]

/-- A heap whose memory differs in the payload of a live allocation. -/
theorem Used.write {a : Live} {rest : List Live} {frees : List Block} (hu : Used h (a :: rest) frees)
    {m : Memory} (hsame : ∀ x, x < a.pointer ∨ a.pointer + max a.layout.size 1 ≤ x →
      m x = h.memory x) : Used { h with memory := m } (a :: rest) frees := by
  have hholds := hu.holds a List.mem_cons_self
  have hrest := hu.write_keeps hsame
  have hblock := blockOf_write hholds hsame
  refine ⟨⟨hu.bounds.start, hu.bounds.alignedStart, hu.bounds.order, hu.bounds.most,
    hu.bounds.alignedEnd, hu.bounds.mapped⟩, ⟨hu.list.head, ?_, hu.list.aligned, hu.list.inside,
      hu.list.separated⟩, fun c hc => ?_, ?_⟩
  · refine hu.list.linked.congr fun c hc x hx hx' => ?_
    have hleast := (hu.list.aligned c hc).least
    unfold granule at hleast
    refine hu.write_outside hsame (List.mem_append_right _ hc) ⟨hx, ?_⟩
    unfold Block.stop
    omega
  · rcases List.mem_cons.1 hc with rfl | hc
    · exact ⟨hblock ▸ hholds.aligned, hblock ▸ hholds.room, hblock ▸ hholds.fits, hholds.alignment⟩
    · exact (hu.holds c (List.mem_cons_of_mem _ hc)).congr (hrest c hc)
  · have hblocks := hrest.blocksOf fun c hc => hu.holds c (List.mem_cons_of_mem _ hc)
    have htiles := hu.tiles
    unfold blocksOf at *
    rw [List.map_cons] at *
    change Tiles h.heapStart h.heapEnd (blockOf m a.pointer :: List.map _ rest ++ frees)
    rw [hblock]
    change List.map (fun a => blockOf m a.pointer) rest = _ at hblocks
    rw [hblocks]
    exact htiles

/-! ## Reallocation -/

/-- The first bytes of two payloads are the same. -/
def SameBytes (h t : Heap) (old new count : Nat) : Prop :=
  ∀ i < count, t.memory (new + i) = h.memory (old + i)

/-- `realloc` that stays in its block. -/
theorem shrink_spec {a : Live} {rest : List Live} {frees : List Block}
    (hu : Used h (a :: rest) frees) {layout : Layout} {newEnd : Nat}
    (halign : layout.align = a.layout.align) (hfits : a.pointer + max layout.size 1 ≤ newEnd)
    (hmod : newEnd % granule = 0) (hend : newEnd ≤ (blockOf h.memory a.pointer).stop) :
    Total (shrink a.pointer (blockOf h.memory a.pointer).start (blockOf h.memory a.pointer).stop
      newEnd) host h fun pointer t => pointer = a.pointer ∧
        (∃ frees', Used t (⟨a.pointer, layout⟩ :: rest) frees') ∧ Keeps h t rest ∧
          SameBytes h t a.pointer a.pointer (min a.layout.size layout.size) := by
  obtain ⟨b, hb⟩ : ∃ b, b = blockOf h.memory a.pointer := ⟨_, rfl⟩
  have hholds := hu.holds a List.mem_cons_self
  have hin := hu.inside List.mem_cons_self
  obtain ⟨hal, hroom, hold, hpointer⟩ := hholds
  have hapart : ∀ c ∈ frees, b.Apart c := fun c hc => hb ▸ hu.apart hc
  rw [← hb] at hal hroom hin hold hend ⊢
  have hb' := hu.bounds
  have hpos := hb'.start
  have hsmall := hb'.small
  have hmapped := hb'.mapped
  have hgranule : granule = 16 := rfl
  have hheader : header = 8 := rfl
  obtain ⟨hstart, hsize, hleast⟩ := hal
  rw [hgranule] at hstart hsize hleast hmod
  unfold Inside at hin
  have hstop : b.stop % 16 = 0 := by
    unfold Block.stop
    omega
  have hlayout : a.pointer % max layout.align granule = 0 := by
    rw [halign]
    exact hpointer
  have hpositive : 0 < max layout.size 1 := by omega
  unfold shrink
  by_cases hrest : granule ≤ b.stop - newEnd
  · rw [if_pos hrest]
    rw [hgranule] at hrest
    obtain ⟨u, hueq⟩ : ∃ u : Heap, u = { h with
      memory := withPair h.memory (a.pointer - header) b.start (newEnd - b.start) } := ⟨_, rfl⟩
    have hstore : storePair (a.pointer - header) b.start (newEnd - b.start) host h =
        (.done (), u) := by
      rw [hueq]
      exact storePair_eq (by omega)
    have htouch : Touches [b] h u := by
      rw [hueq]
      exact touches_withPair (by omega) (by omega)
    have hul : FreeList u frees := by
      refine ⟨?_, hu.list.linked.congr fun c hc x hx hx' => ?_, hu.list.aligned,
        fun c hc => htouch.inside (hu.list.inside c hc), hu.list.separated⟩
      · rw [hueq]
        exact hu.list.head
      · refine htouch.memory x (cover_eq_zero.2 fun d hd hdx => ?_)
        rw [List.mem_singleton.1 hd] at hdx
        have hor := hapart c hc
        have hcleast := (hu.list.aligned c hc).least
        unfold Block.Apart Block.Contains Block.stop at *
        omega
    obtain ⟨r, hr⟩ : ∃ r : Block, r = ⟨newEnd, b.stop - newEnd⟩ := ⟨_, rfl⟩
    have hrstart : r.start = newEnd := by rw [hr]
    have hrsize : r.size = b.stop - newEnd := by rw [hr]
    have hrstop : r.stop = b.stop := by
      unfold Block.stop at *
      omega
    have hral : Aligned r := by
      refine ⟨?_, ?_, ?_⟩ <;> rw [hgranule] <;> omega
    have hrin : Inside u r := htouch.inside ⟨by omega, by omega⟩
    have hrapart : ∀ c ∈ frees, r.Apart c := by
      intro c hc
      have hor := hapart c hc
      unfold Block.Apart at *
      omega
    have hrelease := @release_spec host u (htouch.bounds hb') frees hul r hral hrin hrapart
    rw [hrstart, hrsize] at hrelease
    refine Total.after hstore (Total.bind hrelease ?_)
    rintro _ t ⟨frees', hfree, hcover, htouch'⟩
    -- bytes of the block before its new end
    have hkept : ∀ x, b.start ≤ x → x < newEnd → t.memory x = u.memory x := by
      intro x hx hx'
      refine htouch'.memory x (cover_eq_zero.2 fun c hc hcx => ?_)
      rcases List.mem_cons.1 hc with rfl | hc
      · unfold Block.Contains at hcx
        omega
      · have hor := hapart c hc
        unfold Block.Apart Block.Contains at *
        omega
    have hfirst : t.memory.read32 (a.pointer - header) = b.start := by
      rw [Memory.read32_congr fun x hx hx' => hkept x (by omega) (by omega), hueq]
      exact read32_withPair_first (by omega)
    have hsecond : t.memory.read32 (a.pointer - header + 4) = newEnd - b.start := by
      rw [Memory.read32_congr fun x hx hx' => hkept x (by omega) (by omega), hueq]
      exact read32_withPair_second (by omega)
    have husedal : Aligned ⟨b.start, newEnd - b.start⟩ := by
      refine ⟨?_, ?_, ?_⟩ <;> rw [hgranule] <;> dsimp only <;> omega
    obtain ⟨hblock, hholds⟩ := @holds_of_header t.memory b.start (newEnd - b.start) a.pointer layout
      hfirst hsecond husedal hroom hlayout (by omega)
    have hjoin : ∀ x, cover (b :: frees) x = cover (⟨b.start, newEnd - b.start⟩ :: r :: frees) x := by
      intro x
      have hsplit := cover_join b.start (newEnd - b.start) r.size frees x
      have hwhole : (⟨b.start, newEnd - b.start + r.size⟩ : Block) = b := by
        obtain ⟨start, size⟩ := b
        unfold Block.stop at *
        dsimp only at *
        rw [show newEnd - start + r.size = size by omega]
      have hrblock : (⟨b.start + (newEnd - b.start), r.size⟩ : Block) = r := by
        rw [show b.start + (newEnd - b.start) = r.start by omega]
      rw [hwhole, hrblock] at hsplit
      exact hsplit
    have htouches : Touches (b :: frees) h t := by
      refine (htouch.mono fun x hx => ?_).trans (htouch'.mono fun x hx => ?_)
      · simp only [cover_cons, cover_nil] at *
        omega
      · rw [hjoin x, cover_cons] at hx
        omega
    obtain ⟨hused, hkeeps⟩ := @Used.change h t [a] [⟨a.pointer, layout⟩] rest frees frees' hu
      (fun c hc => List.mem_singleton.1 hc ▸ hholds) (yields_of_touches hb' hfree (fun x => by
        change cover (blockOf t.memory a.pointer :: frees') x =
          cover (blockOf h.memory a.pointer :: frees) x
        rw [hblock, ← hb, hjoin x, cover_cons, cover_cons, hcover x]) (by
        change Touches (blockOf h.memory a.pointer :: frees) h t
        rw [← hb]
        exact htouches))
    refine ⟨rfl, ⟨frees', hused⟩, hkeeps, fun i hi => ?_⟩
    rw [hkept _ (by omega) (by omega), hueq]
    exact withPair_outside _ _ (by omega)
  · rw [if_neg hrest]
    rw [hgranule] at hrest
    have hsame : newEnd = b.stop := by omega
    have hholds : Holds h.memory ⟨a.pointer, layout⟩ := by
      refine ⟨?_, ?_, ?_, hlayout⟩ <;> rw [← hb]
      · exact ⟨hstart, hsize, hleast⟩
      · exact hroom
      · exact hsame ▸ hfits
    obtain ⟨hused, hkeeps⟩ := @Used.change h h [a] [⟨a.pointer, layout⟩] rest frees frees hu
      (fun c hc => List.mem_singleton.1 hc ▸ hholds)
      (yields_of_touches hb' hu.list (fun _ => rfl) (Touches.refl _ h))
    exact ⟨rfl, ⟨frees, hused⟩, hkeeps, fun _ _ => rfl⟩

/-- `realloc` that takes another block. -/
theorem move_spec {a : Live} {rest : List Live} {frees : List Block} (hu : Used h (a :: rest) frees)
    {layout : Layout} {count : Nat} (hold : count ≤ a.layout.size) (hnew : count ≤ layout.size) :
    Total (move a.pointer (blockOf h.memory a.pointer).start (blockOf h.memory a.pointer).size count
      layout) host h fun pointer t =>
        pointer = 0 ∧ (∃ frees', Used t (a :: rest) frees') ∧ Keeps h t (a :: rest) ∨
        pointer ≠ 0 ∧ (∃ frees', Used t (⟨pointer, layout⟩ :: rest) frees') ∧ Keeps h t rest ∧
          SameBytes h t a.pointer pointer count := by
  have hholds := hu.holds a List.mem_cons_self
  unfold move
  refine Total.bind (allocate_spec (.inr ⟨frees, hu⟩) layout) ?_
  rintro pointer u ⟨hkeeps, ⟨rfl, hinv⟩ | ⟨hne, frees', hu'⟩⟩
  · rw [if_neg (fun hnot => hnot rfl)]
    rcases hinv with ⟨-, hnil⟩ | hused
    · exact absurd hnil (List.cons_ne_nil _ _)
    · exact .inl ⟨rfl, hused, hkeeps⟩
  · rw [if_pos hne]
    have hblock : blockOf u.memory a.pointer = blockOf h.memory a.pointer :=
      blockOf_congr hholds (hkeeps a List.mem_cons_self)
    have hfitsNew := (hu'.holds _ List.mem_cons_self).fits
    have hfitsOld := (hu'.holds _ (List.mem_cons_of_mem _ List.mem_cons_self)).fits
    have hroomOld := (hu'.holds _ (List.mem_cons_of_mem _ List.mem_cons_self)).room
    have hinNew := hu'.inside List.mem_cons_self
    have hinOld := hu'.inside (List.mem_cons_of_mem _ List.mem_cons_self)
    have hmapped := hu'.bounds.mapped
    unfold Inside at hinNew hinOld
    dsimp only at hfitsNew hfitsOld hinNew hinOld
    obtain ⟨v, hv⟩ : ∃ v : Heap, v = { u with memory := u.memory.copy a.pointer pointer count } :=
      ⟨_, rfl⟩
    have hcopy : copyBytes a.pointer pointer count host u = (.done (), v) := by
      apply eq_of_total
      unfold copyBytes
      refine Total.after (a := u.pages * page) rfl (Total.after (trapIf_false (by omega)) ?_)
      exact ⟨rfl, hv.symm⟩
    have hsame : ∀ x, x < pointer ∨ pointer + max layout.size 1 ≤ x →
        u.memory.copy a.pointer pointer count x = u.memory x := by
      intro x hx
      exact Memory.copy_outside _ _ (by omega)
    have hvused : Used v (⟨pointer, layout⟩ :: a :: rest) frees' := by
      rw [hv]
      exact hu'.write hsame
    have hvkeeps : Keeps u v (a :: rest) := by
      rw [hv]
      exact hu'.write_keeps hsame
    have hvblock : blockOf v.memory a.pointer = blockOf h.memory a.pointer := by
      rw [← hblock]
      exact blockOf_congr (hu'.holds a (List.mem_cons_of_mem _ List.mem_cons_self))
        (hvkeeps a List.mem_cons_self)
    have hswap := hvused.perm (List.Perm.swap a ⟨pointer, layout⟩ rest)
    have hrelease := @release_live host v a (⟨pointer, layout⟩ :: rest) frees' hswap
    rw [hvblock] at hrelease
    refine Total.after hcopy (Total.bind hrelease ?_)
    rintro _ t ⟨hused, hkept⟩
    have hrest : Keeps h t rest := by
      have hfirst : Keeps h v (a :: rest) := hkeeps.trans hvkeeps hu.holds
      refine (hfirst.mono fun c hc => List.mem_cons_of_mem _ hc).trans
        (hkept.mono fun c hc => List.mem_cons_of_mem _ hc) fun c hc => ?_
      exact hu.holds c (List.mem_cons_of_mem _ hc)
    refine .inr ⟨hne, hused, hrest, fun i hi => ?_⟩
    have hvholds := hvused.holds _ List.mem_cons_self
    have hvroom := hvholds.room
    have hvfits := hvholds.fits
    dsimp only at hvroom hvfits
    have hlast : t.memory (pointer + i) = v.memory (pointer + i) :=
      hkept ⟨pointer, layout⟩ List.mem_cons_self _ ⟨by dsimp only; omega, by dsimp only; omega⟩
    have hcopied : v.memory (pointer + i) = u.memory (a.pointer + i) := by
      rw [hv]
      dsimp only
      rw [Memory.copy_inside _ _ (by omega) (by omega), Nat.add_sub_cancel_left]
    rw [hlast, hcopied]
    rw [hblock] at hfitsOld hroomOld
    exact hkeeps a List.mem_cons_self _ ⟨by omega, by omega⟩

theorem Layout.fromSizeAlign_eq_some {size align : Nat} {l : Layout}
    (h : Layout.fromSizeAlign size align = some l) : l.size = size ∧ l.align = align := by
  unfold Layout.fromSizeAlign at h
  split_ifs at h
  cases h
  exact ⟨rfl, rfl⟩

/-- A smaller size has a layout too. -/
theorem Layout.fromSizeAlign_of_le {size size' align : Nat} {l' : Layout} (hle : size ≤ size')
    (h : Layout.fromSizeAlign size' align = some l') :
    ∃ l, Layout.fromSizeAlign size align = some l := by
  unfold Layout.fromSizeAlign at h
  split_ifs at h with hvalid
  exact ⟨⟨size, align, hvalid.1, by omega⟩, dif_pos ⟨hvalid.1, by omega⟩⟩

/-- No byte and one byte take the same room. -/
theorem Used.relabel {a b : Live} {rest : List Live} {frees : List Block}
    (hu : Used h (a :: rest) frees) (hpointer : b.pointer = a.pointer)
    (hsize : max b.layout.size 1 = max a.layout.size 1) (halign : b.layout.align = a.layout.align) :
    Used h (b :: rest) frees := by
  have hholds := hu.holds a List.mem_cons_self
  have hblock : blockOf h.memory b.pointer = blockOf h.memory a.pointer := by rw [hpointer]
  refine ⟨hu.bounds, hu.list, fun c hc => ?_, ?_⟩
  · rcases List.mem_cons.1 hc with rfl | hc
    · refine ⟨?_, ?_, ?_, ?_⟩
      · rw [hblock]
        exact hholds.aligned
      · rw [hblock, hpointer]
        exact hholds.room
      · rw [hblock, hpointer, hsize]
        exact hholds.fits
      · rw [hpointer, halign]
        exact hholds.alignment
    · exact hu.holds c (List.mem_cons_of_mem _ hc)
  · have htiles := hu.tiles
    unfold blocksOf at *
    rw [List.map_cons] at *
    rw [hblock]
    exact htiles

/-- What `realloc` does to a heap with a live allocation. -/
def Reallocates (h : Heap) (a : Live) (rest : List Live) (newSize pointer : Nat) (t : Heap) : Prop :=
  pointer = 0 ∧ (∃ frees, Used t (a :: rest) frees) ∧ Keeps h t (a :: rest) ∨
  pointer ≠ 0 ∧ ∃ layout, Layout.fromSizeAlign newSize a.layout.align = some layout ∧
    (∃ frees, Used t (⟨pointer, layout⟩ :: rest) frees) ∧ Keeps h t rest ∧
      SameBytes h t a.pointer pointer (min a.layout.size newSize)

/-- **Reallocation.** -/
theorem realloc_spec {a : Live} {rest : List Live} {frees : List Block}
    (hu : Used h (a :: rest) frees) (newSize : Nat) :
    Total (realloc a.pointer a.layout newSize) host h fun pointer t =>
      Reallocates h a rest newSize pointer t := by
  have hnone : Reallocates h a rest newSize 0 h := .inl ⟨rfl, ⟨frees, hu⟩, keeps_refl _ _⟩
  have hholds := hu.holds a List.mem_cons_self
  have hin := hu.inside List.mem_cons_self
  have hsmall := hu.bounds.small
  unfold Inside at hin
  unfold realloc
  cases hnext : Layout.fromSizeAlign (max newSize 1) a.layout.align with
  | none => exact hnone
  | some nextLayout =>
    obtain ⟨hnextSize, hnextAlign⟩ := Layout.fromSizeAlign_eq_some hnext
    obtain ⟨layout, hlayout⟩ := Layout.fromSizeAlign_of_le (Nat.le_max_left newSize 1) hnext
    obtain ⟨hsize, halign⟩ := Layout.fromSizeAlign_eq_some hlayout
    refine Total.after (allocation_eq hu) ?_
    dsimp only
    cases hend : (checkedAdd a.pointer (max newSize 1)).bind fun n => alignUp n granule with
    | none => exact hnone
    | some newEnd =>
      obtain ⟨n, hn, hup⟩ := Option.bind_eq_some_iff.1 hend
      obtain ⟨hle, -, hmod⟩ := alignUp_eq_some powerOfTwo_granule hup
      have hsum : a.pointer + max newSize 1 = n := by
        unfold checkedAdd at hn
        split_ifs at hn
        exact Option.some.inj hn
      have hlimit : usizeLimit = 4294967296 := rfl
      unfold Block.stop at hin
      refine Total.after (@checkedEnd_eq host h _ _ (by omega)) ?_
      by_cases hfits : newEnd ≤ (blockOf h.memory a.pointer).start + (blockOf h.memory a.pointer).size
      · rw [if_pos hfits]
        refine (@shrink_spec host h a rest frees hu layout _ halign (by omega) hmod hfits).mono ?_
        rintro pointer t ⟨rfl, hused, hkeeps, hbytes⟩
        have hne : a.pointer ≠ 0 := by
          have hroom := hholds.room
          have hheader : header = 8 := rfl
          omega
        rw [hsize] at hbytes
        exact .inr ⟨hne, layout, hlayout, hused, hkeeps, hbytes⟩
      · rw [if_neg hfits]
        refine (@move_spec host h a rest frees hu nextLayout _ (Nat.min_le_left _ _) (by omega)).mono ?_
        rintro pointer t (hnull | ⟨hne, ⟨frees', hused⟩, hkeeps, hbytes⟩)
        · exact .inl hnull
        · have hrelabelled : Used t (⟨pointer, layout⟩ :: rest) frees' :=
            hused.relabel rfl (by dsimp only; omega) (by dsimp only; omega)
          exact .inr ⟨hne, layout, hlayout, ⟨frees', hrelabelled⟩, hkeeps, hbytes⟩

end Vibapp.Guest
