import Vibapp.Guest.FreeList

/-!
# Allocation

`allocate` takes a block from the free list, or extends the heap first. **Main result**
(`allocateLoop_spec`). The list and the block that was taken cover what the list covered and the pages
that the heap has grown by, and no byte outside them changes.
-/

namespace Vibapp.Guest

open Prog

variable {host : Host} {h t : Heap}

/-! ## Taking a block -/

/-- An allocation that the caller may name. -/
structure Live where
  pointer : Nat
  layout : Layout
deriving DecidableEq

/-- The block of a pointer, as its header has it. -/
def blockOf (m : Memory) (pointer : Nat) : Block :=
  ⟨m.read32 (pointer - header), m.read32 (pointer - header + 4)⟩

/-- The header of an allocation names a block that has room for the header and the payload. -/
structure Holds (m : Memory) (a : Live) : Prop where
  aligned : Aligned (blockOf m a.pointer)
  room : (blockOf m a.pointer).start + header ≤ a.pointer
  fits : a.pointer + max a.layout.size 1 ≤ (blockOf m a.pointer).stop
  alignment : a.pointer % max a.layout.align granule = 0

theorem fit_spec {layout : Layout} {alignment afterHeader payload usedEnd : Nat}
    (ha : PowerOfTwo alignment) (hfit : fit layout alignment afterHeader = some (payload, usedEnd)) :
    afterHeader ≤ payload ∧ payload % alignment = 0 ∧ payload + max layout.size 1 ≤ usedEnd ∧
      usedEnd % granule = 0 := by
  unfold fit at hfit
  obtain ⟨p, hp, hfit⟩ := Option.bind_eq_some_iff.1 hfit
  obtain ⟨v, hv, hfit⟩ := Option.bind_eq_some_iff.1 hfit
  obtain ⟨w, hw, hfit⟩ := Option.bind_eq_some_iff.1 hfit
  obtain ⟨rfl, rfl⟩ := Prod.mk.inj (Option.some.inj hfit)
  obtain ⟨hle, -, hmod⟩ := alignUp_eq_some ha hp
  obtain ⟨-, rfl⟩ := checkedAdd_eq_some.1 hv
  obtain ⟨hle', -, hmod'⟩ := alignUp_eq_some powerOfTwo_granule hw
  exact ⟨hle, hmod, hle', hmod'⟩

/-- The list without a block, or with what is left of it, and a header where the block was. -/
theorem relink_spec (hb : Bounds h) {left rest : List Block} {next address first second : Nat}
    (hhead : h.head = entry left next) (hleft : Linked h.memory left next)
    (hrest : Linked h.memory rest 0) (hal : ∀ c ∈ left ++ rest, Aligned c)
    (hin : ∀ c ∈ left ++ rest, Inside h c) (hsep : Separated (left ++ rest))
    (haddress : address + 8 ≤ h.heapEnd)
    (hout : ∀ c ∈ left ++ rest, c.stop ≤ address ∨ address + 8 ≤ c.start)
    (hfirst : first < 2 ^ 32) (hsecond : second < 2 ^ 32) :
    Total (replaceLink (lastStart left) (entry rest 0) >>= fun _ => storePair address first second)
      host h fun _ t => FreeList t (left ++ rest) ∧ t.memory.read32 address = first ∧
        t.memory.read32 (address + 4) = second ∧ Touches (⟨address, 8⟩ :: left) h t := by
  have hsmall := hb.small
  have hmapped := hb.mapped
  have hseps := List.pairwise_append.1 hsep
  have hentry : entry rest 0 < 2 ^ 32 := by
    cases rest with
    | nil => exact Nat.two_pow_pos 32
    | cons c rest =>
      have hcin := hin c (List.mem_append_right _ List.mem_cons_self)
      unfold Inside Block.stop at hcin
      change c.start < 2 ^ 32
      omega
  obtain ⟨u, hrun, hhead', hlinked, htouch⟩ := @replaceLink_spec host h hb left next (entry rest 0)
    hentry hhead hleft (fun c hc => hal c (List.mem_append_left _ hc))
    (fun c hc => hin c (List.mem_append_left _ hc)) hseps.1
  refine Total.after hrun (total_iff.2 ⟨(), { u with memory := withPair u.memory address first second },
    storePair_eq (by rw [htouch.pages]; omega), ⟨?_, ?_, hal, ?_, hsep⟩, read32_withPair_first hfirst,
      read32_withPair_second hsecond, ?_⟩)
  · rw [entry_append]
    exact hhead'
  · have houtside : ∀ c ∈ left ++ rest, ∀ x, c.start ≤ x → x < c.start + 8 →
        withPair u.memory address first second x = u.memory x := by
      intro c hc x hx hx'
      have hleast := (hal c hc).least
      have hor := hout c hc
      unfold granule at hleast
      unfold Block.stop at hor
      exact withPair_outside _ _ (by omega)
    refine linked_append.2 ⟨hlinked.congr fun c hc => houtside c (List.mem_append_left _ hc), ?_⟩
    refine hrest.congr fun c hc x hx hx' => ?_
    refine (houtside c (List.mem_append_right _ hc) x hx hx').trans ?_
    refine htouch.memory x (cover_eq_zero.2 fun d hd hdx => ?_)
    have hgap := hseps.2.2 d hd c hc
    unfold Block.Contains at hdx
    omega
  · exact fun c hc => htouch.inside (hin c hc)
  · refine ⟨htouch.pages, htouch.heapStart, htouch.heapEnd, fun a ha => ?_⟩
    rw [cover_cons] at ha
    have hnot : ¬ (⟨address, 8⟩ : Block).Contains a := by
      intro hc
      rw [if_pos hc] at ha
      omega
    unfold Block.Contains Block.stop at hnot
    dsimp only at hnot
    change withPair u.memory address first second a = _
    rw [withPair_outside _ _ (by omega)]
    exact htouch.memory a (by omega)

theorem holds_of_header {m : Memory} {start size payload : Nat} {layout : Layout}
    (hfirst : m.read32 (payload - header) = start)
    (hsecond : m.read32 (payload - header + 4) = size) (hal : Aligned ⟨start, size⟩)
    (hroom : start + header ≤ payload) (halign : payload % max layout.align granule = 0)
    (hfits : payload + max layout.size 1 ≤ start + size) :
    blockOf m payload = ⟨start, size⟩ ∧ Holds m ⟨payload, layout⟩ := by
  have hblock : blockOf m payload = ⟨start, size⟩ := by
    unfold blockOf
    rw [hfirst, hsecond]
  exact ⟨hblock, hblock ▸ hal, hblock ▸ hroom, hblock ▸ hfits, halign⟩

/-- **Allocation in a free block.** The list covers what the block does not take. -/
theorem take_spec (hb : Bounds h) {left right : List Block} {b : Block}
    (hl : FreeList h (left ++ b :: right)) {layout : Layout} {payload usedEnd : Nat}
    (hroom : b.start + header ≤ payload) (halign : payload % max layout.align granule = 0)
    (hfits : payload + max layout.size 1 ≤ usedEnd) (hmod : usedEnd % granule = 0)
    (hend : usedEnd ≤ b.stop) :
    Total (take (lastStart left) b.start payload usedEnd b.stop (entry right 0)) host h fun _ t =>
      ∃ frees', FreeList t frees' ∧ Holds t.memory ⟨payload, layout⟩ ∧
        (∀ a, cover (blockOf t.memory payload :: frees') a = cover (left ++ b :: right) a) ∧
          Touches (left ++ b :: right) h t := by
  have hsmall := hb.small
  have hmapped := hb.mapped
  have hmem : b ∈ left ++ b :: right := List.mem_append_right _ List.mem_cons_self
  have hbal := hl.aligned b hmem
  have hbin := hl.inside b hmem
  have hgranule : granule = 16 := rfl
  have hheader : header = 8 := rfl
  have hstart := hbal.start
  have hsize := hbal.size
  have hleast := hbal.least
  have hseps := List.pairwise_append.1 hl.separated
  have hbseps := List.pairwise_cons.1 hseps.2.1
  obtain ⟨hlinkLeft, hlinkBlock⟩ := linked_append.1 hl.linked
  have hlinkRight := hlinkBlock.2.2
  have hlow : ∀ c ∈ left, c.stop < b.start := fun c hc => hseps.2.2 c hc b List.mem_cons_self
  have hhigh : ∀ c ∈ right, b.stop < c.start := hbseps.1
  have hhead : h.head = entry left b.start := by
    rw [hl.head, entry_append]
    rfl
  have hpayload : 0 < max layout.size 1 := by omega
  rw [hgranule] at hstart hsize hleast
  have hmod' : usedEnd % 16 = 0 := hmod
  have hstop : b.stop % 16 = 0 := by
    unfold Block.stop
    omega
  unfold Inside at hbin
  -- the bytes of the header and of the links are in the blocks of the list
  have hcover : ∀ a, cover (left ++ b :: right) a = 0 →
      cover [b] a = 0 ∧ cover (⟨payload - header, 8⟩ :: left) a = 0 := by
    intro a ha
    rw [cover_append, cover_cons] at ha
    have hnot : ¬ b.Contains a := by
      intro hc
      rw [if_pos hc] at ha
      omega
    refine ⟨by rw [cover_cons, if_neg hnot, cover_nil], ?_⟩
    rw [cover_cons, if_neg]
    · omega
    · unfold Block.Contains Block.stop at *
      dsimp only
      omega
  unfold take
  by_cases hrest : granule ≤ b.stop - usedEnd
  · rw [if_pos hrest]
    obtain ⟨rest, hresteq⟩ : ∃ rest : Block, rest = ⟨usedEnd, b.stop - usedEnd⟩ := ⟨_, rfl⟩
    have hreststart : rest.start = usedEnd := by rw [hresteq]
    have hrestsize : rest.size = b.stop - usedEnd := by rw [hresteq]
    have hreststop : rest.stop = b.stop := by
      unfold Block.stop at *
      omega
    obtain ⟨u, hu⟩ : ∃ u : Heap, u = { h with
      memory := withPair h.memory usedEnd (b.stop - usedEnd) (entry right 0) } := ⟨_, rfl⟩
    have hstore : storePair usedEnd (b.stop - usedEnd) (entry right 0) host h = (.done (), u) := by
      rw [hu]
      exact storePair_eq (by omega)
    have htouch : Touches [b] h u := by
      rw [hu]
      exact touches_withPair (by omega) (by omega)
    have hnext : entry right 0 < 2 ^ 32 := by
      cases right with
      | nil => exact Nat.two_pow_pos 32
      | cons c right =>
        have hcin := hl.inside c (by simp)
        unfold Inside Block.stop at hcin
        change c.start < 2 ^ 32
        omega
    have hkept : ∀ c ∈ left ++ right, ∀ x, c.start ≤ x → x < c.start + 8 →
        u.memory x = h.memory x := by
      intro c hc x hx hx'
      refine htouch.memory x (cover_eq_zero.2 fun d hd hdx => ?_)
      rw [List.mem_singleton.1 hd] at hdx
      rcases List.mem_append.1 hc with hc | hc
      · have hgap := hlow c hc
        have hcleast := (hl.aligned c (List.mem_append_left _ hc)).least
        unfold Block.Contains Block.stop at *
        omega
      · have hgap := hhigh c hc
        unfold Block.Contains at hdx
        omega
    have hlinked : Linked u.memory (rest :: right) 0 := by
      refine ⟨?_, ?_, hlinkRight.congr fun c hc => hkept c (List.mem_append_right _ hc)⟩
      · rw [hu, hreststart, hrestsize]
        exact read32_withPair_first (by omega)
      · rw [hu, hreststart]
        exact read32_withPair_second hnext
    have hrestal : Aligned rest := by
      refine ⟨hreststart ▸ hmod, ?_, hrestsize ▸ hrest⟩
      rw [hrestsize, hgranule]
      omega
    have hcases : ∀ c ∈ left ++ rest :: right, c ∈ left ++ b :: right ∨ c = rest := by
      intro c hc
      simp only [List.mem_append, List.mem_cons] at *
      tauto
    have hsep : Separated (left ++ rest :: right) := by
      refine separated_between hseps.1 hbseps.2 (fun c hc => ?_) fun c hc => ?_
      · have hgap := hlow c hc
        omega
      · rw [hreststop]
        exact hhigh c hc
    refine Total.after hstore ?_
    change Total (replaceLink (lastStart left) usedEnd >>= fun _ =>
      storePair (payload - header) b.start (usedEnd - b.start)) host u _
    rw [show usedEnd = entry (rest :: right) 0 from hreststart.symm]
    refine Total.mono (@relink_spec host u (htouch.bounds hb) left (rest :: right) b.start
      (payload - header) b.start (entry (rest :: right) 0 - b.start) (by rw [hu]; exact hhead)
      (hlinkLeft.congr fun c hc => hkept c (List.mem_append_left _ hc)) hlinked ?_ ?_ hsep ?_ ?_
      (by omega) ?_) ?_
    · intro c hc
      rcases hcases c hc with hc | rfl
      · exact hl.aligned c hc
      · exact hrestal
    · intro c hc
      rcases hcases c hc with hc | rfl
      · exact htouch.inside (hl.inside c hc)
      · refine htouch.inside ⟨?_, ?_⟩ <;> omega
    · rw [htouch.heapEnd]
      omega
    · intro c hc
      rcases List.mem_append.1 hc with hc | hc
      · have hgap := hlow c hc
        omega
      · rcases List.mem_cons.1 hc with rfl | hc
        · omega
        · have hgap := hhigh c hc
          omega
    · change rest.start - b.start < 2 ^ 32
      omega
    · rintro _ t ⟨hfree, hfirst, hsecond, htouch'⟩
      change t.memory.read32 _ = rest.start - b.start at hsecond
      have hused : Aligned ⟨b.start, rest.start - b.start⟩ := by
        refine ⟨hstart, ?_, ?_⟩ <;> dsimp only <;> rw [hgranule] <;> omega
      obtain ⟨hblock, hholds⟩ := @holds_of_header t.memory b.start (rest.start - b.start) payload
        layout hfirst hsecond hused hroom halign (by omega)
      refine ⟨_, hfree, hholds, fun a => ?_, ?_⟩
      · have hsplit := cover_join b.start (rest.start - b.start) rest.size right a
        have hwhole : (⟨b.start, rest.start - b.start + rest.size⟩ : Block) = b := by
          obtain ⟨start, size⟩ := b
          unfold Block.stop at *
          dsimp only at *
          rw [show rest.start - start + rest.size = size by omega]
        have hrestblock : (⟨b.start + (rest.start - b.start), rest.size⟩ : Block) = rest := by
          rw [show b.start + (rest.start - b.start) = rest.start by omega]
        rw [hwhole, hrestblock] at hsplit
        rw [hblock, cover_append, hsplit]
        simp only [cover_cons, cover_append]
        omega
      · exact (htouch.mono fun a ha => (hcover a ha).1).trans
          (htouch'.mono fun a ha => (hcover a ha).2)
  · rw [if_neg hrest]
    have hwhole : usedEnd = b.stop := by
      rw [hgranule] at hrest
      omega
    have hcases : ∀ c ∈ left ++ right, c ∈ left ++ b :: right := by
      intro c hc
      simp only [List.mem_append, List.mem_cons] at *
      tauto
    have hsep : Separated (left ++ right) := by
      refine List.pairwise_append.2 ⟨hseps.1, hbseps.2, fun c hc d hd => ?_⟩
      exact hseps.2.2 c hc d (List.mem_cons_of_mem _ hd)
    have hbstop : b.stop - b.start = b.size := by
      unfold Block.stop
      omega
    rw [hbstop]
    refine Total.mono (@relink_spec host h hb left right b.start (payload - header) b.start b.size
      hhead hlinkLeft hlinkRight (fun c hc => hl.aligned c (hcases c hc))
      (fun c hc => hl.inside c (hcases c hc)) hsep (by omega) ?_ (by omega)
      (by unfold Block.stop at *; omega)) ?_
    · intro c hc
      rcases List.mem_append.1 hc with hc | hc
      · have hgap := hlow c hc
        omega
      · have hgap := hhigh c hc
        omega
    · rintro _ t ⟨hfree, hfirst, hsecond, htouch⟩
      obtain ⟨hblock, hholds⟩ := @holds_of_header t.memory b.start b.size payload layout hfirst
        hsecond hbal hroom halign (by unfold Block.stop at *; omega)
      refine ⟨_, hfree, hholds, fun a => ?_, htouch.mono fun a ha => (hcover a ha).2⟩
      rw [hblock]
      change cover (b :: (left ++ right)) a = _
      simp only [cover_cons, cover_append]
      omega

/-- The inner loop of `allocate` takes a block from the list, or leaves it as it is. -/
theorem firstFit_spec (hb : Bounds h) {frees : List Block} (hl : FreeList h frees) (layout : Layout)
    (right : List Block) : ∀ (left : List Block) (fuel : Nat), frees = left ++ right →
      right.length < fuel → Total (firstFit layout (max layout.align granule) fuel (lastStart left)
        (entry right 0)) host h fun found t =>
          found = none ∧ t = h ∨ ∃ payload frees', found = some payload ∧ FreeList t frees' ∧
            Holds t.memory ⟨payload, layout⟩ ∧
              (∀ a, cover (blockOf t.memory payload :: frees') a = cover frees a) ∧
                Touches frees h t := by
  induction right with
  | nil =>
    intro left fuel heq hfuel
    obtain ⟨k, rfl⟩ : ∃ k, fuel = k + 1 := ⟨fuel - 1, by omega⟩
    rw [firstFit, if_neg (fun hne => hne rfl)]
    exact .inl ⟨rfl, rfl⟩
  | cons b right ih =>
    intro left fuel heq hfuel
    obtain ⟨k, rfl⟩ : ∃ k, fuel = k + 1 := ⟨fuel - 1, by omega⟩
    have hmem : b ∈ frees := heq ▸ List.mem_append_right _ List.mem_cons_self
    have hin := hl.inside b hmem
    have hpos := hb.start
    have hsmall := hb.small
    have hheader : header = 8 := rfl
    unfold Inside at hin
    have hnext := ih (left ++ [b]) k (by rw [heq, List.append_assoc]; rfl)
      (by rw [List.length_cons] at hfuel; omega)
    rw [lastStart_concat] at hnext
    change Total (firstFit layout (max layout.align granule) (k + 1) (lastStart left) b.start) host h _
    rw [firstFit, if_pos (show b.start ≠ 0 by omega)]
    refine Total.after (readFree_eq hb (heq ▸ hl : FreeList h (left ++ b :: right))) ?_
    refine Total.after (checkedEnd_eq (by unfold Block.stop usizeLimit at *; omega)) ?_
    refine Total.after (checkedEnd_eq (by unfold Block.stop usizeLimit at *; omega)) ?_
    cases hfit : fit layout (max layout.align granule) (b.start + header) with
    | none => exact hnext
    | some found =>
      obtain ⟨payload, usedEnd⟩ := found
      obtain ⟨hroom, halign, hfits, hmod⟩ := fit_spec layout.powerOfTwo hfit
      change Total (if usedEnd ≤ b.stop then _ else _) host h _
      by_cases hend : usedEnd ≤ b.stop
      · rw [if_pos hend]
        refine Total.bind (take_spec hb (heq ▸ hl) hroom halign hfits hmod hend) ?_
        rintro _ t ⟨frees', hfree, hholds, hcover, htouch⟩
        exact .inr ⟨payload, frees', rfl, hfree, hholds, heq ▸ hcover, heq ▸ htouch⟩
      · rw [if_neg hend]
        exact hnext

/-! ## Growth -/

/-- The pages that the heap has grown by. -/
def grown (h t : Heap) : Block := ⟨h.heapEnd, t.heapEnd - h.heapEnd⟩

/-- The heap has grown, and the blocks that were taken and the free ones cover what the free ones covered,
and the new pages. No byte outside them has changed. -/
structure Yields (h : Heap) (frees : List Block) (t : Heap) (taken frees' : List Block) : Prop where
  bounds : Bounds t
  list : FreeList t frees'
  heapStart : t.heapStart = h.heapStart
  heapEnd : h.heapEnd ≤ t.heapEnd
  covers : ∀ a, cover (taken ++ frees') a = cover (grown h t :: frees) a
  memory : ∀ a, cover (grown h t :: frees) a = 0 → t.memory a = h.memory a

theorem cover_grown_self (h : Heap) (blocks : List Block) (a : Nat) :
    cover (grown h h :: blocks) a = cover blocks a := by
  rw [cover_cons, if_neg]
  · rfl
  · unfold grown Block.Contains Block.stop
    dsimp only
    omega

theorem Yields.refl (hb : Bounds h) {frees : List Block} (hl : FreeList h frees) :
    Yields h frees h [] frees :=
  ⟨hb, hl, rfl, Nat.le_refl _, fun a => (cover_grown_self h frees a).symm, fun _ _ => rfl⟩

theorem yields_of_touches (hb : Bounds h) {frees taken frees' : List Block} (hl : FreeList t frees')
    (hcover : ∀ a, cover (taken ++ frees') a = cover frees a) (htouch : Touches frees h t) :
    Yields h frees t taken frees' := by
  have hgrown : ∀ a, cover (grown h t :: frees) a = cover frees a := by
    intro a
    rw [← cover_grown_self h frees a]
    unfold grown
    rw [htouch.heapEnd]
  exact ⟨htouch.bounds hb, hl, htouch.heapStart, Nat.le_of_eq htouch.heapEnd.symm,
    fun a => (hcover a).trans (hgrown a).symm, fun a ha => htouch.memory a (hgrown a ▸ ha)⟩

theorem Yields.trans {u : Heap} {frees frees' taken frees'' : List Block}
    (h₁ : Yields h frees t [] frees') (h₂ : Yields t frees' u taken frees'') :
    Yields h frees u taken frees'' := by
  have hend₁ := h₁.heapEnd
  have hend₂ := h₂.heapEnd
  have hgrown : ∀ a, cover (grown h u :: frees) a = cover (grown t u :: grown h t :: frees) a := by
    intro a
    have hjoin := cover_join h.heapEnd (t.heapEnd - h.heapEnd) (u.heapEnd - t.heapEnd) frees a
    rw [show t.heapEnd - h.heapEnd + (u.heapEnd - t.heapEnd) = u.heapEnd - h.heapEnd by omega,
      show h.heapEnd + (t.heapEnd - h.heapEnd) = t.heapEnd by omega] at hjoin
    unfold grown
    rw [hjoin]
    simp only [cover_cons]
    omega
  have hmiddle : ∀ a, cover (grown t u :: frees') a = cover (grown h u :: frees) a := by
    intro a
    rw [hgrown a, cover_cons, cover_cons, ← h₁.covers a]
    rfl
  refine ⟨h₂.bounds, h₂.list, h₂.heapStart.trans h₁.heapStart, Nat.le_trans hend₁ hend₂,
    fun a => (h₂.covers a).trans (hmiddle a), fun a ha => ?_⟩
  have hzero := ha
  rw [hgrown a, cover_cons] at hzero
  rw [h₂.memory a ((hmiddle a).trans ha), h₁.memory a (by omega)]

theorem page_mod_granule {n : Nat} (hn : n % page = 0) : n % granule = 0 := by
  unfold page at hn
  unfold granule
  omega

/-- The end of `extend`. -/
theorem extendTo_spec (hb : Bounds h) {frees : List Block} (hl : FreeList h frees) {u : Heap}
    {nextEnd : Nat} (hsame : u.memory = h.memory ∧ u.heapStart = h.heapStart ∧
      u.heapEnd = h.heapEnd ∧ u.head = h.head) (hlt : h.heapEnd < nextEnd)
    (hmost : nextEnd ≤ maxMemoryBytes) (hpage : nextEnd % page = 0)
    (hmapped : nextEnd ≤ u.pages * page) :
    Total (extendTo h.heapEnd nextEnd) host u fun more t => more = true ∧ t.heapEnd = nextEnd ∧
      ∃ frees', Yields h frees t [] frees' := by
  obtain ⟨hmemory, hstart, hend, hhead⟩ := hsame
  obtain ⟨v, hv⟩ : ∃ v : Heap, v = { u with heapEnd := nextEnd } := ⟨_, rfl⟩
  have hvend : v.heapEnd = nextEnd := by rw [hv]
  have hvstart : v.heapStart = h.heapStart := by rw [hv]; exact hstart
  have hvb : Bounds v := by
    have horder := hb.order
    refine ⟨hvstart ▸ hb.start, hvstart ▸ hb.alignedStart, ?_, hvend ▸ hmost, hvend ▸ hpage, ?_⟩
    · omega
    · rw [hvend, hv]
      exact hmapped
  have hvl : FreeList v frees := by
    refine ⟨?_, ?_, hl.aligned, fun b hbl => ?_, hl.separated⟩
    · rw [hv]
      exact hhead.trans hl.head
    · rw [hv]
      exact hmemory ▸ hl.linked
    · have hin := hl.inside b hbl
      unfold Inside at *
      omega
  have hnewal : Aligned ⟨h.heapEnd, nextEnd - h.heapEnd⟩ := by
    have hold := hb.alignedEnd
    unfold page at hold hpage
    refine ⟨?_, ?_, ?_⟩ <;> unfold granule <;> dsimp only <;> omega
  have hnewin : Inside v ⟨h.heapEnd, nextEnd - h.heapEnd⟩ := by
    have horder := hb.order
    unfold Inside Block.stop
    dsimp only
    omega
  have hapart : ∀ c ∈ frees, (⟨h.heapEnd, nextEnd - h.heapEnd⟩ : Block).Apart c :=
    fun c hc => .inr (hl.inside c hc).2
  unfold extendTo
  refine Total.after (a := ()) (t := v) (by rw [hv]; rfl) ?_
  refine Total.bind (release_spec hvb hvl hnewal hnewin hapart) ?_
  rintro _ t ⟨frees', hfree, hcover, htouch⟩
  have htend : t.heapEnd = nextEnd := htouch.heapEnd.trans hvend
  have hgrown : (⟨h.heapEnd, nextEnd - h.heapEnd⟩ : Block) = grown h t := by
    unfold grown
    rw [htend]
  rw [hgrown] at hcover htouch
  refine ⟨rfl, htend, frees', htouch.bounds hvb, hfree, htouch.heapStart.trans hvstart, by omega,
    hcover, fun a ha => ?_⟩
  rw [htouch.memory a ha, hv]
  exact congrFun hmemory a

/-- **Growth.** `extend` adds a page or more, or changes nothing. -/
theorem extend_spec (hb : Bounds h) {frees : List Block} (hl : FreeList h frees) (minimum : Nat) :
    Total (extend minimum) host h fun more t => more = false ∧ t = h ∨
      more = true ∧ h.heapEnd + page ≤ t.heapEnd ∧ ∃ frees', Yields h frees t [] frees' := by
  have hmost := hb.most
  have halignedEnd := hb.alignedEnd
  have hmapped := hb.mapped
  have hpage : page = 65536 := rfl
  have hmax : maxMemoryBytes = 16777216 := rfl
  have hlimit : usizeLimit = 4294967296 := rfl
  rw [hpage] at halignedEnd hmapped
  unfold extend
  refine Total.after (a := h.heapEnd) (t := h) rfl ?_
  by_cases hfull : h.heapEnd = maxMemoryBytes
  · rw [if_pos hfull]
    exact .inl ⟨rfl, rfl⟩
  rw [if_neg hfull]
  refine Total.after (a := min (h.pages * page % usizeLimit) maxMemoryBytes) (t := h) rfl ?_
  by_cases hmore : h.heapEnd < min (h.pages * page % usizeLimit) maxMemoryBytes
  · rw [if_pos hmore]
    rw [hpage, hmax, hlimit] at hmore ⊢
    refine (extendTo_spec hb hl ⟨rfl, rfl, rfl, rfl⟩ hmore (by omega) (by rw [hpage]; omega)
      (by rw [hpage]; omega)).mono ?_
    rintro _ t ⟨rfl, hend, hyields⟩
    exact .inr ⟨rfl, by omega, hyields⟩
  · rw [if_neg hmore]
    cases hgrowth : alignUp (max minimum page) page with
    | none => exact .inl ⟨rfl, rfl⟩
    | some growth =>
      obtain ⟨hle, -, hmod⟩ := alignUp_eq_some powerOfTwo_page hgrowth
      rw [hpage] at hmod hle
      obtain ⟨size, hsize⟩ : ∃ size, size = min growth (maxMemoryBytes - h.heapEnd) := ⟨_, rfl⟩
      dsimp only
      rw [← hsize]
      rw [hmax] at hsize hmost hfull
      rw [if_neg (show size ≠ 0 by omega)]
      by_cases hgrant : h.pages + size / page ≤ maxPages ∧ host.grants h.pages (size / page) = true
      · have hrun : memoryGrow (size / page) host h =
            (.done true, { h with pages := h.pages + size / page }) := by
          change (if h.pages + size / page ≤ maxPages ∧ host.grants h.pages (size / page) = true
            then _ else _ : Run Bool) host h = _
          rw [if_pos hgrant]
          rfl
        refine Total.after hrun ?_
        rw [if_pos rfl]
        have hroom : h.heapEnd + size ≤ (h.pages + size / page) * page := by
          rw [hpage]
          omega
        refine (@extendTo_spec host h hb frees hl { h with pages := h.pages + size / page }
          (h.heapEnd + size) ⟨rfl, rfl, rfl, rfl⟩ (by omega) (by omega) (by rw [hpage]; omega)
          hroom).mono ?_
        · rintro _ t ⟨rfl, hend, hyields⟩
          exact .inr ⟨rfl, by omega, hyields⟩
      · have hrun : memoryGrow (size / page) host h = (.done false, h) := by
          change (if h.pages + size / page ≤ maxPages ∧ host.grants h.pages (size / page) = true
            then _ else _ : Run Bool) host h = _
          rw [if_neg hgrant]
          rfl
        refine Total.after hrun ?_
        rw [if_neg Bool.noConfusion]
        exact .inl ⟨rfl, rfl⟩

/-! ## The loop -/

/-- **Main result.** `allocate`, in a heap that is in use: it takes a block for the payload, or none. -/
theorem allocateLoop_spec (layout : Layout) (minimum fuel : Nat) : ∀ {h : Heap} {frees : List Block},
    Bounds h → FreeList h frees → maxMemoryBytes < h.heapEnd + page * fuel →
      Total (allocateLoop layout (max layout.align granule) minimum fuel) host h fun pointer t =>
        ∃ frees', pointer = 0 ∧ Yields h frees t [] frees' ∨ pointer ≠ 0 ∧
          Holds t.memory ⟨pointer, layout⟩ ∧ Yields h frees t [blockOf t.memory pointer] frees' := by
  induction fuel with
  | zero =>
    intro h frees hb _ hfuel
    have hmost := hb.most
    omega
  | succ fuel ih =>
    intro h frees hb hl hfuel
    have hfirst := @firstFit_spec host h hb frees hl layout frees [] walkFuel rfl
      (length_lt_walkFuel hb hl)
    rw [lastStart_nil, ← hl.head] at hfirst
    unfold allocateLoop
    refine Total.after (a := h.head) (t := h) rfl (Total.bind hfirst ?_)
    rintro found t (⟨rfl, rfl⟩ | ⟨payload, frees', rfl, hfree, hholds, hcover, htouch⟩)
    · refine Total.bind (extend_spec hb hl minimum) ?_
      rintro more u (⟨rfl, rfl⟩ | ⟨rfl, hmore, frees', hyields⟩)
      · rw [if_neg Bool.noConfusion]
        exact ⟨frees, .inl ⟨rfl, Yields.refl hb hl⟩⟩
      · rw [if_pos rfl]
        refine (ih hyields.bounds hyields.list (by rw [Nat.mul_succ] at hfuel; omega)).mono ?_
        rintro pointer v ⟨frees'', ⟨hnull, hnext⟩ | ⟨hne, hholds, hnext⟩⟩
        · exact ⟨frees'', .inl ⟨hnull, hyields.trans hnext⟩⟩
        · exact ⟨frees'', .inr ⟨hne, hholds, hyields.trans hnext⟩⟩
    · have hne : payload ≠ 0 := by
        have hroom := hholds.room
        have hheader : header = 8 := rfl
        dsimp only at hroom
        omega
      exact ⟨frees', .inr ⟨hne, hholds, yields_of_touches hb hfree hcover htouch⟩⟩

end Vibapp.Guest
