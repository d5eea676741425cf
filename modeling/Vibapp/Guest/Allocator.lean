import Vibapp.Lib.Blocks
import Vibapp.Lib.Fault
import Vibapp.Lib.Memory
import Vibapp.Lib.Transition

/-!
# The allocator of a guest

`vibapp_support.rs` on wasm32: an address-ordered list of free blocks that lives in the free blocks
themselves, a header in front of each payload, and a heap that grows by pages. `LOCK` is held from the
start of a call to its end, so calls follow one another.
-/

namespace Vibapp.Guest

open Prog

/-! ## Machine -/

/-- The number of values of `usize`. -/
def usizeLimit : Nat := 2 ^ 32

def maxMemoryBytes : Nat := 16 * 1024 * 1024
def page : Nat := 65536
def granule : Nat := 16

/-- `HEADER`, the size of two words. -/
def header : Nat := 8

/-- Linear memory and the three statics. -/
structure Heap where
  memory : Memory
  pages : Nat
  heapStart : Nat
  heapEnd : Nat
  head : Nat

/-- `__heap_base`, and whether `memory.grow` grants so many pages more. -/
structure Host where
  heapBase : Nat
  grants : Nat → Nat → Bool

/-- A run that may trap. One that is cut has run out of the steps given to a loop. -/
abbrev Run (α : Type) := Prog Host Heap Unit α

def trap {α : Type} : Run α := raise ()

def trapIf (condition : Prop) [Decidable condition] : Run Unit :=
  if condition then trap else pure ()

/-! ## Memory -/

/-- A word. An access behind the end of the memory traps. -/
def loadWord (address : Nat) : Run Nat := do
  trapIf ((← read fun _ h => h.pages * page) < address + 4)
  read fun _ h => h.memory.read32 address

def storeWord (address value : Nat) : Run Unit := do
  trapIf ((← read fun _ h => h.pages * page) < address + 4)
  modify fun h => { h with memory := h.memory.write32 address value }

/-- `core::ptr::copy_nonoverlapping`. -/
def copyBytes (source target count : Nat) : Run Unit := do
  let bytes ← read fun _ h => h.pages * page
  trapIf (bytes < source + count ∨ bytes < target + count)
  modify fun h => { h with memory := h.memory.copy source target count }

/-- A pair of words: the size of a free block and the next one, or the start and the size of an
allocation. -/
def loadPair (address : Nat) : Run (Nat × Nat) := do
  let first ← loadWord address
  let second ← loadWord (address + 4)
  return (first, second)

def storePair (address first second : Nat) : Run Unit := do
  storeWord address first
  storeWord (address + 4) second

/-- `memory_size(0) * PAGE`, at most `MAX_MEMORY_BYTES`. -/
def available : Run Nat := read fun _ h => min (h.pages * page % usizeLimit) maxMemoryBytes

/-- The most pages of a wasm32 memory. -/
def maxPages : Nat := 65536

/-- `memory_grow`, and whether it succeeds. -/
def memoryGrow (count : Nat) : Run Bool := do
  let pages ← read fun _ h => h.pages
  if pages + count ≤ maxPages ∧ (← read fun host _ => host.grants pages count) = true then
    modify fun h => { h with pages := pages + count }
    return true
  else return false

/-! ## Arithmetic of `usize` -/

def checkedAdd (a b : Nat) : Option Nat := if a + b < usizeLimit then some (a + b) else none

/-- `align_up`. The mask `!(alignment - 1)` is `2 ^ 32 - alignment`. -/
def alignUp (value alignment : Nat) : Option Nat :=
  (checkedAdd value (alignment - 1)).map fun v => v &&& (usizeLimit - alignment)

/-- `checked_end`. -/
def checkedEnd (start size : Nat) : Run Nat :=
  match checkedAdd start size with
  | some stop => pure stop
  | none => trap

/-! ## Layouts -/

/-- `Layout`: the alignment is a power of two, and the size rounded up to it is an `isize`. -/
structure Layout where
  size : Nat
  align : Nat
  power : align = 2 ^ align.log2
  bound : size + align ≤ 2 ^ 31
deriving DecidableEq

/-- `Layout::from_size_align`. -/
def Layout.fromSizeAlign (size align : Nat) : Option Layout :=
  if h : align = 2 ^ align.log2 ∧ size + align ≤ 2 ^ 31 then some ⟨size, align, h.1, h.2⟩ else none

/-! ## The free list -/

/-- `read_free`: the size of a free block, and the next one. -/
def readFree (address : Nat) : Run (Nat × Nat) := do
  trapIf (address < (← read fun _ h => h.heapStart) ∨ address % granule ≠ 0)
  let nodeEnd ← checkedEnd address header
  trapIf ((← read fun _ h => h.heapEnd) < nodeEnd)
  let (size, next) ← loadPair address
  let stop ← checkedEnd address size
  trapIf (size < granule ∨ size % granule ≠ 0 ∨ (← read fun _ h => h.heapEnd) < stop ∨
    next ≠ 0 ∧ next < stop)
  return (size, next)

/-- `replace_link`. -/
def replaceLink (previous next : Nat) : Run Unit :=
  if previous = 0 then modify fun h => { h with head := next } else storeWord (previous + 4) next

/-- More than the blocks that the largest heap has room for. -/
def walkFuel : Nat := maxMemoryBytes / granule + 1

/-- The loop of `release`: the last free block before `start`, and the first one behind it. -/
def findPlace (start : Nat) : Nat → Nat → Nat → Run (Nat × Nat)
  | 0, _, _ => stop
  | fuel + 1, previous, current =>
    if current ≠ 0 ∧ current < start then do
      let (_, next) ← readFree current
      findPlace start fuel current next
    else pure (previous, current)

/-- The coalescing of `release` with the block before. -/
def mergeBefore (previous start size : Nat) : Run (Nat × Nat) :=
  if previous ≠ 0 then do
    let (previousSize, _) ← readFree previous
    let previousEnd ← checkedEnd previous previousSize
    trapIf (start < previousEnd)
    if previousEnd = start then return (previous, ← checkedEnd previousSize size)
    else return (start, size)
  else pure (start, size)

/-- The coalescing of `release` with the block behind: the size, and what comes next. -/
def mergeBehind (current mergedStart mergedSize : Nat) : Run (Nat × Nat) :=
  if current ≠ 0 then do
    if (← checkedEnd mergedStart mergedSize) = current then
      let (size, next) ← readFree current
      return (← checkedEnd mergedSize size, next)
    else return (mergedSize, current)
  else pure (mergedSize, current)

/-- `release`. -/
def release (start size : Nat) : Run Unit := do
  let stop ← checkedEnd start size
  trapIf (start < (← read fun _ h => h.heapStart) ∨ start % granule ≠ 0 ∨ size < granule ∨
    size % granule ≠ 0 ∨ (← read fun _ h => h.heapEnd) < stop)
  let (previous, current) ← findPlace start walkFuel 0 (← read fun _ h => h.head)
  trapIf (current ≠ 0 ∧ current < stop)
  let (mergedStart, mergedSize) ← mergeBefore previous start size
  let (mergedSize, next) ← mergeBehind current mergedStart mergedSize
  storePair mergedStart mergedSize next
  if mergedStart ≠ previous then replaceLink previous mergedStart

/-! ## Growth -/

/-- `initialize`. -/
def initializeHeap : Run Bool := do
  if (← read fun _ h => h.heapStart) ≠ 0 then return true
  match alignUp (← read fun host _ => host.heapBase) granule with
  | none => return false
  | some start =>
    let available ← available
    if start = 0 ∨ available < start then return false
    modify fun h => { h with heapStart := start, heapEnd := available }
    if granule ≤ available - start then release start (available - start)
    return true

/-- The end of `extend`. -/
def extendTo (previousEnd nextEnd : Nat) : Run Bool := do
  modify fun h => { h with heapEnd := nextEnd }
  release previousEnd (nextEnd - previousEnd)
  return true

/-- `extend`. -/
def extend (minimum : Nat) : Run Bool := do
  let previousEnd ← read fun _ h => h.heapEnd
  if previousEnd = maxMemoryBytes then return false
  let available ← available
  if previousEnd < available then extendTo previousEnd available
  else
    match alignUp (max minimum page) page with
    | none => return false
    | some growth =>
      let growth := min growth (maxMemoryBytes - previousEnd)
      if growth = 0 then return false
      if ← memoryGrow (growth / page) then extendTo previousEnd (previousEnd + growth)
      else return false

/-! ## Allocation -/

/-- The payload of an allocation in the free block at `current`, and the end of what it uses. -/
def fit (layout : Layout) (alignment afterHeader : Nat) : Option (Nat × Nat) := do
  let payload ← alignUp afterHeader alignment
  let usedEnd ← alignUp (← checkedAdd payload (max layout.size 1)) granule
  return (payload, usedEnd)

/-- Take a free block for an allocation, and leave the rest of it free. -/
def take (previous current payload usedEnd blockEnd next : Nat) : Run Unit := do
  if granule ≤ blockEnd - usedEnd then
    storePair usedEnd (blockEnd - usedEnd) next
    replaceLink previous usedEnd
    storePair (payload - header) current (usedEnd - current)
  else
    replaceLink previous next
    storePair (payload - header) current (blockEnd - current)

/-- The inner loop of `allocate`: the first free block that an allocation fits into. -/
def firstFit (layout : Layout) (alignment : Nat) : Nat → Nat → Nat → Run (Option Nat)
  | 0, _, _ => stop
  | fuel + 1, previous, current =>
    if current ≠ 0 then do
      let (size, next) ← readFree current
      let blockEnd ← checkedEnd current size
      match fit layout alignment (← checkedEnd current header) with
      | some (payload, usedEnd) =>
        if usedEnd ≤ blockEnd then
          take previous current payload usedEnd blockEnd next
          return some payload
        else firstFit layout alignment fuel current next
      | none => firstFit layout alignment fuel current next
    else pure none

/-- More than the pages that the heap can grow by. -/
def growFuel : Nat := maxMemoryBytes / page + 2

/-- The outer loop of `allocate`. The null pointer is 0. -/
def allocateLoop (layout : Layout) (alignment minimum : Nat) : Nat → Run Nat
  | 0 => stop
  | fuel + 1 => do
    match ← firstFit layout alignment walkFuel 0 (← read fun _ h => h.head) with
    | some payload => return payload
    | none =>
      if ← extend minimum then allocateLoop layout alignment minimum fuel
      else return 0

/-- `allocate`. -/
def allocate (layout : Layout) : Run Nat := do
  let alignment := max layout.align granule
  match (checkedAdd (max layout.size 1) header).bind fun n => checkedAdd n (alignment - 1) with
  | none => return 0
  | some minimum =>
    if maxMemoryBytes < layout.size then return 0
    if ← initializeHeap then allocateLoop layout alignment minimum growFuel
    else return 0

/-- `allocation`: the block of a pointer, from its header. -/
def allocation (pointer : Nat) (layout : Layout) : Run (Nat × Nat) := do
  let first ← checkedEnd (← read fun _ h => h.heapStart) header
  trapIf (pointer < first ∨ pointer % max layout.align granule ≠ 0 ∨
    (← read fun _ h => h.heapEnd) < pointer)
  let (start, size) ← loadPair (pointer - header)
  trapIf (start < (← read fun _ h => h.heapStart) ∨ start % granule ≠ 0)
  trapIf (pointer < (← checkedEnd start header))
  trapIf (size < granule ∨ size % granule ≠ 0)
  trapIf ((← checkedEnd start size) < (← checkedEnd pointer (max layout.size 1)))
  trapIf ((← read fun _ h => h.heapEnd) < (← checkedEnd start size))
  return (start, size)

/-! ## Calls -/

/-- `alloc`. -/
def alloc (layout : Layout) : Run Nat := allocate layout

/-- `dealloc`. -/
def dealloc (pointer : Nat) (layout : Layout) : Run Unit := do
  let (start, size) ← allocation pointer layout
  release start size

/-- The part of `realloc` that stays in the block. -/
def shrink (pointer start oldEnd newEnd : Nat) : Run Nat := do
  if granule ≤ oldEnd - newEnd then
    storePair (pointer - header) start (newEnd - start)
    release newEnd (oldEnd - newEnd)
  return pointer

/-- The part of `realloc` that takes another block. -/
def move (pointer start size count : Nat) (nextLayout : Layout) : Run Nat := do
  let next ← allocate nextLayout
  if next ≠ 0 then
    copyBytes pointer next count
    release start size
  return next

/-- `realloc`. -/
def realloc (pointer : Nat) (layout : Layout) (newSize : Nat) : Run Nat := do
  match Layout.fromSizeAlign (max newSize 1) layout.align with
  | none => return 0
  | some nextLayout =>
    let (start, size) ← allocation pointer layout
    match (checkedAdd pointer (max newSize 1)).bind fun n => alignUp n granule with
    | none => return 0
    | some newEnd =>
      let oldEnd ← checkedEnd start size
      if newEnd ≤ oldEnd then shrink pointer start oldEnd newEnd
      else move pointer start size (min layout.size newSize) nextLayout

/-- The pointer of `cabi_realloc`, where it asks for memory. -/
def cabiRequest (old oldSize alignment newSize : Nat) (layout : Layout) : Run Nat :=
  if oldSize = 0 then
    match Layout.fromSizeAlign newSize alignment with
    | none => trap
    | some nextLayout => alloc nextLayout
  else realloc old layout newSize

/-- `cabi_realloc`. -/
def cabiRealloc (old oldSize alignment newSize : Nat) : Run Nat := do
  match Layout.fromSizeAlign (max oldSize 1) alignment with
  | none => trap
  | some layout =>
    if newSize = 0 then
      if oldSize ≠ 0 then dealloc old layout
      return alignment
    else
      let pointer ← cabiRequest old oldSize alignment newSize layout
      trapIf (pointer = 0)
      return pointer

end Vibapp.Guest
