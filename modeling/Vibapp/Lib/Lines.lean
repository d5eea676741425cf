import Mathlib.Data.List.Basic
import Mathlib.Order.Basic

/-!
# Lines read in chunks

A reader takes items one by one, hands on what stands between separators, and stops at a line that
is too long or that comes to nothing. `step` is the reader on one item, `read` says what it makes of
a whole text: the parts between separators. **Main results.** A reader that meets a text makes of it
what `read` says (`run_eq_read`), and whatever follows the reader on every chunk follows it on the
text (`follows_chunks`), however that is cut.
-/

namespace Vibapp.Lines

universe u v

variable {β : Type u}

/-- What makes a line: the separator, the longest line, and what is taken off a line. -/
structure Format (β : Type u) where
  separator : β
  bound : Nat
  trim : List β → List β

/-- Why no more lines are read. -/
inductive Fault
  | long
  | empty
  deriving DecidableEq, Repr

/-- What has been read: the lines, the beginning of the next one, and the fault. -/
structure State (β : Type u) where
  lines : List (List β)
  pending : List β
  fault : Option Fault
  deriving DecidableEq

/-- A line that is handed on. -/
def Format.accepts (f : Format β) (line : List β) : Bool :=
  line.length ≤ f.bound && decide (f.trim line ≠ [])

/-- What becomes of the parts between separators, the last of which is not at its end yet. -/
def readParts (f : Format β) (parts : List (List β)) : State β where
  lines := (parts.dropLast.takeWhile f.accepts).map f.trim
  pending := if parts.dropLast.all f.accepts then parts.getLastD [] else []
  fault := match parts.dropLast.dropWhile f.accepts with
    | line :: _ => some (if f.bound < line.length then .long else .empty)
    | [] => if f.bound < (parts.getLastD []).length then some .long else none

/-- The same lines and the same fault, and without one the same beginning of the next line. -/
structure Alike (s t : State β) : Prop where
  lines : s.lines = t.lines
  fault : s.fault = t.fault
  pending : t.fault = none → s.pending = t.pending

variable {f : Format β} {s t : State β}

/-- A list of parts is one part, or a line before other parts. -/
theorem intercalate_cons (x : β) (part next : List β) (parts : List (List β)) :
    [x].intercalate (part :: next :: parts) = part ++ x :: [x].intercalate (next :: parts) := by
  simp [List.intercalate, List.intersperse]

theorem readParts_cons (line next : List β) (parts : List (List β)) :
    readParts f (line :: next :: parts) =
      if f.accepts line then
        { readParts f (next :: parts) with
          lines := f.trim line :: (readParts f (next :: parts)).lines }
      else ⟨[], [], some (if f.bound < line.length then .long else .empty)⟩ := by
  have hlast : (line :: next :: parts).getLastD [] = (next :: parts).getLastD [] := rfl
  have hinit : (line :: next :: parts).dropLast = line :: (next :: parts).dropLast := rfl
  unfold readParts
  rw [hlast, hinit]
  cases h : f.accepts line <;> simp [h]

section Reader

variable [DecidableEq β]

/-- One item. -/
def step (f : Format β) (s : State β) (item : β) : State β :=
  if s.fault.isSome then s
  else if item = f.separator then
    if f.trim s.pending = [] then { s with pending := [], fault := some .empty }
    else { s with lines := s.lines ++ [f.trim s.pending], pending := [] }
  else
    { s with
      pending := s.pending ++ [item]
      fault := if f.bound < (s.pending ++ [item]).length then some .long else none }

/-- What becomes of a text. -/
def read (f : Format β) (text : List β) : State β := readParts f (text.splitOn f.separator)

/-! ## Parts -/

theorem step_of_fault (h : s.fault.isSome) (item : β) : step f s item = s := if_pos h

/-- A fault stays. -/
theorem foldl_of_fault (h : s.fault.isSome) (text : List β) : text.foldl (step f) s = s := by
  induction text with
  | nil => rfl
  | cons item text ih => rw [List.foldl_cons, step_of_fault h, ih]

/-- A part without a separator that still fits. -/
theorem foldl_part (h : s.fault = none) {part : List β} (hpart : f.separator ∉ part)
    (hfits : (s.pending ++ part).length ≤ f.bound) :
    part.foldl (step f) s = { s with pending := s.pending ++ part } := by
  induction part generalizing s with
  | nil =>
    rw [List.foldl_nil, List.append_nil]
  | cons item part ih =>
    rw [List.mem_cons, not_or] at hpart
    rw [List.append_cons] at hfits
    have hone : ¬ f.bound < (s.pending ++ [item]).length := by
      rw [List.length_append] at hfits
      omega
    have hstep : step f s item = { s with pending := s.pending ++ [item] } := by
      rw [step, if_neg (by simp [h]), if_neg (Ne.symm hpart.1), if_neg hone, h]
    rw [List.foldl_cons, hstep, ih (s := { s with pending := s.pending ++ [item] }) h hpart.2 hfits,
      ← List.append_cons]

/-- A part without a separator that does not fit. -/
theorem foldl_long (h : s.fault = none) (hpending : s.pending.length ≤ f.bound) {part : List β}
    (hpart : f.separator ∉ part) (hlong : f.bound < (s.pending ++ part).length) :
    ∃ pending, part.foldl (step f) s = { s with pending := pending, fault := some .long } := by
  induction part generalizing s with
  | nil =>
    rw [List.append_nil] at hlong
    omega
  | cons item part ih =>
    rw [List.mem_cons, not_or] at hpart
    rw [List.append_cons] at hlong
    by_cases hone : f.bound < (s.pending ++ [item]).length
    · have hstep : step f s item =
          { s with pending := s.pending ++ [item], fault := some .long } := by
        rw [step, if_neg (by simp [h]), if_neg (Ne.symm hpart.1), if_pos hone]
      refine ⟨s.pending ++ [item], ?_⟩
      rw [List.foldl_cons, hstep]
      exact foldl_of_fault rfl part
    · have hstep : step f s item = { s with pending := s.pending ++ [item] } := by
        rw [step, if_neg (by simp [h]), if_neg (Ne.symm hpart.1), if_neg hone, h]
      rw [List.foldl_cons, hstep]
      exact ih (s := { s with pending := s.pending ++ [item] }) h (Nat.not_lt.1 hone) hpart.2 hlong

/-- A line, with its separator. -/
theorem step_separator (h : s.fault = none) : step f s f.separator =
    if f.trim s.pending = [] then { s with pending := [], fault := some .empty }
    else { s with lines := s.lines ++ [f.trim s.pending], pending := [] } := by
  rw [step, if_neg (by simp [h]), if_pos rfl]

/-! ## Texts -/

/-- What the reader makes of parts, from any lines on. -/
theorem foldl_parts (parts : List (List β)) (hne : parts ≠ [])
    (hparts : ∀ part ∈ parts, f.separator ∉ part) (lines : List (List β)) :
    Alike (([f.separator].intercalate parts).foldl (step f) ⟨lines, [], none⟩)
      { readParts f parts with lines := lines ++ (readParts f parts).lines } := by
  induction parts generalizing lines with
  | nil => exact absurd rfl hne
  | cons line parts ih =>
    rw [List.forall_mem_cons] at hparts
    cases parts with
    | nil =>
      have hone : [f.separator].intercalate [line] = line := by simp [List.intercalate]
      rw [hone]
      by_cases hfits : line.length ≤ f.bound
      · rw [foldl_part rfl hparts.1 (by simpa using hfits)]
        refine ⟨by simp [readParts], ?_, fun _ => by simp [readParts]⟩
        simp [readParts, Nat.not_lt.2 hfits]
      · obtain ⟨pending, hfold⟩ := foldl_long (s := ⟨lines, [], none⟩) rfl (Nat.zero_le _) hparts.1
          (by simpa using Nat.not_le.1 hfits)
        rw [hfold]
        refine ⟨by simp [readParts], ?_, ?_⟩
        · simp [readParts, Nat.not_le.1 hfits]
        · simp [readParts, Nat.not_le.1 hfits]
    | cons next parts =>
      rw [intercalate_cons, List.foldl_append, List.foldl_cons, readParts_cons]
      by_cases hfits : line.length ≤ f.bound
      · rw [foldl_part rfl hparts.1 (by simpa using hfits), step_separator rfl]
        by_cases htrim : f.trim line = []
        · have haccepts : f.accepts line = false := by simp [Format.accepts, htrim]
          rw [if_pos (by simpa using htrim), foldl_of_fault rfl, haccepts]
          refine ⟨by simp, by simp [Nat.not_lt.2 hfits], by simp⟩
        · have haccepts : f.accepts line = true := by simp [Format.accepts, htrim, hfits]
          have hrest := ih (List.cons_ne_nil _ _) hparts.2 (lines ++ [f.trim line])
          rw [if_neg (by simpa using htrim), haccepts, if_pos rfl]
          refine ⟨?_, hrest.fault, hrest.pending⟩
          have hlines := hrest.lines
          rw [List.append_assoc] at hlines
          exact hlines
      · obtain ⟨pending, hfold⟩ := foldl_long (s := ⟨lines, [], none⟩) rfl (Nat.zero_le _) hparts.1
          (by simpa using Nat.not_le.1 hfits)
        have haccepts : f.accepts line = false := by simp [Format.accepts, hfits]
        rw [hfold, step_of_fault rfl, foldl_of_fault rfl, haccepts]
        refine ⟨by simp, by simp [Nat.not_le.1 hfits], by simp⟩

/-- The parts of a text have no separator. -/
theorem separator_notMem (x : β) (text : List β) : ∀ part ∈ text.splitOn x, x ∉ part := by
  induction text with
  | nil => simp
  | cons item text ih =>
    rw [List.splitOn_cons_eq_if_modifyHead]
    by_cases hitem : item = x
    · rw [if_pos (by simpa using hitem)]
      exact List.forall_mem_cons.2 ⟨List.not_mem_nil, ih⟩
    · rw [if_neg (by simpa using hitem)]
      cases hparts : text.splitOn x with
      | nil => simp
      | cons part parts =>
        rw [hparts, List.forall_mem_cons] at ih
        rw [List.modifyHead_cons, List.forall_mem_cons, List.mem_cons, not_or]
        exact ⟨⟨Ne.symm hitem, ih.1⟩, ih.2⟩

/-- **The reader makes of a text what `read` says.** -/
theorem run_eq_read (f : Format β) (text : List β) :
    Alike (text.foldl (step f) ⟨[], [], none⟩) (read f text) := by
  have hparts := foldl_parts (f := f) (text.splitOn f.separator) (List.splitOn_ne_nil _ _)
    (separator_notMem f.separator text) []
  rw [List.intercalate_splitOn] at hparts
  exact hparts

/-! ## Chunks -/

/-- **Chunks do not matter** to what follows the reader chunk by chunk. -/
theorem follows_chunks {σ : Type v} {handle : σ → List β → σ} {R : σ → State β → Prop}
    (hfollows : ∀ c t chunk, R c t → R (handle c chunk) (chunk.foldl (step f) t)) {c : σ}
    (h : R c s) (chunks : List (List β)) :
    R (chunks.foldl handle c) (chunks.flatten.foldl (step f) s) := by
  induction chunks generalizing c s with
  | nil => exact h
  | cons chunk chunks ih =>
    rw [List.foldl_cons, List.flatten_cons, List.foldl_append]
    exact ih (hfollows c s chunk h)

end Reader

end Vibapp.Lines
