import Vibapp.Lib.Lines

/-!
# The input of the RoomHash host

The host reads requests from its standard input, one JSON text a line, and keeps what has come of a
line from one chunk to the next. **Main result** (`input_of_chunks`): however the bytes are cut into
chunks, the requests that are queued are the lines up to the first one that is empty or too long,
each without its carriage return, and a broken end is answered as it would be in one chunk.
-/

namespace Vibapp.RoomHash

open Lines

/-! ## The handlers of `process.stdin` -/

/-- `MAX_LINE_BYTES` -/
def maxLineBytes : Nat := 512 * 1024

def newlineByte : UInt8 := 0x0a

def returnByte : UInt8 := 0x0d

/-- `Buffer.from('{')`: a text that is no request. -/
def brokenLine : List UInt8 := [0x7b]

/-- `chunks`, `lineBytes`, `inputFailed`, whether the input is paused, and the lines in `queue`. -/
structure Input where
  chunks : List (List UInt8)
  lineBytes : Nat
  inputFailed : Bool
  paused : Bool
  queue : List (List UInt8)
  deriving DecidableEq, Repr

def Input.start : Input := ⟨[], 0, false, false, []⟩

def Input.enqueue (s : Input) (line : List UInt8) : Input := { s with queue := s.queue ++ [line] }

/-- `inputFailed = true; enqueue(Buffer.from('{')); process.stdin.pause()` -/
def Input.fail (s : Input) : Input :=
  { s.enqueue brokenLine with inputFailed := true, paused := true }

/-- `Buffer.concat`: cut, or filled with zeros. -/
def concat (chunks : List (List UInt8)) (totalLength : Nat) : List UInt8 :=
  (chunks.flatten ++ List.replicate totalLength 0).take totalLength

/-- `if (line.at(-1) === 0x0d) line = line.subarray(0, -1)` -/
def stripReturn (line : List UInt8) : List UInt8 :=
  if line.getLast? = some returnByte then line.dropLast else line

/-- The loop of the `data` handler, from `chunk.subarray(offset)` on. -/
def Input.dataLoop (s : Input) (rest : List UInt8) : Input :=
  match rest with
  | [] => s
  | byte :: tail =>
    let piece := (byte :: tail).takeWhile (· ≠ newlineByte)
    let s := { s with lineBytes := s.lineBytes + piece.length }
    if s.lineBytes + 1 > maxLineBytes then s.fail
    else
      let s := { s with chunks := s.chunks ++ [piece] }
      match hrest : (byte :: tail).dropWhile (· ≠ newlineByte) with
      | [] => s
      | _ :: next =>
        let line := stripReturn (concat s.chunks s.lineBytes)
        let s := { s with chunks := [], lineBytes := 0 }
        if line.length = 0 then s.fail else (s.enqueue line).dataLoop next
termination_by rest.length
decreasing_by
  have hlength := (List.dropWhile_suffix (l := byte :: tail) (· ≠ newlineByte)).length_le
  rw [hrest] at hlength
  simp only [List.length_cons] at hlength ⊢
  omega

/-- `process.stdin.on('data', …)` -/
def Input.onData (s : Input) (chunk : List UInt8) : Input :=
  if s.inputFailed then s else s.dataLoop chunk

/-- `process.stdin.on('end', …)` -/
def Input.onEnd (s : Input) : Input :=
  if s.lineBytes ≠ 0 then s.enqueue brokenLine else s

/-! ## Byte by byte -/

/-- The lines of the host. -/
def hostLines : Format UInt8 := ⟨newlineByte, maxLineBytes - 1, stripReturn⟩

/-- The handler has read what the reader has. -/
structure Follows (s : Input) (t : State UInt8) : Prop where
  queue : s.queue = t.lines ++ (if t.fault.isSome then [brokenLine] else [])
  failed : s.inputFailed = t.fault.isSome
  paused : s.paused = t.fault.isSome
  pending : t.fault = none → s.chunks.flatten = t.pending ∧ s.lineBytes = t.pending.length
  fits : t.fault = none → t.pending.length ≤ hostLines.bound
  atEnd : t.fault.isSome → (s.lineBytes ≠ 0 ↔ t.fault = some .long)

theorem follows_start : Follows .start ⟨[], [], none⟩ :=
  ⟨rfl, rfl, rfl, fun _ => ⟨rfl, rfl⟩, fun _ => Nat.zero_le _, fun h => by cases h⟩

theorem concat_flatten (chunks : List (List UInt8)) :
    concat chunks chunks.flatten.length = chunks.flatten := by
  rw [concat, List.take_left]

/-- Bytes up to a newline, or to the end of the chunk. -/
theorem piece_cases (rest : List UInt8) :
    newlineByte ∉ rest.takeWhile (· ≠ newlineByte) ∧
      (rest.dropWhile (· ≠ newlineByte) = [] ∧ rest = rest.takeWhile (· ≠ newlineByte) ∨
        ∃ next, rest.dropWhile (· ≠ newlineByte) = newlineByte :: next ∧
          rest = rest.takeWhile (· ≠ newlineByte) ++ newlineByte :: next) := by
  induction rest with
  | nil => exact ⟨List.not_mem_nil, .inl ⟨rfl, rfl⟩⟩
  | cons byte rest ih =>
    by_cases hbyte : byte = newlineByte
    · subst hbyte
      exact ⟨by simp, .inr ⟨rest, by simp, by simp⟩⟩
    · have htake : (byte :: rest).takeWhile (· ≠ newlineByte) =
          byte :: rest.takeWhile (· ≠ newlineByte) := by simp [hbyte]
      have hdrop : (byte :: rest).dropWhile (· ≠ newlineByte) =
          rest.dropWhile (· ≠ newlineByte) := by simp [hbyte]
      obtain ⟨hnotMem, hcases⟩ := ih
      rw [htake, hdrop, List.mem_cons, not_or]
      refine ⟨⟨Ne.symm hbyte, hnotMem⟩, ?_⟩
      rcases hcases with ⟨hnil, hrest⟩ | ⟨next, hnext, hrest⟩
      · exact .inl ⟨hnil, congrArg (byte :: ·) hrest⟩
      · exact .inr ⟨next, hnext, congrArg (byte :: ·) hrest⟩

/-- A line that gets too long. -/
theorem follows_long {s : Input} {t : State UInt8} (h : Follows s t) (hok : t.fault = none)
    {lineBytes : Nat} (hlong : maxLineBytes < lineBytes + 1) (pending : List UInt8) :
    Follows { s with lineBytes := lineBytes }.fail
      { t with pending := pending, fault := some .long } := by
  have hqueue := h.queue
  rw [hok] at hqueue
  refine ⟨?_, rfl, rfl, fun hnone => (by cases hnone), fun hnone => (by cases hnone), fun _ => ?_⟩
  · simp [Input.fail, Input.enqueue, hqueue]
  · have hpos : maxLineBytes = 524288 := rfl
    simp only [Input.fail, Input.enqueue, iff_true]
    omega

/-- A line that comes to nothing. -/
theorem follows_empty {s : Input} {t : State UInt8} (h : Follows s t) (hok : t.fault = none) :
    Follows { s with chunks := [], lineBytes := 0 }.fail
      { t with pending := [], fault := some .empty } := by
  have hqueue := h.queue
  rw [hok] at hqueue
  refine ⟨?_, rfl, rfl, fun hnone => (by cases hnone), fun hnone => (by cases hnone), fun _ => ?_⟩
  · simp [Input.fail, Input.enqueue, hqueue]
  · simp [Input.fail, Input.enqueue]

theorem follows_line {s : Input} {t : State UInt8} (h : Follows s t) (hok : t.fault = none)
    (line : List UInt8) : Follows ({ s with chunks := [], lineBytes := 0 }.enqueue line)
      { t with lines := t.lines ++ [line], pending := [] } := by
  have hqueue := h.queue
  have hfailed := h.failed
  have hpaused := h.paused
  rw [hok] at hqueue hfailed hpaused
  refine ⟨?_, ?_, ?_, fun _ => ⟨rfl, rfl⟩, fun _ => Nat.zero_le _, fun hsome => ?_⟩
  · simp [Input.enqueue, hqueue, hok]
  · rw [hok]
    exact hfailed
  · rw [hok]
    exact hpaused
  · rw [hok] at hsome
    cases hsome

/-- A piece that fits. -/
theorem follows_piece {s : Input} {t : State UInt8} (h : Follows s t) (hok : t.fault = none)
    {piece : List UInt8} (hpiece : newlineByte ∉ piece)
    (hfits : ¬ s.lineBytes + piece.length + 1 > maxLineBytes) :
    piece.foldl (step hostLines) t = { t with pending := t.pending ++ piece } ∧
      Follows { s with lineBytes := s.lineBytes + piece.length, chunks := s.chunks ++ [piece] }
        { t with pending := t.pending ++ piece } := by
  obtain ⟨hflatten, hbytes⟩ := h.pending hok
  have hbound : (t.pending ++ piece).length ≤ hostLines.bound := by
    have hmaximum : hostLines.bound + 1 = maxLineBytes := rfl
    rw [List.length_append]
    omega
  refine ⟨foldl_part hok hpiece hbound, h.queue, h.failed, h.paused, fun _ => ⟨?_, ?_⟩,
    fun _ => hbound, fun hsome => ?_⟩
  · simp [hflatten]
  · simp [hbytes]
  · rw [hok] at hsome
    cases hsome

/-- What has come of a line, in one buffer. -/
theorem Follows.line {s : Input} {t : State UInt8} (h : Follows s t) (hok : t.fault = none) :
    stripReturn (concat s.chunks s.lineBytes) = hostLines.trim t.pending := by
  obtain ⟨hflatten, hbytes⟩ := h.pending hok
  rw [hbytes, ← hflatten, concat_flatten]
  rfl

/-- The loop follows the reader. -/
theorem follows_dataLoop (s : Input) (rest : List UInt8) :
    ∀ t : State UInt8, Follows s t → t.fault = none →
      Follows (s.dataLoop rest) (rest.foldl (step hostLines) t) := by
  fun_induction Input.dataLoop s rest with
  | case1 s => exact fun t h _ => h
  | case2 s byte tail piece s' hlong =>
    intro t h hok
    obtain ⟨hpiece, hcases⟩ := piece_cases (byte :: tail)
    have hbytes := (h.pending hok).2
    -- the piece is too long, whatever comes behind it
    obtain ⟨pending, hfold⟩ := foldl_long (f := hostLines) hok (h.fits hok) hpiece (by
      have hmaximum : hostLines.bound + 1 = maxLineBytes := rfl
      rw [List.length_append, ← hbytes]
      have hsum : maxLineBytes < s.lineBytes +
          ((byte :: tail).takeWhile (· ≠ newlineByte)).length + 1 := hlong
      omega)
    have hrest : (byte :: tail).foldl (step hostLines) t =
        { t with pending := pending, fault := some .long } := by
      rcases hcases with ⟨-, hrest⟩ | ⟨next, -, hrest⟩
      · rw [hrest, hfold]
      · rw [hrest, List.foldl_append, hfold]
        exact foldl_of_fault rfl _
    rw [hrest]
    exact follows_long h hok hlong pending
  | case3 s byte tail piece s₁ hfits s₂ hdrop =>
    intro t h hok
    obtain ⟨hpiece, hcases⟩ := piece_cases (byte :: tail)
    obtain ⟨hfold, hfollows⟩ := follows_piece h hok hpiece hfits
    rcases hcases with ⟨-, hrest⟩ | ⟨next, hnext, -⟩
    · rw [hrest, hfold]
      exact hfollows
    · rw [hnext] at hdrop
      cases hdrop
  | case4 s byte tail piece s₁ hfits s₂ head next hdrop line s₃ hempty =>
    intro t h hok
    obtain ⟨hpiece, hcases⟩ := piece_cases (byte :: tail)
    obtain ⟨hfold, hfollows⟩ := follows_piece h hok hpiece hfits
    rcases hcases with ⟨hnil, -⟩ | ⟨next', hnext, hrest⟩
    · rw [hnil] at hdrop
      cases hdrop
    · have htrim : hostLines.trim (t.pending ++ piece) = [] :=
        (hfollows.line hok).symm.trans (List.length_eq_zero_iff.1 hempty)
      have hstep := step_separator (f := hostLines)
        (s := { t with pending := t.pending ++ piece }) hok
      rw [if_pos htrim] at hstep
      rw [hrest, List.foldl_append, hfold, List.foldl_cons]
      refine (congrArg (Follows s₃.fail) ?_).mpr (follows_empty hfollows hok)
      exact (congrArg (next'.foldl (step hostLines)) hstep).trans (foldl_of_fault rfl next')
  | case5 s byte tail piece s₁ hfits s₂ head next hdrop line s₃ hempty ih =>
    intro t h hok
    obtain ⟨hpiece, hcases⟩ := piece_cases (byte :: tail)
    obtain ⟨hfold, hfollows⟩ := follows_piece h hok hpiece hfits
    rcases hcases with ⟨hnil, -⟩ | ⟨next', hnext, hrest⟩
    · rw [hnil] at hdrop
      cases hdrop
    · rw [hnext] at hdrop
      cases hdrop
      have hline : line = hostLines.trim (t.pending ++ piece) := hfollows.line hok
      have htrim : hostLines.trim (t.pending ++ piece) ≠ [] := by
        rw [← hline]
        exact fun hnil => hempty (List.length_eq_zero_iff.2 hnil)
      have hstep := step_separator (f := hostLines)
        (s := { t with pending := t.pending ++ piece }) hok
      rw [if_neg htrim, ← hline] at hstep
      rw [hrest, List.foldl_append, hfold, List.foldl_cons]
      refine (congrArg (fun u => Follows _ (List.foldl (step hostLines) u next)) hstep).mpr ?_
      exact ih _ (follows_line hfollows hok line) hok

theorem follows_onData (s : Input) (t : State UInt8) (chunk : List UInt8) (h : Follows s t) :
    Follows (s.onData chunk) (chunk.foldl (step hostLines) t) := by
  unfold Input.onData
  cases hfault : t.fault with
  | none =>
    have hfailed : s.inputFailed = false := by rw [h.failed, hfault]; rfl
    rw [hfailed, if_neg Bool.false_ne_true]
    exact follows_dataLoop s chunk t h hfault
  | some fault =>
    have hsome : t.fault.isSome := by rw [hfault]; rfl
    rw [h.failed, if_pos hsome, foldl_of_fault hsome]
    exact h

/-! ## The result -/

/-- What the handlers leave of a whole input: the lines that are queued before its end and at it. -/
def queuedOf (t : State UInt8) : List (List UInt8) :=
  t.lines ++ (if t.fault.isSome then [brokenLine] else [])

def queuedAtEnd (t : State UInt8) : List (List UInt8) :=
  match t.fault with
  | some .long => [brokenLine]
  | some .empty => []
  | none => if t.pending = [] then [] else [brokenLine]

theorem Follows.onEnd {s : Input} {t u : State UInt8} (h : Follows s t) (hu : Alike t u) :
    s.queue = queuedOf u ∧ s.inputFailed = u.fault.isSome ∧
      s.onEnd.queue = queuedOf u ++ queuedAtEnd u := by
  have hqueue : s.queue = queuedOf u := by rw [h.queue, queuedOf, hu.lines, hu.fault]
  refine ⟨hqueue, by rw [h.failed, hu.fault], ?_⟩
  unfold Input.onEnd queuedAtEnd
  cases hfault : u.fault with
  | none =>
    obtain ⟨-, hbytes⟩ := h.pending (hu.fault.trans hfault)
    rw [hu.pending hfault] at hbytes
    by_cases hempty : u.pending = []
    · rw [if_neg (by simp [hbytes, hempty]), hqueue]
      simp [hempty]
    · rw [if_pos (by simp [hbytes, hempty])]
      simp [Input.enqueue, hqueue, hempty]
  | some fault =>
    have hend := h.atEnd (by rw [hu.fault, hfault]; rfl)
    rw [hu.fault, hfault] at hend
    cases fault with
    | long =>
      rw [if_pos (hend.2 rfl)]
      simp [Input.enqueue, hqueue]
    | empty =>
      rw [if_neg fun hbytes => by cases hend.1 hbytes]
      simp [hqueue]

/-- **Main result.** What is queued before and at the end of the input, from its bytes alone. -/
theorem input_of_chunks (chunks : List (List UInt8)) :
    (chunks.foldl Input.onData .start).queue = queuedOf (Lines.read hostLines chunks.flatten) ∧
      (chunks.foldl Input.onData .start).inputFailed =
          (Lines.read hostLines chunks.flatten).fault.isSome ∧
        (chunks.foldl Input.onData .start).onEnd.queue =
          queuedOf (Lines.read hostLines chunks.flatten) ++
            queuedAtEnd (Lines.read hostLines chunks.flatten) :=
  (follows_chunks follows_onData follows_start chunks).onEnd (run_eq_read hostLines _)

/-- However the bytes are cut. -/
theorem onData_flatten (chunks : List (List UInt8)) :
    (chunks.foldl Input.onData .start).queue = (Input.start.onData chunks.flatten).queue ∧
      (chunks.foldl Input.onData .start).inputFailed =
          (Input.start.onData chunks.flatten).inputFailed ∧
        (chunks.foldl Input.onData .start).onEnd.queue =
          (Input.start.onData chunks.flatten).onEnd.queue := by
  obtain ⟨hqueue, hfailed, hend⟩ := input_of_chunks chunks
  obtain ⟨hqueue', hfailed', hend'⟩ := input_of_chunks [chunks.flatten]
  rw [List.flatten_singleton] at hqueue' hfailed' hend'
  exact ⟨hqueue.trans hqueue'.symm, hfailed.trans hfailed'.symm, hend.trans hend'.symm⟩

end Vibapp.RoomHash
