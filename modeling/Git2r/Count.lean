import Git2r.Walk

/-! The counting pass, `git2r_diff_count`. Its three callbacks keep a running
count of files, of hunks in the current file and of lines in the current
hunk, resetting the inner counters at each boundary, and keep the largest
hunk and line counts seen. `DiffCountPayload.step` is what one callback does
to the payload (`diffCountCallbacks_call`); `count_walk` follows a whole diff,
and `diffCount_walk` is the result: the number of files and the exact maxima
over the files and over the hunks of the diff.

The other passes use the general facts: every step keeps the running counts
below the maxima (`CountOk`), and the maxima never decrease along a walk. -/

namespace Git2r

/-- `git2r_diff_count_payload`, zeroed as `git2r_diff_count` declares it. -/
structure DiffCountPayload where
  numFiles : Nat := 0
  maxHunks : Nat := 0
  maxLines : Nat := 0
  numHunks : Nat := 0
  numLines : Nat := 0
  deriving DecidableEq

/-- `git2r_diff_count_file_cb`. -/
def diffCountFileCb (_delta : DiffDelta) : StateM DiffCountPayload Int := do
  modify fun n => { n with numFiles := n.numFiles + 1 }
  modify fun n => { n with numHunks := 0, numLines := 0 }
  return 0

/-- `git2r_diff_count_hunk_cb`. -/
def diffCountHunkCb (_hunk : DiffHunk) : StateM DiffCountPayload Int := do
  modify fun n => { n with numHunks := n.numHunks + 1 }
  modify fun n => if n.numHunks > n.maxHunks then { n with maxHunks := n.numHunks } else n
  modify fun n => { n with numLines := 0 }
  return 0

/-- `git2r_diff_count_line_cb`. -/
def diffCountLineCb (_line : DiffLine) : StateM DiffCountPayload Int := do
  modify fun n => { n with numLines := n.numLines + 1 }
  modify fun n => if n.numLines > n.maxLines then { n with maxLines := n.numLines } else n
  return 0

/-- The callbacks `git2r_diff_count` passes to `git_diff_foreach`. -/
def diffCountCallbacks : DiffCallbacks (StateM DiffCountPayload) :=
  ⟨diffCountFileCb, diffCountHunkCb, diffCountLineCb⟩

/-- What `git2r_diff_count` writes through its three pointers. -/
structure DiffCount where
  numFiles : Nat
  maxHunks : Nat
  maxLines : Nat
  deriving DecidableEq

/-- `git2r_diff_count`: `-1` when the walk fails, otherwise `0` with the counts. -/
def diffCount (walk : List Event) : Except Int DiffCount :=
  let (err, n) := (diffForeach diffCountCallbacks walk).run {}
  if err ≠ 0 then .error (-1) else .ok ⟨n.numFiles, n.maxHunks, n.maxLines⟩

namespace DiffCountPayload

/-- What one counting callback does to the payload. -/
def step (n : DiffCountPayload) : Event → DiffCountPayload
  | .file _ => { n with numFiles := n.numFiles + 1, numHunks := 0, numLines := 0 }
  | .hunk _ =>
    { n with numHunks := n.numHunks + 1, maxHunks := max n.maxHunks (n.numHunks + 1), numLines := 0 }
  | .line _ => { n with numLines := n.numLines + 1, maxLines := max n.maxLines (n.numLines + 1) }

/-- The payload after counting a list of events. -/
def run (n : DiffCountPayload) (es : List Event) : DiffCountPayload := es.foldl step n

@[simp] theorem run_nil (n : DiffCountPayload) : n.run [] = n := rfl

@[simp] theorem run_cons (n : DiffCountPayload) (e : Event) (es : List Event) :
    n.run (e :: es) = (n.step e).run es := rfl

theorem run_append (n : DiffCountPayload) (es es' : List Event) :
    n.run (es ++ es') = (n.run es).run es' := List.foldl_append _ _ _ _

end DiffCountPayload

open DiffCountPayload

/-- Each counting callback returns `0` and steps the payload. -/
theorem diffCountCallbacks_call (e : Event) (n : DiffCountPayload) :
    (diffCountCallbacks.call e).run n = (0, n.step e) := by
  cases e with
  | file => rfl
  | hunk | line =>
    show (0, _) = (0, _)
    simp only [step, Prod.mk.injEq, true_and]
    split <;> simp only [mk.injEq, true_and, and_true] <;> omega

/-- The counting walk never stops early, and ends in the counted payload. -/
theorem diffForeach_count (es : List Event) (n : DiffCountPayload) :
    (diffForeach diffCountCallbacks es).run n = (0, n.run es) := by
  induction es generalizing n with
  | nil => rfl
  | cons e es ih =>
    have call := diffCountCallbacks_call e n
    simp only [diffForeach, StateT.run_bind] at call ⊢
    simp [call, ih]

/-- `git2r_diff_count` always succeeds, with the counts of the whole walk. -/
theorem diffCount_eq (es : List Event) :
    diffCount es = .ok ⟨({} : DiffCountPayload).run es |>.numFiles,
      ({} : DiffCountPayload).run es |>.maxHunks, ({} : DiffCountPayload).run es |>.maxLines⟩ := by
  simp [diffCount, diffForeach_count]

/-- The running counts sit below the maxima. -/
def CountOk (n : DiffCountPayload) : Prop := n.numHunks ≤ n.maxHunks ∧ n.numLines ≤ n.maxLines

theorem CountOk.step {n : DiffCountPayload} (ok : CountOk n) (e : Event) : CountOk (n.step e) := by
  cases e <;> simp only [CountOk, DiffCountPayload.step] at ok ⊢ <;> omega

theorem CountOk.run {n : DiffCountPayload} (ok : CountOk n) (es : List Event) : CountOk (n.run es) := by
  induction es generalizing n with
  | nil => exact ok
  | cons e es ih => exact ih (ok.step e)

/-- Counting more events never lowers a count of files or a maximum. -/
theorem run_mono (n : DiffCountPayload) (es : List Event) :
    n.numFiles ≤ (n.run es).numFiles ∧ n.maxHunks ≤ (n.run es).maxHunks ∧
      n.maxLines ≤ (n.run es).maxLines := by
  induction es generalizing n with
  | nil => simp
  | cons e es ih =>
    have later := ih (n.step e)
    cases e <;> simp only [run_cons, DiffCountPayload.step] at later ⊢ <;> omega

/-! ### Counting a diff -/

/-- The largest of a list of counts, `0` for none. -/
def maxOf (counts : List Nat) : Nat := counts.foldr max 0

@[simp] theorem maxOf_nil : maxOf [] = 0 := rfl

@[simp] theorem maxOf_cons (c : Nat) (cs : List Nat) : maxOf (c :: cs) = max c (maxOf cs) := rfl

theorem maxOf_append (cs cs' : List Nat) : maxOf (cs ++ cs') = max (maxOf cs) (maxOf cs') := by
  induction cs with
  | nil => simp
  | cons c cs ih => simp [ih, max_assoc]

/-- A hunk's lines add to the line count and raise the line maximum to it. -/
theorem count_lines (lines : List DiffLine) (n : DiffCountPayload) (ok : n.numLines ≤ n.maxLines) :
    n.run (lines.map .line) = { n with
      numLines := n.numLines + lines.length
      maxLines := max n.maxLines (n.numLines + lines.length) } := by
  induction lines generalizing n with
  | nil => simp [ok]
  | cons l lines ih =>
    rw [List.map_cons, run_cons, ih _ (by simp only [DiffCountPayload.step]; omega)]
    simp only [DiffCountPayload.step, List.length_cons, mk.injEq, true_and]
    exact ⟨by omega, by omega⟩

/-- The counts after the events of the hunks of one file. -/
theorem count_hunks (hunks : List PatchHunk) (n : DiffCountPayload) (ok : CountOk n) :
    let n' := n.run (hunks.flatMap PatchHunk.events)
    n'.numFiles = n.numFiles ∧ n'.numHunks = n.numHunks + hunks.length ∧
      n'.maxHunks = max n.maxHunks (n.numHunks + hunks.length) ∧
      n'.maxLines = max n.maxLines (maxOf (hunks.map fun h => h.lines.length)) := by
  induction hunks generalizing n with
  | nil => simp [ok.1]
  | cons h hunks ih =>
    have lines := count_lines h.lines (n.step (.hunk h.hunk)) (by simp only [step]; omega)
    obtain ⟨files, count, maxHunks, maxLines⟩ := ih _ ((ok.step (.hunk h.hunk)).run (h.lines.map .line))
    simp only [List.flatMap_cons, run_append, PatchHunk.events, run_cons]
    rw [files, count, maxHunks, maxLines, lines]
    simp only [step, List.length_cons, List.map_cons, maxOf_cons, true_and]
    exact ⟨by omega, by omega, by omega⟩

/-- The counts after the events of whole files. -/
theorem count_walk (d : List Patch) (n : DiffCountPayload) (ok : CountOk n) :
    let n' := n.run (walk d)
    n'.numFiles = n.numFiles + d.length ∧
      n'.maxHunks = max n.maxHunks (maxOf (d.map fun p => p.hunks.length)) ∧
      n'.maxLines = max n.maxLines (maxOf ((d.flatMap Patch.hunks).map fun h => h.lines.length)) := by
  induction d generalizing n with
  | nil => simp
  | cons p d ih =>
    have opened : CountOk (n.step (.file p.delta)) := ok.step _
    obtain ⟨files, -, maxHunks, maxLines⟩ := count_hunks p.hunks _ opened
    obtain ⟨files', maxHunks', maxLines'⟩ := ih _ (opened.run (p.hunks.flatMap PatchHunk.events))
    simp only [walk_cons, Patch.events, run_append, run_cons]
    rw [files', maxHunks', maxLines', files, maxHunks, maxLines]
    simp only [step, List.flatMap_cons, List.map_append, maxOf_append, List.map_cons, maxOf_cons,
      List.length_cons]
    exact ⟨by omega, by omega, by omega⟩

/-- Counting the walk of a diff gives its number of files, the largest number
of hunks in one file and the largest number of lines in one hunk, each `0`
when there is nothing to count. -/
theorem diffCount_walk (d : List Patch) :
    diffCount (walk d) = .ok ⟨d.length, maxOf (d.map fun p => p.hunks.length),
      maxOf ((d.flatMap Patch.hunks).map fun h => h.lines.length)⟩ := by
  obtain ⟨files, maxHunks, maxLines⟩ := count_walk d {} (by simp [CountOk])
  rw [diffCount_eq, files, maxHunks, maxLines]
  simp

end Git2r
