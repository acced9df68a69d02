import Git2r.FormatToR

/-! What `git2r_diff_format_to_r` leaves alone. The pass writes through
pointers: the payload's three, and those it reads back out of `result` and
`hunk_tmp` to reach the open file and the open hunk. None of them leads below
the three lists it allocates, so every cell that was on the heap before the
call keeps its content, but for `dest`, which keeps its `old` and `new` and
gets `result` as its `files` (`diffFormatToR_frame`).

Each part of a callback keeps every cell below the lists (`saveLines_agrees`
and the rest): the parts that close the open hunk and file write at or above
`base`, where the refinement relation puts those objects, and the others write
into the three lists and at the end of the heap. `diffForeach_agrees` runs
that over a walk. -/

namespace Git2r

/-- `heap'` holds what `heap` holds at every address below `lo`. -/
def Agrees (lo : Nat) (heap heap' : Heap) : Prop := ∀ a < lo, heap'[a]? = heap[a]?

namespace Agrees
variable {lo : Nat} {heap heap' heap'' : Heap}

theorem refl (lo : Nat) (heap : Heap) : Agrees lo heap heap := fun _ _ => rfl

theorem trans (first : Agrees lo heap heap') (second : Agrees lo heap' heap'') : Agrees lo heap heap'' :=
  fun a below => (second a below).trans (first a below)

theorem mono {lo' : Nat} (agrees : Agrees lo heap heap') (lower : lo' ≤ lo) : Agrees lo' heap heap' :=
  fun a below => agrees a (by omega)

/-- A write at or above `lo`, followed by allocations, keeps what lies below. -/
theorem set_append {a : Nat} {c : Cell} {cs : List Cell} (above : lo ≤ a) (inside : a < heap.length) :
    Agrees lo heap (heap.set a c ++ cs) :=
  fun _ below => getElem?_set_append_ne (by omega) (by omega)

end Agrees

/-! ### Each part of a callback -/

section Parts
variable {lay : Layout} {s s' : Machine}

/-- `saveLines` writes only into the open hunk, above `base`. -/
theorem saveLines_agrees {st : Staging} (rep : Represents lay s st) (run : saveLines.run s = some ((), s')) :
    Agrees lay.base s.heap s'.heap := by
  obtain ⟨framed, points, fm, hm, base_fm, fm_hm, hm_len, files, hunks, lines⟩ := rep
  rcases st with ⟨fileStage, _ | ⟨closed, hunk⟩, staged⟩
  · rw [saveLines_run_of_zero hunks] at run
    cases run
    exact Agrees.refl _ _
  · dsimp only at hunks lines
    obtain ⟨count, ha, fm_ha, ha_hm, opened, held, read⟩ := hunks
    obtain ⟨lineCount, linesRead⟩ := lines
    rw [← lineCount] at linesRead
    obtain ⟨dest, result, hunkTmp, lineTmp, size⟩ := framed.order
    rw [saveLines_run (by omega) points.hunkTmp points.lineTmp framed.hunkTmp (by rw [count]; exact opened) held
      framed.lineTmp (le_length_of_mapM_take linesRead lineCount.symm) (by omega)] at run
    cases run
    exact Agrees.set_append (by omega) (by omega)

/-- `saveHunks` writes only into the open file, above `base`. -/
theorem saveHunks_agrees {st : Staging} (saved : Saved lay s st) (run : saveHunks.run s = some ((), s')) :
    Agrees lay.base s.heap s'.heap := by
  obtain ⟨framed, points, fm, base_fm, fm_len, files, count, read⟩ := saved
  rcases st with ⟨_ | ⟨done, delta⟩, hunkStage, staged⟩
  · rw [saveHunks_run_of_zero files] at run
    cases run
    exact Agrees.refl _ _
  · dsimp only at files
    obtain ⟨fileCount, fa, base_fa, fa_fm, opened, held, doneRead⟩ := files
    obtain ⟨dest, result, hunkTmp, lineTmp, size⟩ := framed.order
    rw [← count] at read
    rw [saveHunks_run (by omega) points.result points.hunkTmp framed.result (by rw [fileCount]; exact opened) held
      framed.hunkTmp (le_length_of_mapM_take read count.symm) (by omega)] at run
    cases run
    exact Agrees.set_append base_fa (by omega)

/-- `newHunk` writes only into `hunk_tmp`. -/
theorem newHunk_agrees {st : Staging} (saved : Saved lay s st) (hunk : DiffHunk)
    (run : (newHunk hunk).run s = some ((), s')) : Agrees lay.start s.heap s'.heap := by
  obtain ⟨dest, result, hunkTmp, lineTmp, size⟩ := saved.framed.order
  by_cases bound : s.payload.hunkPtr < (s.heap.elems lay.hunkTmp).length
  · rw [newHunk_run hunk saved.points.hunkTmp saved.framed.hunkTmp bound] at run
    cases run
    exact Agrees.set_append (Nat.le_succ _) (by omega)
  · rw [newHunk_run_of_full hunk saved.points.hunkTmp saved.framed.hunkTmp (by omega)] at run
    cases run

/-- `newFile` writes only into `result`. -/
theorem newFile_agrees {files : List DiffFileObj} (committed : Committed lay s files) (delta : DiffDelta)
    (run : (newFile delta).run s = some ((), s')) : Agrees lay.start s.heap s'.heap := by
  obtain ⟨dest, result, hunkTmp, lineTmp, size⟩ := committed.framed.order
  by_cases bound : s.payload.filePtr < (s.heap.elems lay.result).length
  · rw [newFile_run delta committed.points.result committed.framed.result bound] at run
    cases run
    exact Agrees.set_append le_rfl (by omega)
  · rw [newFile_run_of_full delta committed.points.result committed.framed.result (by omega)] at run
    cases run

/-- `git2r_diff_get_line_cb` writes only into `line_tmp`. -/
theorem diffGetLineCb_agrees (dm : DataModel) (narrow : dm.pointerSize < shortBufferSize) {st : Staging}
    (rep : Represents lay s st) (line : DiffLine) (resident : line.content.length < dm.sizeMax) {r : Int}
    (run : (diffGetLineCb dm line).run s = some (r, s')) : Agrees lay.start s.heap s'.heap := by
  obtain ⟨shortBuffer', copied⟩ := lineContent_some dm narrow s.shortBuffer line.content resident
  obtain ⟨dest, result, hunkTmp, lineTmp, size⟩ := rep.framed.order
  by_cases bound : s.payload.linePtr < (s.heap.elems lay.lineTmp).length
  · rw [diffGetLineCb_run dm line rep.points.lineTmp rep.framed.lineTmp bound copied] at run
    cases run
    exact Agrees.set_append (Nat.le_add_right _ 2) (by omega)
  · rw [diffGetLineCb_run_of_full dm line rep.points.lineTmp rep.framed.lineTmp (by omega)] at run
    cases run

end Parts

/-! ### Callbacks and walks -/

section Callbacks
variable {lay : Layout} {s s' : Machine}

theorem start_le_base (lay : Layout) : lay.start ≤ lay.base := Nat.le_add_right _ 3

/-- A callback of the second walk keeps every cell below the lists. -/
theorem call_agrees (dm : DataModel) (narrow : dm.pointerSize < shortBufferSize) {st : Staging}
    (rep : Represents lay s st) (e : Event) (resident : ∀ line, e = .line line → line.content.length < dm.sizeMax)
    {r : Int} (run : ((diffGetCallbacks dm).call e).run s = some (r, s')) : Agrees lay.start s.heap s'.heap := by
  cases e with
  | file delta =>
    obtain ⟨heap₁, saveLinesRun, saved⟩ := saveLines_saved rep
    obtain ⟨heap₂, saveHunksRun, committed⟩ := saveHunks_committed saved
    change (diffGetFileCb (some delta)).run s = some (r, s') at run
    simp only [diffGetFileCb, diffGetHunkCb, StateT.run_bind, StateT.run_pure, Option.pure_def, saveLinesRun,
      saveHunksRun, Option.bind_eq_bind, Option.some_bind, Option.bind_eq_some, Option.some.injEq] at run
    obtain ⟨⟨⟨⟩, s₃⟩, newFileRun, -, rfl⟩ := run
    exact ((saveLines_agrees rep saveLinesRun).trans (saveHunks_agrees saved saveHunksRun)).mono
      (start_le_base lay) |>.trans (newFile_agrees committed delta newFileRun)
  | hunk hunk =>
    obtain ⟨heap₁, saveLinesRun, saved⟩ := saveLines_saved rep
    change (diffGetHunkCb (some hunk)).run s = some (r, s') at run
    simp only [diffGetHunkCb, StateT.run_bind, StateT.run_pure, Option.pure_def, saveLinesRun,
      Option.bind_eq_bind, Option.some_bind, Option.bind_eq_some, Option.some.injEq] at run
    obtain ⟨⟨⟨⟩, s₂⟩, newHunkRun, -, rfl⟩ := run
    exact ((saveLines_agrees rep saveLinesRun).mono (start_le_base lay)).trans
      (newHunk_agrees saved hunk newHunkRun)
  | line line => exact diffGetLineCb_agrees dm narrow rep line (resident line rfl) run

/-- The final `git2r_diff_get_file_cb(NULL)` keeps every cell below `base`. -/
theorem diffGetFileCb_none_agrees {st : Staging} (rep : Represents lay s st) {r : Int}
    (run : (diffGetFileCb none).run s = some (r, s')) : Agrees lay.base s.heap s'.heap := by
  obtain ⟨heap₁, saveLinesRun, saved⟩ := saveLines_saved rep
  obtain ⟨heap₂, saveHunksRun, committed⟩ := saveHunks_committed saved
  simp only [diffGetFileCb, diffGetHunkCb, StateT.run_bind, StateT.run_pure, Option.pure_def, saveLinesRun,
    saveHunksRun, Option.bind_eq_bind, Option.some_bind, Option.some.injEq] at run
  obtain ⟨-, rfl⟩ := run
  exact (saveLines_agrees rep saveLinesRun).trans (saveHunks_agrees saved saveHunksRun)

/-- The second walk keeps every cell below the lists, over any list of events
the lists were sized for. -/
theorem diffForeach_agrees (dm : DataModel) (narrow : dm.pointerSize < shortBufferSize) (es : List Event)
    {st : Staging} {n : DiffCountPayload} (rep : Represents lay s st) (lock : Lockstep s.payload n)
    (fits : Fits lay (n.run es)) (resident : ∀ line, Event.line line ∈ es → line.content.length < dm.sizeMax)
    {r : Int} (run : (diffForeach (diffGetCallbacks dm) es).run s = some (r, s')) : Agrees lay.start s.heap s'.heap := by
  induction es generalizing s st n with
  | nil =>
    cases run
    exact Agrees.refl _ _
  | cons e es ih =>
    have here : ∀ line, e = .line line → line.content.length < dm.sizeMax :=
      fun line same => resident line (by simp [same])
    obtain ⟨s₁, call, rep₁, lock₁⟩ :=
      call_represents dm narrow rep lock e (show Fits lay ((n.step e).run es) from fits).of_run here
    simp only [diffForeach, StateT.run_bind, call, Option.bind_eq_bind, Option.some_bind, ne_eq, not_true_eq_false,
      ite_false] at run
    exact (call_agrees dm narrow rep e here call).trans
      (ih rep₁ lock₁ fits (fun line mem => resident line (List.mem_cons_of_mem e mem)) run)

end Callbacks

/-! ### The whole pass -/

section Format
variable {s : Machine} {dest : Nat} {old new files : Sexp}

/-- On any list of events, `git2r_diff_format_to_r` changes no cell that was on
the heap before it but `dest`, which keeps its `old` and `new` and holds the
new `result` list as its `files`. -/
theorem diffFormatToR_frame (dm : DataModel) (narrow : dm.pointerSize < shortBufferSize) (es : List Event)
    (resident : ∀ line, Event.line line ∈ es → line.content.length < dm.sizeMax)
    (held : s.heap[dest]? = some (.diff old new files)) :
    ∃ s', (diffFormatToR dm es (.ref dest)).run s = some (0, s') ∧
      (∀ a < s.heap.length, a ≠ dest → s'.heap[a]? = s.heap[a]?) ∧
      s'.heap[dest]? = some (.diff old new (.ref s.heap.length)) := by
  let n := ({} : DiffCountPayload).run es
  obtain ⟨s₀, alloc, rep₀, lock₀⟩ := diffFormatAlloc_represents ⟨n.numFiles, n.maxHunks, n.maxLines⟩ held
  obtain ⟨s₁, walk, rep₁, lock₁⟩ := diffForeach_represents dm narrow es rep₀ lock₀ ⟨le_rfl, le_rfl, le_rfl⟩ resident
  obtain ⟨heap', final, committed⟩ := diffGetFileCb_none_committed rep₁
  have allocated : ∀ a < s.heap.length, a ≠ dest → s₀.heap[a]? = s.heap[a]? := by
    have explicit : (diffFormatAlloc ⟨n.numFiles, n.maxHunks, n.maxLines⟩ (.ref dest)).run s =
        some ((), ⟨s.heap.set dest (.diff old new (.ref s.heap.length)) ++ [.vec (.replicate n.numFiles .nil),
          .vec (.replicate n.maxHunks .nil), .vec (.replicate n.maxLines .nil)], s.shortBuffer,
          ⟨.ref s.heap.length, .ref (s.heap.length + 1), .ref (s.heap.length + 2), 0, 0, 0⟩⟩) := by
      simp [diffFormatAlloc, StateT.run_bind, setSlot_append_run _ held, Cell.setSlot, setPayload_run]
    rw [explicit] at alloc
    cases alloc
    exact fun a below other => getElem?_set_append_ne below (Ne.symm other)
  have walked := diffForeach_agrees dm narrow es rep₀ lock₀ ⟨le_rfl, le_rfl, le_rfl⟩ resident walk
  have flushed := (diffGetFileCb_none_agrees rep₁ final).mono (start_le_base _)
  refine ⟨_, ?_, fun a below other => ?_, committed.framed.dest⟩
  · simp only [diffFormatToR, diffCount_eq, StateT.run_bind, alloc, walk, Option.bind_eq_bind, Option.some_bind,
      ite_true, final]
  · rw [flushed a below, walked a below, allocated a below other]

theorem diffFormatToR_frame_beside_list :
    let es : List Event := [.file ⟨⟨.empty⟩, ⟨.empty⟩⟩, .hunk ⟨1, 0, 1, 1, .empty⟩, .line ⟨43, -1, 1, 1, [104]⟩]
    let s : Machine := ⟨[.vec [.nil], .diff .nil .nil .nil], fun _ => none, ⟨.nil, .nil, .nil, 0, 0, 0⟩⟩
    DataModel.lp64.pointerSize < shortBufferSize ∧
      (∀ line, Event.line line ∈ es → line.content.length < DataModel.lp64.sizeMax) ∧
      s.heap[1]? = some (.diff .nil .nil .nil) ∧
      ∃ s', (diffFormatToR .lp64 es (.ref 1)).run s = some (0, s') ∧
        (∀ a < s.heap.length, a ≠ 1 → s'.heap[a]? = s.heap[a]?) ∧
        s'.heap[1]? = some (.diff .nil .nil (.ref s.heap.length)) := by
  intro es s
  have resident : ∀ line, Event.line line ∈ es → line.content.length < DataModel.lp64.sizeMax :=
    lines_shorter_of_all (by decide)
  exact ⟨by decide, resident, rfl, diffFormatToR_frame .lp64 (by decide) es resident rfl⟩

end Format

end Git2r
