import Git2r.Refinement

/-! What `git2r_diff_format_to_r` does with a `git_diff` object `dest`. Its
allocations start the relation of `Refinement` from the empty staging value,
in lockstep with a zeroed counter (`diffFormatAlloc_represents`); the second
walk carries both to the end of the events, and the final file callback
commits what is left (`diffFormatToR_committed`). Read back, the `files` of
`dest` are then the files the staging model commits, which on the walk of a
diff is the diff itself (`Staging.committedFiles_walk`).

Both results assume what `git2r_diff_format_to_r` cannot check: a pointer
narrower than `short_buffer` and line contents shorter than `SIZE_MAX`, the
two conditions under which the content copy is in bounds
(`lineContent_in_bounds`), and `dest` a `git_diff` object, as every caller in
`git2r_diff.c` creates it. -/

namespace Git2r

section Format
variable {s : Machine} {dest : Nat} {old new files : Sexp}

/-- The layout `git2r_diff_format_to_r` gives the pass on a heap of `start`
cells, for the counts of the first walk. -/
def formatLayout (dest : Nat) (old new : Sexp) (start : Nat) (counts : DiffCount) : Layout :=
  ⟨dest, old, new, start, counts.numFiles, counts.maxHunks, counts.maxLines⟩

/-- The allocations give three fresh lists of the counted lengths, `result`
in `dest`'s `files`, and a payload at zero: the empty staging value, in
lockstep with a zeroed counter. -/
theorem diffFormatAlloc_represents (counts : DiffCount) (held : s.heap[dest]? = some (.diff old new files)) :
    ∃ s₀, (diffFormatAlloc counts (.ref dest)).run s = some ((), s₀) ∧
      Represents (formatLayout dest old new s.heap.length counts) s₀ {} ∧ Lockstep s₀.payload {} := by
  have inside : dest < s.heap.length := (List.getElem?_eq_some_iff.mp held).1
  have lists (i : Nat) (c : Cell) (cs : List Cell) :
      (s.heap.set dest (.diff old new (.ref s.heap.length)) ++ c :: cs)[s.heap.length + i]? = (c :: cs)[i]? := by
    rw [List.getElem?_append_right (by simp)]
    simp
  refine ⟨⟨s.heap.set dest (.diff old new (.ref s.heap.length)) ++ [.vec (.replicate counts.numFiles .nil),
      .vec (.replicate counts.maxHunks .nil), .vec (.replicate counts.maxLines .nil)], s.shortBuffer,
      ⟨.ref s.heap.length, .ref (s.heap.length + 1), .ref (s.heap.length + 2), 0, 0, 0⟩⟩, ?_, ⟨?_, ⟨rfl, rfl, rfl⟩,
    s.heap.length + 3, s.heap.length + 3, le_rfl, le_rfl, by simp, rfl, rfl, rfl, rfl⟩, rfl, rfl, rfl⟩
  · simp [diffFormatAlloc, StateT.run_bind, setSlot_append_run _ held, Cell.setSlot, setPayload_run]
  · have result := lists 0
    have hunkTmp := lists 1
    have lineTmp := lists 2
    simp only [Nat.add_zero] at result
    refine ⟨inside, by simp [formatLayout, Layout.base], ?_, ?_, ?_, ?_, ?_, ?_, ?_⟩ <;>
      simp [formatLayout, Layout.result, Layout.hunkTmp, Layout.lineTmp, Heap.elems, result, hunkTmp, lineTmp,
        List.getElem?_append_left, inside]

/-- Once the last file is committed and `file_ptr` has reached the length of
`result`, `dest` reads back as the committed files. -/
theorem Committed.readFiles_dest {lay : Layout} {files : List DiffFileObj} (committed : Committed lay s files)
    (full : s.payload.filePtr = lay.numFiles) : readFiles s.heap.mem (.ref lay.dest) = some files := by
  obtain ⟨framed, -, count, read⟩ := committed
  have whole : (s.heap.elems lay.result).take files.length = s.heap.elems lay.result :=
    List.take_of_length_le (by rw [framed.numFiles]; omega)
  rw [whole] at read
  simp only [Git2r.readFiles, Heap.mem, framed.dest, readVec, framed.result, Option.bind_eq_bind, Option.some_bind]
  exact mapM_mono (fun _ _ => readFile_mono view_le_mem) read

/-- `git2r_diff_format_to_r` returns `0` on every list of events, well formed
or not, with every file the staging model commits committed, and `file_ptr`
at the length of `result`. -/
theorem diffFormatToR_committed (dm : DataModel) (narrow : dm.pointerSize < shortBufferSize) (es : List Event)
    (resident : ∀ line, Event.line line ∈ es → line.content.length < dm.sizeMax) (held : s.heap[dest]? = some (.diff old new files)) :
    let n := ({} : DiffCountPayload).run es
    ∃ s', (diffFormatToR dm es (.ref dest)).run s = some (0, s') ∧
      Committed (formatLayout dest old new s.heap.length ⟨n.numFiles, n.maxHunks, n.maxLines⟩) s'
        (({} : Staging).run es).committedFiles ∧ s'.payload.filePtr = n.numFiles := by
  intro n
  obtain ⟨s₀, alloc, rep₀, lock₀⟩ := diffFormatAlloc_represents ⟨n.numFiles, n.maxHunks, n.maxLines⟩ held
  obtain ⟨s₁, walk, rep₁, lock₁⟩ := diffForeach_represents dm narrow es rep₀ lock₀ ⟨le_rfl, le_rfl, le_rfl⟩ resident
  obtain ⟨heap', final, committed⟩ := diffGetFileCb_none_committed rep₁
  refine ⟨_, ?_, committed, lock₁.files⟩
  simp only [diffFormatToR, diffCount_eq, StateT.run_bind, alloc, walk, Option.bind_eq_bind, Option.some_bind,
    ite_true, final]

/-- On the walk of a diff, `git2r_diff_format_to_r` returns `0` and the `files`
of `dest` read back as the diff: one file object per patch in order, with
its paths, its own hunks in order and each hunk's own lines in order, each
line's content up to its first zero byte. -/
theorem diffFormatToR_walk (dm : DataModel) (narrow : dm.pointerSize < shortBufferSize) (d : List Patch)
    (resident : ∀ line, Event.line line ∈ walk d → line.content.length < dm.sizeMax)
    (held : s.heap[dest]? = some (.diff old new files)) :
    ∃ s', (diffFormatToR dm (walk d) (.ref dest)).run s = some (0, s') ∧
      readFiles s'.heap.mem (.ref dest) = some (d.map Patch.toObj) := by
  obtain ⟨s', run, committed, full⟩ := diffFormatToR_committed dm narrow (walk d) resident held
  rw [Staging.committedFiles_walk] at committed
  exact ⟨s', run, committed.readFiles_dest full⟩

/-- On any list of events, well formed or not, the `files` of `dest` read back
as the files the staging model commits: the materializing pass refines
`Staging`. Lines before the first hunk of a file and hunks before the first
file are staged and then dropped, as the model drops them. -/
theorem diffFormatToR_reads_staging (dm : DataModel) (narrow : dm.pointerSize < shortBufferSize)
    (es : List Event) (resident : ∀ line, Event.line line ∈ es → line.content.length < dm.sizeMax)
    (held : s.heap[dest]? = some (.diff old new files)) :
    ∃ s', (diffFormatToR dm es (.ref dest)).run s = some (0, s') ∧
      readFiles s'.heap.mem (.ref dest) = some (({} : Staging).run es).committedFiles := by
  obtain ⟨s', run, committed, full⟩ := diffFormatToR_committed dm narrow es resident held
  exact ⟨s', run, committed.readFiles_dest full⟩

theorem diffFormatToR_reads_staging_stray_events :
    let es : List Event := [.line ⟨32, 1, 1, 1, [97]⟩, .hunk ⟨1, 1, 1, 1, .empty⟩, .file ⟨⟨.empty⟩, ⟨.empty⟩⟩,
      .line ⟨32, 1, 1, 1, [97]⟩, .hunk ⟨2, 1, 2, 1, .empty⟩, .line ⟨43, 2, 2, 1, [98]⟩]
    DataModel.lp64.pointerSize < shortBufferSize ∧
      (∀ line, Event.line line ∈ es → line.content.length < DataModel.lp64.sizeMax) ∧
      ([.diff .nil .nil .nil] : Heap)[0]? = some (.diff .nil .nil .nil) ∧
      ∃ s', (diffFormatToR .lp64 es (.ref 0)).run ⟨[.diff .nil .nil .nil], fun _ => none, ⟨.nil, .nil, .nil, 0, 0, 0⟩⟩ =
          some (0, s') ∧
        readFiles s'.heap.mem (.ref 0) = some (({} : Staging).run es).committedFiles := by
  intro es
  have resident : ∀ line, Event.line line ∈ es → line.content.length < DataModel.lp64.sizeMax :=
    lines_shorter_of_all (by decide)
  exact ⟨by decide, resident, rfl, diffFormatToR_reads_staging .lp64 (by decide) es resident rfl⟩

theorem diffFormatToR_walk_two_files :
    let d : List Patch :=
      [⟨⟨⟨.ofBytes [97]⟩, ⟨.ofBytes [97]⟩⟩,
          [⟨⟨1, 2, 1, 2, .empty⟩, [⟨32, 1, 1, 1, [97]⟩, ⟨45, 2, -1, 1, [98]⟩, ⟨43, -1, 2, 1, [99]⟩]⟩,
            ⟨⟨10, 1, 10, 1, .empty⟩, [⟨43, -1, 10, 1, [104, 0, 105]⟩]⟩]⟩,
        ⟨⟨⟨.ofBytes [98]⟩, ⟨.ofBytes [98]⟩⟩,
          [⟨⟨1, 0, 1, 2, .empty⟩, [⟨43, -1, 1, 1, [100]⟩, ⟨43, -1, 2, 1, []⟩]⟩]⟩]
    DataModel.lp64.pointerSize < shortBufferSize ∧
      (∀ line, Event.line line ∈ walk d → line.content.length < DataModel.lp64.sizeMax) ∧
      ([.diff .nil .nil .nil] : Heap)[0]? = some (.diff .nil .nil .nil) ∧
      ∃ s', (diffFormatToR .lp64 (walk d) (.ref 0)).run
          ⟨[.diff .nil .nil .nil], fun _ => none, ⟨.nil, .nil, .nil, 0, 0, 0⟩⟩ = some (0, s') ∧
        readFiles s'.heap.mem (.ref 0) = some (d.map Patch.toObj) := by
  intro d
  have resident : ∀ line, Event.line line ∈ walk d → line.content.length < DataModel.lp64.sizeMax :=
    lines_shorter_of_all (by decide)
  exact ⟨by decide, resident, rfl, diffFormatToR_walk .lp64 (by decide) d resident rfl⟩

/-- `git2r_diff_format_to_r` on any list of events, well formed or not. Its
second walk stays in lockstep with the counting pass: after every prefix of
the events the materializer has returned `0`, the rest of the walk continues
from where the prefix left it, `file_ptr`, `hunk_ptr` and `line_ptr` are the
counter's `num_files`, `num_hunks` and `num_lines`, they are within the
lengths allocated from the counts, so no write or read of the three vectors
falls outside them, and every staged index holds an object the pass built
(`Represents`). At the end every slot of `files` holds a file object. -/
theorem diffFormatToR_lockstep (dm : DataModel) (narrow : dm.pointerSize < shortBufferSize) (es : List Event)
    (resident : ∀ line, Event.line line ∈ es → line.content.length < dm.sizeMax) (held : s.heap[dest]? = some (.diff old new files)) :
    let n := ({} : DiffCountPayload).run es
    let lay := formatLayout dest old new s.heap.length ⟨n.numFiles, n.maxHunks, n.maxLines⟩
    ∃ s₀, (diffFormatAlloc ⟨n.numFiles, n.maxHunks, n.maxLines⟩ (.ref dest)).run s = some ((), s₀) ∧
      (∀ pre post, es = pre ++ post → ∃ s', (diffForeach (diffGetCallbacks dm) pre).run s₀ = some (0, s') ∧
        (diffForeach (diffGetCallbacks dm) es).run s₀ = (diffForeach (diffGetCallbacks dm) post).run s' ∧
        Lockstep s'.payload (({} : DiffCountPayload).run pre) ∧
        s'.payload.filePtr ≤ lay.numFiles ∧ s'.payload.hunkPtr ≤ lay.maxHunks ∧ s'.payload.linePtr ≤ lay.maxLines ∧
        Represents lay s' (({} : Staging).run pre)) ∧
      ∃ s', (diffFormatToR dm es (.ref dest)).run s = some (0, s') ∧
        ∃ files, readFiles s'.heap.mem (.ref dest) = some files ∧ files.length = lay.numFiles := by
  intro n lay
  obtain ⟨s₀, alloc, rep₀, lock₀⟩ := diffFormatAlloc_represents ⟨n.numFiles, n.maxHunks, n.maxLines⟩ held
  refine ⟨s₀, alloc, fun pre post split => ?_, ?_⟩
  · have fits : Fits lay ((({} : DiffCountPayload).run pre).run post) := by
      rw [← DiffCountPayload.run_append, ← split]
      exact ⟨le_rfl, le_rfl, le_rfl⟩
    obtain ⟨s', walk, rep', lock'⟩ := diffForeach_represents dm narrow pre rep₀ lock₀ fits.of_run
      (fun line mem => resident line (split ▸ List.mem_append_left post mem))
    obtain ⟨files, hunks, lines⟩ := lock'.within (CountOk.run ⟨le_rfl, le_rfl⟩ pre) fits.of_run
    refine ⟨s', walk, ?_, lock', files, hunks, lines, rep'⟩
    rw [split, diffForeach_append, StateT.run_bind, walk]
    simp
  · obtain ⟨s', run, committed, full⟩ := diffFormatToR_committed dm narrow es resident held
    exact ⟨s', run, _, committed.readFiles_dest full, committed.saved.1 ▸ full⟩

theorem diffFormatToR_lockstep_stray_events :
    DataModel.lp64.pointerSize < shortBufferSize ∧
      (∀ line, Event.line line ∈ [.line ⟨32, 1, 1, 1, [97]⟩, .hunk ⟨1, 1, 1, 1, .empty⟩, .file ⟨⟨.empty⟩, ⟨.empty⟩⟩,
        .hunk ⟨1, 1, 1, 1, .empty⟩, .line ⟨32, 1, 1, 1, [97]⟩] → line.content.length < DataModel.lp64.sizeMax) ∧
      ([.diff .nil .nil .nil] : Heap)[0]? = some (.diff .nil .nil .nil) ∧
      let es : List Event := [.line ⟨32, 1, 1, 1, [97]⟩, .hunk ⟨1, 1, 1, 1, .empty⟩, .file ⟨⟨.empty⟩, ⟨.empty⟩⟩,
        .hunk ⟨1, 1, 1, 1, .empty⟩, .line ⟨32, 1, 1, 1, [97]⟩]
      let s : Machine := ⟨[.diff .nil .nil .nil], fun _ => none, ⟨.nil, .nil, .nil, 0, 0, 0⟩⟩
      let n := ({} : DiffCountPayload).run es
      let lay := formatLayout 0 .nil .nil s.heap.length ⟨n.numFiles, n.maxHunks, n.maxLines⟩
      ∃ s₀, (diffFormatAlloc ⟨n.numFiles, n.maxHunks, n.maxLines⟩ (.ref 0)).run s = some ((), s₀) ∧
        (∀ pre post, es = pre ++ post → ∃ s', (diffForeach (diffGetCallbacks .lp64) pre).run s₀ = some (0, s') ∧
          (diffForeach (diffGetCallbacks .lp64) es).run s₀ = (diffForeach (diffGetCallbacks .lp64) post).run s' ∧
          Lockstep s'.payload (({} : DiffCountPayload).run pre) ∧
          s'.payload.filePtr ≤ lay.numFiles ∧ s'.payload.hunkPtr ≤ lay.maxHunks ∧
          s'.payload.linePtr ≤ lay.maxLines ∧ Represents lay s' (({} : Staging).run pre)) ∧
        ∃ s', (diffFormatToR .lp64 es (.ref 0)).run s = some (0, s') ∧
          ∃ files, readFiles s'.heap.mem (.ref 0) = some files ∧ files.length = lay.numFiles :=
  have resident : ∀ line, Event.line line ∈ ([.line ⟨32, 1, 1, 1, [97]⟩, .hunk ⟨1, 1, 1, 1, .empty⟩,
      .file ⟨⟨.empty⟩, ⟨.empty⟩⟩, .hunk ⟨1, 1, 1, 1, .empty⟩, .line ⟨32, 1, 1, 1, [97]⟩] : List Event) →
        line.content.length < DataModel.lp64.sizeMax :=
    lines_shorter_of_all (by decide)
  ⟨by decide, resident, rfl, diffFormatToR_lockstep .lp64 (by decide) _ resident rfl⟩

end Format

end Git2r
