import Git2r.Materialize

/-! The materializing pass refines `Staging`. `Represents lay s st` ties a
machine between two callbacks to a staging value: the three vectors sit where
`git2r_diff_format_to_r` put them with the lengths it gave them (`Framed`),
and `result[0 .. file_ptr)`, `hunk_tmp[0 .. hunk_ptr)` and
`line_tmp[0 .. line_ptr)` read back as the staged files, hunks and lines
(`FilesStaged`, `HunksStaged`, `LinesStaged`).

Objects are read through views of the heap. Everything the pass builds lies
above `base`, and it is built in address order: the committed files lie below
the open file's object, the closed hunks between it and the open hunk's
object, the staged lines above that. The callbacks write only to the three
vectors below `base`, to the open file and the open hunk, and at the end of
the heap, so each staged object is read in a range no later write touches;
`fileMark` and `hunkMark` are the boundaries between the ranges.

Each callback keeps the relation and steps `Staging` (`diffGetFileCb_represents`,
`diffGetHunkCb_represents`, `diffGetLineCb_represents`), as long as the index
it writes at is below the length of its vector. That bound comes from the
counting pass: the indices are the counter's running counts
(`Lockstep`), and the vectors were sized by the counts of the whole walk
(`Fits`). `diffForeach_represents` runs the relation over a whole walk. -/

namespace Git2r

/-- Where `git2r_diff_format_to_r` put the pass: `dest` already on the heap,
with `old` and `new` in its slots of those names, then `result`, `hunk_tmp`
and `line_tmp` allocated from `start` on, with the lengths the counting pass
gave. Everything else the pass makes lies at `base` or above. -/
structure Layout where
  dest : Nat
  old : Sexp
  new : Sexp
  start : Nat
  numFiles : Nat
  maxHunks : Nat
  maxLines : Nat

namespace Layout
variable (lay : Layout)

/-- The address of `result`. -/
def result : Nat := lay.start

/-- The address of `hunk_tmp`. -/
def hunkTmp : Nat := lay.start + 1

/-- The address of `line_tmp`. -/
def lineTmp : Nat := lay.start + 2

/-- The first address of the pass's objects. -/
def base : Nat := lay.start + 3

end Layout

/-- The pass's fixed frame on the heap: `dest.files` is `result`, and the three
vectors keep their lengths. -/
structure Framed (lay : Layout) (heap : Heap) : Prop where
  dest_lt : lay.dest < lay.start
  size : lay.base ≤ heap.length
  dest : heap[lay.dest]? = some (.diff lay.old lay.new (.ref lay.result))
  result : heap[lay.result]? = some (.vec (heap.elems lay.result))
  hunkTmp : heap[lay.hunkTmp]? = some (.vec (heap.elems lay.hunkTmp))
  lineTmp : heap[lay.lineTmp]? = some (.vec (heap.elems lay.lineTmp))
  numFiles : (heap.elems lay.result).length = lay.numFiles
  maxHunks : (heap.elems lay.hunkTmp).length = lay.maxHunks
  maxLines : (heap.elems lay.lineTmp).length = lay.maxLines

/-- The payload points at the three vectors. -/
structure Points (lay : Layout) (p : DiffPayload) : Prop where
  result : p.result = .ref lay.result
  hunkTmp : p.hunkTmp = .ref lay.hunkTmp
  lineTmp : p.lineTmp = .ref lay.lineTmp

/-- `result[0 .. file_ptr)`: the committed files, read in `[base, fa)`, then
the open file's object at `fa`, below `fileMark`. -/
def FilesStaged (lay : Layout) (heap : Heap) (fileMark filePtr : Nat) :
    Option (List DiffFileObj × DiffDelta) → Prop
  | none => filePtr = 0
  | some (files, delta) => filePtr = files.length + 1 ∧ ∃ fa, lay.base ≤ fa ∧ fa < fileMark ∧
      (heap.elems lay.result)[files.length]? = some (.ref fa) ∧ heap[fa]? = some (fileCell delta .nil) ∧
      ((heap.elems lay.result).take files.length).mapM (readFile (heap.view lay.base fa)) = some files

/-- `hunk_tmp[0 .. hunk_ptr)`: the closed hunks, read in `[fileMark, ha)`,
then the open hunk's object at `ha`, below `hunkMark`. -/
def HunksStaged (lay : Layout) (heap : Heap) (fileMark hunkMark hunkPtr : Nat) :
    Option (List DiffHunkObj × DiffHunk) → Prop
  | none => hunkPtr = 0
  | some (hunks, hunk) => hunkPtr = hunks.length + 1 ∧ ∃ ha, fileMark ≤ ha ∧ ha < hunkMark ∧
      (heap.elems lay.hunkTmp)[hunks.length]? = some (.ref ha) ∧ heap[ha]? = some (hunkCell hunk .nil) ∧
      ((heap.elems lay.hunkTmp).take hunks.length).mapM (readHunk (heap.view fileMark ha)) = some hunks

/-- `line_tmp[0 .. line_ptr)`: the staged lines, read from `hunkMark` on. -/
def LinesStaged (lay : Layout) (heap : Heap) (hunkMark linePtr : Nat) (lines : List DiffLineObj) : Prop :=
  linePtr = lines.length ∧
    ((heap.elems lay.lineTmp).take lines.length).mapM (readLine (heap.view hunkMark heap.length)) = some lines

/-- The machine between two callbacks holds what the staging value says. -/
structure Represents (lay : Layout) (s : Machine) (st : Staging) : Prop where
  framed : Framed lay s.heap
  points : Points lay s.payload
  staged : ∃ fileMark hunkMark, lay.base ≤ fileMark ∧ fileMark ≤ hunkMark ∧ hunkMark ≤ s.heap.length ∧
    FilesStaged lay s.heap fileMark s.payload.filePtr st.fileStage ∧
    HunksStaged lay s.heap fileMark hunkMark s.payload.hunkPtr st.hunkStage ∧
    LinesStaged lay s.heap hunkMark s.payload.linePtr st.lines

/-- `hunk_tmp[0 .. hunk_ptr)` after `saveLines`: the hunks of the open file,
each with its lines, all read from `fileMark` on. -/
def HunksSaved (lay : Layout) (heap : Heap) (fileMark hunkPtr : Nat) (hunks : List DiffHunkObj) : Prop :=
  hunkPtr = hunks.length ∧
    ((heap.elems lay.hunkTmp).take hunks.length).mapM (readHunk (heap.view fileMark heap.length)) = some hunks

/-- The machine after `saveLines`: the open hunk is closed. -/
structure Saved (lay : Layout) (s : Machine) (st : Staging) : Prop where
  framed : Framed lay s.heap
  points : Points lay s.payload
  staged : ∃ fileMark, lay.base ≤ fileMark ∧ fileMark ≤ s.heap.length ∧
    FilesStaged lay s.heap fileMark s.payload.filePtr st.fileStage ∧
    HunksSaved lay s.heap fileMark s.payload.hunkPtr st.closedHunks

/-- `result[0 .. file_ptr)` after `saveHunks`: files with their hunks, all read
from `base` on. -/
def FilesSaved (lay : Layout) (heap : Heap) (filePtr : Nat) (files : List DiffFileObj) : Prop :=
  filePtr = files.length ∧
    ((heap.elems lay.result).take files.length).mapM (readFile (heap.view lay.base heap.length)) = some files

/-- The machine after `saveHunks`: the open file is committed. -/
structure Committed (lay : Layout) (s : Machine) (files : List DiffFileObj) : Prop where
  framed : Framed lay s.heap
  points : Points lay s.payload
  saved : FilesSaved lay s.heap s.payload.filePtr files

/-! ### Lists -/

section Lists
variable {α β : Type} {f : α → Option β} {l : List α} {n : Nat}

theorem mapM_length : ∀ {l : List α} {r : List β}, l.mapM f = some r → r.length = l.length
  | [], r, read => by simp only [List.mapM_nil, Option.pure_def, Option.some.injEq] at read; simp [← read]
  | x :: l, r, read => by
    simp only [List.mapM_cons, Option.bind_eq_bind, Option.bind_eq_some, Option.pure_def,
      Option.some.injEq] at read
    obtain ⟨y, -, ys, tail, rfl⟩ := read
    simp [mapM_length tail]

/-- A prefix that reads back in full is a prefix of the list. -/
theorem le_length_of_mapM_take {r : List β} (read : (l.take n).mapM f = some r) (full : r.length = n) :
    n ≤ l.length := by
  have same := mapM_length read
  simp only [List.length_take] at same
  omega

theorem take_set_self (x : α) : (l.set n x).take n = l.take n := by
  rw [List.set_take, List.set_eq_of_length_le (List.length_take_le n l)]

theorem mapM_take_succ {x : α} {r : List β} {y : β} (at_n : l[n]? = some x)
    (init : (l.take n).mapM f = some r) (last : f x = some y) :
    (l.take (n + 1)).mapM f = some (r ++ [y]) := by
  rw [List.take_succ, at_n, Option.toList_some, List.mapM_append, init]
  simp only [List.mapM_cons, List.mapM_nil, last, Option.bind_eq_bind, Option.some_bind, Option.pure_def]

end Lists

/-! ### Heaps after a write and an allocation -/

section Shapes
variable {heap : Heap} {a b lo hi : Nat} {c : Cell} {cs : List Cell}

theorem elems_set_append_ne (inside : b < heap.length) (other : a ≠ b) :
    Heap.elems (heap.set a c ++ cs) b = heap.elems b := by
  simp only [Heap.elems, getElem?_set_append_ne inside other]

theorem elems_set_append_self (inside : a < heap.length) (elems : List Sexp) :
    Heap.elems (heap.set a (.vec elems) ++ cs) a = elems := by
  simp only [Heap.elems, getElem?_set_append_self inside]

theorem view_set_append (outside : a < lo ∨ hi ≤ a) (high : hi ≤ heap.length) :
    Heap.view (heap.set a c ++ cs) lo hi = heap.view lo hi := by
  rw [view_append cs (by simpa using high), view_set outside]

/-- A read in a range of the heap still succeeds after a write outside it, on
a range that takes in the allocations after it. -/
theorem view_le_set_append {lo' hi' : Nat} (outside : a < lo ∨ hi ≤ a) (high : hi ≤ heap.length)
    (low : lo' ≤ lo) (higher : hi ≤ hi') : (heap.view lo hi).Le (Heap.view (heap.set a c ++ cs) lo' hi') := by
  rw [← view_set_append outside high]
  exact view_le_view low higher

/-- The object a write put in place, read in a range that holds it. -/
theorem view_set_append_at {c' : Cell} (low : lo ≤ a) (inside : a < heap.length) :
    Heap.view (heap.set a c ++ [c']) lo (heap.length + 1) a = some c := by
  rw [view_of_mem low (by omega), getElem?_set_append_self inside]

/-- The cell allocated after a write, read in a range that holds it. -/
theorem view_append_last {c' : Cell} (low : lo ≤ heap.length) :
    Heap.view (heap.set a c ++ [c']) lo (heap.length + 1) heap.length = some c' := by
  rw [view_of_mem low (by omega)]
  simp

end Shapes

/-! ### Reading back what the pass builds -/

section ReadBack
variable {m : Mem} {a b : Nat} {elems : List Sexp}

theorem readLine_lineCell {line : DiffLine} (cell : m a = some (lineCell line (CString.ofBytes line.content))) :
    readLine m (.ref a) = some line.toObj := by
  simp [readLine, cell, lineCell, readInt, readStr, DiffLine.toObj]

theorem readHunk_hunkCell {hunk : DiffHunk} {lines : List DiffLineObj}
    (cell : m a = some (hunkCell hunk (.ref b))) (vec : m b = some (.vec elems))
    (read : elems.mapM (readLine m) = some lines) : readHunk m (.ref a) = some (hunk.toObj lines) := by
  simp only [readHunk, cell, hunkCell, readInt, readStr, readVec, vec, read, Option.bind_eq_bind,
    Option.some_bind, Option.pure_def]
  rfl

theorem readFile_fileCell {delta : DiffDelta} {hunks : List DiffHunkObj}
    (cell : m a = some (fileCell delta (.ref b))) (vec : m b = some (.vec elems))
    (read : elems.mapM (readHunk m) = some hunks) : readFile m (.ref a) = some (delta.toObj hunks) := by
  simp only [readFile, cell, fileCell, readStr, readVec, vec, read, Option.bind_eq_bind, Option.some_bind,
    Option.pure_def]
  rfl

end ReadBack

/-! ### The frame survives every write of the pass -/

namespace Framed
variable {lay : Layout} {heap : Heap} {a : Nat} {cs : List Cell}

/-- The frame's addresses in order, all below `base`. -/
theorem order (framed : Framed lay heap) :
    lay.dest < lay.result ∧ lay.result < lay.hunkTmp ∧ lay.hunkTmp < lay.lineTmp ∧ lay.lineTmp < lay.base ∧
      lay.base ≤ heap.length := by
  have := framed.dest_lt
  simp only [Layout.base, Layout.result, Layout.hunkTmp, Layout.lineTmp]
  exact ⟨this, by omega, by omega, by omega, framed.size⟩

/-- A write to an object of the pass leaves the frame alone. -/
theorem set_above (framed : Framed lay heap) (above : lay.base ≤ a) (c : Cell) :
    Framed lay (heap.set a c ++ cs) := by
  obtain ⟨dest, result, hunkTmp, lineTmp, size⟩ := framed.order
  have elems (b : Nat) (low : b < lay.base) : Heap.elems (heap.set a c ++ cs) b = heap.elems b :=
    elems_set_append_ne (by omega) (by omega)
  refine ⟨framed.dest_lt, by simp; omega, ?_, ?_, ?_, ?_, ?_, ?_, ?_⟩
  · rw [getElem?_set_append_ne (by omega) (by omega), framed.dest]
  · rw [getElem?_set_append_ne (by omega) (by omega), elems _ (by omega), framed.result]
  · rw [getElem?_set_append_ne (by omega) (by omega), elems _ (by omega), framed.hunkTmp]
  · rw [getElem?_set_append_ne (by omega) (by omega), elems _ (by omega), framed.lineTmp]
  · rw [elems _ (by omega), framed.numFiles]
  · rw [elems _ (by omega), framed.maxHunks]
  · rw [elems _ (by omega), framed.maxLines]

/-- A write of a list as long as the one it replaces leaves the frame alone,
unless it lands on `dest`. -/
theorem set_vec (framed : Framed lay heap) {v : Nat} (keep : v ≠ lay.dest) {elems : List Sexp}
    (same : elems.length = (heap.elems v).length) : Framed lay (heap.set v (.vec elems) ++ cs) := by
  obtain ⟨dest, result, hunkTmp, lineTmp, size⟩ := framed.order
  have cell (b : Nat) (low : b < lay.base) :
      (heap.set v (.vec elems) ++ cs)[b]? = if v = b then some (.vec elems) else heap[b]? := by
    split_ifs with at_v
    · subst at_v; exact getElem?_set_append_self (by omega)
    · exact getElem?_set_append_ne (by omega) at_v
  have vec (b : Nat) (low : b < lay.base) :
      Heap.elems (heap.set v (.vec elems) ++ cs) b = if v = b then elems else heap.elems b := by
    simp only [Heap.elems, cell b low]
    split_ifs <;> rfl
  have slot (b : Nat) (low : b < lay.base) (held : heap[b]? = some (.vec (heap.elems b))) :
      (heap.set v (.vec elems) ++ cs)[b]? = some (.vec (Heap.elems (heap.set v (.vec elems) ++ cs) b)) := by
    rw [cell b low, vec b low]
    split_ifs
    · rfl
    · exact held
  have length (b : Nat) (low : b < lay.base) {n : Nat} (len : (heap.elems b).length = n) :
      (Heap.elems (heap.set v (.vec elems) ++ cs) b).length = n := by
    rw [vec b low]
    split_ifs with at_v
    · rw [same, at_v, len]
    · exact len
  exact ⟨framed.dest_lt, by simp; omega, by rw [cell _ (by omega), if_neg keep, framed.dest],
    slot _ (by omega) framed.result, slot _ (by omega) framed.hunkTmp, slot _ (by omega) framed.lineTmp,
    length _ (by omega) framed.numFiles, length _ (by omega) framed.maxHunks, length _ (by omega) framed.maxLines⟩

end Framed

/-! ### Staged objects survive writes outside their ranges -/

section Frames
variable {lay : Layout} {heap : Heap} {a fileMark hunkMark ptr : Nat} {c : Cell} {cs : List Cell}

theorem FilesStaged.set_append {stage : Option (List DiffFileObj × DiffDelta)}
    (files : FilesStaged lay heap fileMark ptr stage) (framed : Framed lay heap)
    (outside : a < lay.base ∨ fileMark ≤ a) (keep : a ≠ lay.result) (high : fileMark ≤ heap.length) :
    FilesStaged lay (heap.set a c ++ cs) fileMark ptr stage := by
  rcases stage with _ | ⟨done, delta⟩
  · exact files
  · obtain ⟨count, fa, low, below, opened, held, read⟩ := files
    have result : lay.result < heap.length := by have := framed.order; omega
    refine ⟨count, fa, low, below, ?_, ?_, ?_⟩
    · rwa [elems_set_append_ne result keep]
    · rwa [getElem?_set_append_ne (by omega) (by omega)]
    · rwa [elems_set_append_ne result keep, view_set_append (by omega) (by omega)]

theorem HunksStaged.set_append {stage : Option (List DiffHunkObj × DiffHunk)}
    (hunks : HunksStaged lay heap fileMark hunkMark ptr stage) (framed : Framed lay heap)
    (outside : a < fileMark ∨ hunkMark ≤ a) (keep : a ≠ lay.hunkTmp) (high : hunkMark ≤ heap.length) :
    HunksStaged lay (heap.set a c ++ cs) fileMark hunkMark ptr stage := by
  rcases stage with _ | ⟨closed, hunk⟩
  · exact hunks
  · obtain ⟨count, ha, low, below, opened, held, read⟩ := hunks
    have hunkTmp : lay.hunkTmp < heap.length := by have := framed.order; omega
    refine ⟨count, ha, low, below, ?_, ?_, ?_⟩
    · rwa [elems_set_append_ne hunkTmp keep]
    · rwa [getElem?_set_append_ne (by omega) (by omega)]
    · rwa [elems_set_append_ne hunkTmp keep, view_set_append (by omega) (by omega)]

end Frames

/-! ### Each part of a callback keeps the relation -/

section Steps
variable {lay : Layout} {s : Machine}

/-- `saveLines` closes the open hunk: its object gets the staged lines. -/
theorem saveLines_saved {st : Staging} (rep : Represents lay s st) :
    ∃ heap', saveLines.run s = some ((), { s with heap := heap' }) ∧ Saved lay { s with heap := heap' } st := by
  obtain ⟨framed, points, fm, hm, base_fm, fm_hm, hm_len, files, hunks, lines⟩ := rep
  rcases st with ⟨fileStage, _ | ⟨closed, hunk⟩, staged⟩
  · exact ⟨s.heap, saveLines_run_of_zero hunks, framed, points, fm, base_fm, fm_hm.trans hm_len, files, hunks, rfl⟩
  · dsimp only at hunks lines
    obtain ⟨count, ha, fm_ha, ha_hm, opened, held, read⟩ := hunks
    obtain ⟨lineCount, linesRead⟩ := lines
    rw [← lineCount] at linesRead
    obtain ⟨dest, result, hunkTmp, lineTmp, size⟩ := framed.order
    have run := saveLines_run (by omega) points.hunkTmp points.lineTmp framed.hunkTmp
      (by rw [count]; exact opened) held framed.lineTmp (le_length_of_mapM_take linesRead lineCount.symm) (by omega)
    refine ⟨_, run, framed.set_above (by omega) _, points, fm, base_fm, by simp; omega,
      files.set_append framed (.inr fm_ha) (by omega) (by omega), by simp [Staging.closedHunks, count], ?_⟩
    simp only [Staging.closedHunks, List.length_append, List.length_singleton, List.length_set,
      elems_set_append_ne (by omega : lay.hunkTmp < s.heap.length) (by omega : ha ≠ lay.hunkTmp)]
    exact mapM_take_succ opened
      (mapM_mono (fun _ _ => readHunk_mono (view_le_set_append (.inr le_rfl) (by omega) le_rfl (by omega))) read)
      (readHunk_hunkCell (view_set_append_at fm_ha (by omega)) (view_append_last (by omega))
        (mapM_mono (fun _ _ => readLine_mono (view_le_set_append (.inl ha_hm) le_rfl fm_hm (by simp))) linesRead))

/-- `newHunk` opens a hunk after the closed ones, with no lines staged. -/
theorem newHunk_represents {st : Staging} (saved : Saved lay s st) (room : s.payload.hunkPtr < lay.maxHunks)
    (hunk : DiffHunk) :
    ∃ heap', (newHunk hunk).run s = some ((), { s with
        heap := heap'
        payload := { s.payload with hunkPtr := s.payload.hunkPtr + 1, linePtr := 0 } }) ∧
      Represents lay { s with
        heap := heap'
        payload := { s.payload with hunkPtr := s.payload.hunkPtr + 1, linePtr := 0 } } (st.step (.hunk hunk)) := by
  obtain ⟨framed, points, fm, base_fm, fm_len, files, count, read⟩ := saved
  obtain ⟨dest, result, hunkTmp, lineTmp, size⟩ := framed.order
  have bound : s.payload.hunkPtr < (s.heap.elems lay.hunkTmp).length := by rw [framed.maxHunks]; exact room
  refine ⟨_, newHunk_run hunk points.hunkTmp framed.hunkTmp bound,
    framed.set_vec (by omega) (List.length_set ..), ⟨points.result, points.hunkTmp, points.lineTmp⟩,
    fm, s.heap.length + 1, base_fm, by omega, by simp,
    files.set_append framed (.inl (by omega)) (by omega) fm_len, ?_, rfl, rfl⟩
  refine ⟨by rw [count], s.heap.length, fm_len, by omega, ?_, getElem?_set_append_length _, ?_⟩
  · rw [elems_set_append_self (by omega), ← count]
    exact List.getElem?_set_self bound
  · rw [elems_set_append_self (by omega), ← count, take_set_self, view_set_append (.inl (by omega)) le_rfl]
    rwa [count]

/-- `saveHunks` commits the open file: its object gets the closed hunks. -/
theorem saveHunks_committed {st : Staging} (saved : Saved lay s st) :
    ∃ heap', saveHunks.run s = some ((), { s with heap := heap' }) ∧
      Committed lay { s with heap := heap' } st.committedFiles := by
  obtain ⟨framed, points, fm, base_fm, fm_len, files, count, read⟩ := saved
  rcases st with ⟨_ | ⟨done, delta⟩, hunkStage, staged⟩
  · exact ⟨s.heap, saveHunks_run_of_zero files, framed, points, files, rfl⟩
  · dsimp only at files
    obtain ⟨fileCount, fa, base_fa, fa_fm, opened, held, doneRead⟩ := files
    obtain ⟨dest, result, hunkTmp, lineTmp, size⟩ := framed.order
    rw [← count] at read
    have run := saveHunks_run (by omega) points.result points.hunkTmp framed.result
      (by rw [fileCount]; exact opened) held framed.hunkTmp (le_length_of_mapM_take read count.symm) (by omega)
    refine ⟨_, run, framed.set_above base_fa _, points, by simp [Staging.committedFiles, fileCount], ?_⟩
    simp only [Staging.committedFiles, List.length_append, List.length_singleton, List.length_set,
      elems_set_append_ne (by omega : lay.result < s.heap.length) (by omega : fa ≠ lay.result)]
    exact mapM_take_succ opened
      (mapM_mono (fun _ _ => readFile_mono (view_le_set_append (.inr le_rfl) (by omega) le_rfl (by omega))) doneRead)
      (readFile_fileCell (view_set_append_at base_fa (by omega)) (view_append_last (by omega))
        (mapM_mono (fun _ _ => readHunk_mono (view_le_set_append (.inl fa_fm) le_rfl base_fm (by simp))) read))

/-- `newFile` opens a file after the committed ones, with no hunks staged. -/
theorem newFile_represents {files : List DiffFileObj} (committed : Committed lay s files)
    (room : s.payload.filePtr < lay.numFiles) (delta : DiffDelta) :
    ∃ heap', (newFile delta).run s = some ((), { s with
        heap := heap'
        payload := { s.payload with filePtr := s.payload.filePtr + 1, hunkPtr := 0, linePtr := 0 } }) ∧
      Represents lay { s with
        heap := heap'
        payload := { s.payload with filePtr := s.payload.filePtr + 1, hunkPtr := 0, linePtr := 0 } }
        { fileStage := some (files, delta), hunkStage := none, lines := [] } := by
  obtain ⟨framed, points, count, read⟩ := committed
  obtain ⟨dest, result, hunkTmp, lineTmp, size⟩ := framed.order
  have bound : s.payload.filePtr < (s.heap.elems lay.result).length := by rw [framed.numFiles]; exact room
  refine ⟨_, newFile_run delta points.result framed.result bound,
    framed.set_vec (by omega) (List.length_set ..), ⟨points.result, points.hunkTmp, points.lineTmp⟩,
    s.heap.length + 1, s.heap.length + 1, by omega, le_rfl, by simp, ?_, rfl, rfl, rfl⟩
  refine ⟨by rw [count], s.heap.length, size, by omega, ?_, getElem?_set_append_length _, ?_⟩
  · rw [elems_set_append_self (by omega), ← count]
    exact List.getElem?_set_self bound
  · rw [elems_set_append_self (by omega), ← count, take_set_self, view_set_append (.inl (by omega)) le_rfl]
    rwa [count]

/-- `git2r_diff_get_line_cb` stages one more line, its content read back as a
C string. -/
theorem diffGetLineCb_represents (dm : DataModel) (narrow : dm.pointerSize < shortBufferSize) {st : Staging}
    (rep : Represents lay s st) (room : s.payload.linePtr < lay.maxLines) (line : DiffLine)
    (resident : line.content.length < dm.sizeMax) :
    ∃ heap' shortBuffer', (diffGetLineCb dm line).run s = some (0, {
        heap := heap'
        shortBuffer := shortBuffer'
        payload := { s.payload with linePtr := s.payload.linePtr + 1 } }) ∧
      Represents lay {
        heap := heap'
        shortBuffer := shortBuffer'
        payload := { s.payload with linePtr := s.payload.linePtr + 1 } } (st.step (.line line)) := by
  obtain ⟨shortBuffer', copied⟩ := lineContent_some dm narrow s.shortBuffer line.content resident
  obtain ⟨framed, points, fm, hm, base_fm, fm_hm, hm_len, files, hunks, lineCount, linesRead⟩ := rep
  obtain ⟨dest, result, hunkTmp, lineTmp, size⟩ := framed.order
  have bound : s.payload.linePtr < (s.heap.elems lay.lineTmp).length := by rw [framed.maxLines]; exact room
  refine ⟨_, _, diffGetLineCb_run dm line points.lineTmp framed.lineTmp bound copied,
    framed.set_vec (by omega) (List.length_set ..), ⟨points.result, points.hunkTmp, points.lineTmp⟩,
    fm, hm, base_fm, fm_hm, by simp; omega, files.set_append framed (.inl (by omega)) (by omega) (by omega),
    hunks.set_append framed (.inl (by omega)) (by omega) hm_len, by simp [lineCount], ?_⟩
  simp only [Staging.step_line, List.length_append, List.length_singleton, List.length_set,
    elems_set_append_self (by omega : lay.lineTmp < s.heap.length)]
  rw [lineCount] at bound ⊢
  exact mapM_take_succ (List.getElem?_set_self bound)
    (by rw [take_set_self]; exact mapM_mono (fun _ _ => readLine_mono
      (view_le_set_append (.inl (by omega)) le_rfl le_rfl (by omega))) linesRead)
    (readLine_lineCell (view_append_last hm_len))

/-! ### The callbacks -/

/-- `git2r_diff_get_hunk_cb`: the open hunk is closed and a new one opened. -/
theorem diffGetHunkCb_represents {st : Staging} (rep : Represents lay s st) (room : s.payload.hunkPtr < lay.maxHunks)
    (hunk : DiffHunk) :
    ∃ heap', (diffGetHunkCb (some hunk)).run s = some (0, { s with
        heap := heap'
        payload := { s.payload with hunkPtr := s.payload.hunkPtr + 1, linePtr := 0 } }) ∧
      Represents lay { s with
        heap := heap'
        payload := { s.payload with hunkPtr := s.payload.hunkPtr + 1, linePtr := 0 } } (st.step (.hunk hunk)) := by
  obtain ⟨heap₁, saveLinesRun, saved⟩ := saveLines_saved rep
  obtain ⟨heap₂, newHunkRun, represents⟩ := newHunk_represents saved room hunk
  refine ⟨heap₂, ?_, represents⟩
  simp only [diffGetHunkCb, StateT.run_bind, saveLinesRun, newHunkRun, Option.bind_eq_bind, Option.some_bind]
  rfl

/-- `git2r_diff_get_file_cb` with a delta: the open hunk is closed, the open
file committed, and a new file opened. -/
theorem diffGetFileCb_represents {st : Staging} (rep : Represents lay s st) (room : s.payload.filePtr < lay.numFiles)
    (delta : DiffDelta) :
    ∃ heap', (diffGetFileCb (some delta)).run s = some (0, { s with
        heap := heap'
        payload := { s.payload with filePtr := s.payload.filePtr + 1, hunkPtr := 0, linePtr := 0 } }) ∧
      Represents lay { s with
        heap := heap'
        payload := { s.payload with filePtr := s.payload.filePtr + 1, hunkPtr := 0, linePtr := 0 } }
        (st.step (.file delta)) := by
  obtain ⟨heap₁, saveLinesRun, saved⟩ := saveLines_saved rep
  obtain ⟨heap₂, saveHunksRun, committed⟩ := saveHunks_committed saved
  obtain ⟨heap₃, newFileRun, represents⟩ := newFile_represents committed room delta
  refine ⟨heap₃, ?_, represents⟩
  simp only [diffGetFileCb, diffGetHunkCb, StateT.run_bind, StateT.run_pure, Option.pure_def, saveLinesRun,
    saveHunksRun, newFileRun, Option.bind_eq_bind, Option.some_bind]

/-- The final `git2r_diff_get_file_cb(NULL)`: the open hunk is closed and the
open file committed. -/
theorem diffGetFileCb_none_committed {st : Staging} (rep : Represents lay s st) :
    ∃ heap', (diffGetFileCb none).run s = some (0, { s with heap := heap' }) ∧
      Committed lay { s with heap := heap' } st.committedFiles := by
  obtain ⟨heap₁, saveLinesRun, saved⟩ := saveLines_saved rep
  obtain ⟨heap₂, saveHunksRun, committed⟩ := saveHunks_committed saved
  refine ⟨heap₂, ?_, committed⟩
  simp only [diffGetFileCb, diffGetHunkCb, StateT.run_bind, StateT.run_pure, Option.pure_def, saveLinesRun,
    saveHunksRun, Option.bind_eq_bind, Option.some_bind]

end Steps

/-! ### In lockstep with the counting pass -/

/-- The materializer's indices are the counter's running counts. -/
structure Lockstep (p : DiffPayload) (n : DiffCountPayload) : Prop where
  files : p.filePtr = n.numFiles
  hunks : p.hunkPtr = n.numHunks
  lines : p.linePtr = n.numLines

/-- The layout's vectors are as long as the counts ask. -/
structure Fits (lay : Layout) (n : DiffCountPayload) : Prop where
  files : n.numFiles ≤ lay.numFiles
  hunks : n.maxHunks ≤ lay.maxHunks
  lines : n.maxLines ≤ lay.maxLines

section Run
variable {lay : Layout} {s : Machine}

/-- In lockstep with a counter whose counts fit the vectors, the indices are
within the vectors' lengths. -/
theorem Lockstep.within {p : DiffPayload} {n : DiffCountPayload} (lock : Lockstep p n) (ok : CountOk n)
    (fits : Fits lay n) : p.filePtr ≤ lay.numFiles ∧ p.hunkPtr ≤ lay.maxHunks ∧ p.linePtr ≤ lay.maxLines := by
  rw [lock.files, lock.hunks, lock.lines]
  exact ⟨fits.files, ok.1.trans fits.hunks, ok.2.trans fits.lines⟩

/-- Vectors long enough for a whole walk are long enough for every prefix. -/
theorem Fits.of_run {n : DiffCountPayload} {es : List Event} (fits : Fits lay (n.run es)) : Fits lay n :=
  have mono := run_mono n es
  ⟨mono.1.trans fits.files, mono.2.1.trans fits.hunks, mono.2.2.trans fits.lines⟩

/-- One callback of the second walk keeps the relation and the lockstep. The
counter's step says how far the callback's index may go, which the vectors
allow. -/
theorem call_represents (dm : DataModel) (narrow : dm.pointerSize < shortBufferSize) {st : Staging}
    {n : DiffCountPayload} (rep : Represents lay s st) (lock : Lockstep s.payload n) (e : Event)
    (fits : Fits lay (n.step e)) (resident : ∀ line, e = .line line → line.content.length < dm.sizeMax) :
    ∃ s', ((diffGetCallbacks dm).call e).run s = some (0, s') ∧ Represents lay s' (st.step e) ∧
      Lockstep s'.payload (n.step e) := by
  obtain ⟨files, hunks, lines⟩ := lock
  obtain ⟨fitsFiles, fitsHunks, fitsLines⟩ := fits
  cases e with
  | file delta =>
    simp only [DiffCountPayload.step] at fitsFiles
    obtain ⟨heap', run, represents⟩ := diffGetFileCb_represents rep (by omega) delta
    exact ⟨_, run, represents, congrArg (· + 1) files, rfl, rfl⟩
  | hunk hunk =>
    simp only [DiffCountPayload.step] at fitsHunks
    obtain ⟨heap', run, represents⟩ := diffGetHunkCb_represents rep (by omega) hunk
    exact ⟨_, run, represents, files, congrArg (· + 1) hunks, rfl⟩
  | line line =>
    simp only [DiffCountPayload.step] at fitsLines
    obtain ⟨heap', shortBuffer', run, represents⟩ :=
      diffGetLineCb_represents dm narrow rep (by omega) line (resident line rfl)
    exact ⟨_, run, represents, files, hunks, congrArg (· + 1) lines⟩

/-- The second walk keeps the relation and the lockstep over any list of
events, well formed or not, when the vectors were sized for it. -/
theorem diffForeach_represents (dm : DataModel) (narrow : dm.pointerSize < shortBufferSize) (es : List Event)
    {st : Staging} {n : DiffCountPayload} (rep : Represents lay s st) (lock : Lockstep s.payload n)
    (fits : Fits lay (n.run es)) (resident : ∀ line, Event.line line ∈ es → line.content.length < dm.sizeMax) :
    ∃ s', (diffForeach (diffGetCallbacks dm) es).run s = some (0, s') ∧ Represents lay s' (st.run es) ∧
      Lockstep s'.payload (n.run es) := by
  induction es generalizing s st n with
  | nil => exact ⟨s, rfl, rep, lock⟩
  | cons e es ih =>
    obtain ⟨s₁, call, rep₁, lock₁⟩ := call_represents dm narrow rep lock e
      (show Fits lay ((n.step e).run es) from fits).of_run (fun line same => resident line (by simp [same]))
    obtain ⟨s₂, walk, rep₂, lock₂⟩ := ih rep₁ lock₁ fits (fun line mem => resident line (List.mem_cons_of_mem e mem))
    refine ⟨s₂, ?_, rep₂, lock₂⟩
    simp only [diffForeach, StateT.run_bind, call, Option.bind_eq_bind, Option.some_bind]
    simpa using walk

end Run

end Git2r
