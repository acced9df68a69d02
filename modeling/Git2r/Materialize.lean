import Git2r.Count
import Git2r.LineBuffer
import Git2r.RHeap

/-! The materializing pass of `git2r_diff_format_to_r`, call by call. The
callbacks keep the payload's three vectors: `result`, sized by the number of
files, and the staging lists `hunk_tmp` and `line_tmp`, sized by the largest
hunk and line counts. A line goes to `line_tmp`; a hunk first saves the staged
lines into the previous hunk, then goes to `hunk_tmp`; a file first does what a
`NULL` hunk does, then saves the staged hunks into the previous file, then
goes to `result`. The final `git2r_diff_get_file_cb(NULL)` saves what is left.

`git2r_diff_get_hunk_cb` and `git2r_diff_get_file_cb` are each cut into their
two commented halves (`saveLines` and `newHunk`, `saveHunks` and `newFile`);
the callbacks are those halves in sequence. -/

namespace Git2r

/-- `git2r_diff_payload`. -/
structure DiffPayload where
  result : Sexp
  hunkTmp : Sexp
  lineTmp : Sexp
  filePtr : Nat
  hunkPtr : Nat
  linePtr : Nat

/-- What the callbacks act on: the R heap, the static `short_buffer` of
`git2r_diff_get_line_cb`, and the payload they are passed. -/
structure Machine where
  heap : Heap
  shortBuffer : Nat → Option UInt8
  payload : DiffPayload

/-- Code of the pass; a failure is an R error or undefined behaviour. -/
abbrev RM := StateT Machine Option

instance : MonadLift HeapM RM where
  monadLift x := fun s => (x.run s.heap).map fun r => (r.1, { s with heap := r.2 })

/-- `*payload`. -/
def getPayload : RM DiffPayload := fun s => some (s.payload, s)

/-- Writing the payload's fields. -/
def setPayload (p : DiffPayload) : RM Unit := fun s => some ((), { s with payload := p })

/-- The content copy of `git2r_diff_get_line_cb`, on the static buffer. -/
def copyContent (dm : DataModel) (content : List UInt8) : RM CString := fun s =>
  (lineContent dm s.shortBuffer content).map fun r => (r.1, { s with shortBuffer := r.2 })

/-- `for (i = 0; i < len; i++) SET_VECTOR_ELT(dst, i, VECTOR_ELT(src, i));` -/
def copyElts (src dst : Sexp) : Nat → HeapM Unit
  | 0 => pure ()
  | len + 1 => do
    copyElts src dst len
    setVectorElt dst len (← vectorElt src len)

/-- The first half of `git2r_diff_get_hunk_cb`: save the previous hunk's lines
from `line_tmp`, if there is a previous hunk. -/
def saveLines : RM Unit := do
  let p ← getPayload
  if p.hunkPtr ≠ 0 then
    let lines ← allocVector p.linePtr
    setSlot (← vectorElt p.hunkTmp (p.hunkPtr - 1)) .lines lines
    copyElts p.lineTmp lines p.linePtr

/-- The second half of `git2r_diff_get_hunk_cb`: a new hunk, without lines,
staged in `hunk_tmp`. -/
def newHunk (hunk : DiffHunk) : RM Unit := do
  let p ← getPayload
  let hunkObj ← newObject .gitDiffHunk
  setVectorElt p.hunkTmp p.hunkPtr hunkObj
  setSlot hunkObj .oldStart (scalarInteger hunk.oldStart)
  setSlot hunkObj .oldLines (scalarInteger hunk.oldLines)
  setSlot hunkObj .newStart (scalarInteger hunk.newStart)
  setSlot hunkObj .newLines (scalarInteger hunk.newLines)
  setSlot hunkObj .header (mkString hunk.header)
  setPayload { p with hunkPtr := p.hunkPtr + 1, linePtr := 0 }

/-- `git2r_diff_get_hunk_cb`; a `NULL` hunk is `none`. -/
def diffGetHunkCb (hunk : Option DiffHunk) : RM Int := do
  saveLines
  if let some hunk := hunk then newHunk hunk
  return 0

/-- The first half of `git2r_diff_get_file_cb` after its call of the hunk
callback: save the previous file's hunks from `hunk_tmp`, if there is a
previous file. Of the two arguments of `SET_SLOT`, whose order of evaluation C
leaves open, the element is read first; the other order gives the same heap. -/
def saveHunks : RM Unit := do
  let p ← getPayload
  if p.filePtr ≠ 0 then
    let fileObj ← vectorElt p.result (p.filePtr - 1)
    let hunks ← allocVector p.hunkPtr
    setSlot fileObj .hunks hunks
    copyElts p.hunkTmp hunks p.hunkPtr

/-- The second half of `git2r_diff_get_file_cb`: a new file, without hunks,
in `result`. -/
def newFile (delta : DiffDelta) : RM Unit := do
  let p ← getPayload
  let fileObj ← newObject .gitDiffFile
  setVectorElt p.result p.filePtr fileObj
  setSlot fileObj .oldFile (mkString delta.oldFile.path)
  setSlot fileObj .newFile (mkString delta.newFile.path)
  setPayload { p with filePtr := p.filePtr + 1, hunkPtr := 0, linePtr := 0 }

/-- `git2r_diff_get_file_cb`; a `NULL` delta is `none`. -/
def diffGetFileCb (delta : Option DiffDelta) : RM Int := do
  let _ ← diffGetHunkCb none
  saveHunks
  if let some delta := delta then newFile delta
  return 0

/-- `git2r_diff_get_line_cb`. -/
def diffGetLineCb (dm : DataModel) (line : DiffLine) : RM Int := do
  let p ← getPayload
  let lineObj ← newObject .gitDiffLine
  setVectorElt p.lineTmp p.linePtr lineObj
  setPayload { p with linePtr := p.linePtr + 1 }
  setSlot lineObj .origin (scalarInteger line.origin)
  setSlot lineObj .oldLineno (scalarInteger line.oldLineno)
  setSlot lineObj .newLineno (scalarInteger line.newLineno)
  setSlot lineObj .numLines (scalarInteger line.numLines)
  let content ← copyContent dm line.content
  setSlot lineObj .content (mkString content)
  return 0

/-- The callbacks of the second walk in `git2r_diff_format_to_r`. -/
def diffGetCallbacks (dm : DataModel) : DiffCallbacks RM :=
  ⟨fun delta => diffGetFileCb (some delta), fun hunk => diffGetHunkCb (some hunk), diffGetLineCb dm⟩

/-- The allocations of `git2r_diff_format_to_r` between its two walks:
`result` into `dest`'s `files`, then the two staging lists, sized by the
counts, and the payload pointing at them with its indices at zero. -/
def diffFormatAlloc (counts : DiffCount) (dest : Sexp) : RM Unit := do
  let result ← allocVector counts.numFiles
  setSlot dest .files result
  let hunkTmp ← allocVector counts.maxHunks
  let lineTmp ← allocVector counts.maxLines
  setPayload ⟨result, hunkTmp, lineTmp, 0, 0, 0⟩

/-- `git2r_diff_format_to_r`: count, allocate, walk again with the
materializing callbacks, and call the file callback once more with `NULL` to
save the last lines, hunks and file. Both walks deliver the events `walk`. -/
def diffFormatToR (dm : DataModel) (walk : List Event) (dest : Sexp) : RM Int := do
  match diffCount walk with
  | .error err => return err
  | .ok counts =>
    diffFormatAlloc counts dest
    let err ← diffForeach (diffGetCallbacks dm) walk
    if err = 0 then diffGetFileCb none else return err

/-! ### What each part of the pass does -/

/-- A hunk object as `newHunk` builds it, with `lines` in its `lines` slot. -/
def hunkCell (hunk : DiffHunk) (lines : Sexp) : Cell :=
  .hunk (.int hunk.oldStart) (.int hunk.oldLines) (.int hunk.newStart) (.int hunk.newLines) (.str hunk.header) lines

/-- A file object as `newFile` builds it, with `hunks` in its `hunks` slot. -/
def fileCell (delta : DiffDelta) (hunks : Sexp) : Cell :=
  .file (.str delta.oldFile.path) (.str delta.newFile.path) hunks

/-- The line object `git2r_diff_get_line_cb` builds, with the content it read back. -/
def lineCell (line : DiffLine) (content : CString) : Cell :=
  .line (.int line.origin) (.int line.oldLineno) (.int line.newLineno) (.int line.numLines) (.str content)

@[simp] theorem hunkCell_setSlot_lines (hunk : DiffHunk) (lines lines' : Sexp) :
    (hunkCell hunk lines).setSlot .lines lines' = some (hunkCell hunk lines') := rfl

@[simp] theorem fileCell_setSlot_hunks (delta : DiffDelta) (hunks hunks' : Sexp) :
    (fileCell delta hunks).setSlot .hunks hunks' = some (fileCell delta hunks') := rfl

@[simp] theorem getPayload_run (s : Machine) : getPayload.run s = some (s.payload, s) := rfl

@[simp] theorem setPayload_run (p : DiffPayload) (s : Machine) :
    (setPayload p).run s = some ((), { s with payload := p }) := rfl

@[simp] theorem monadLift_run {α : Type} (x : HeapM α) (s : Machine) :
    (monadLift x : RM α).run s = (x.run s.heap).map fun r => (r.1, { s with heap := r.2 }) := rfl

@[simp] theorem copyContent_run (dm : DataModel) (content : List UInt8) (s : Machine) :
    (copyContent dm content).run s =
      (lineContent dm s.shortBuffer content).map fun r => (r.1, { s with shortBuffer := r.2 }) := rfl

section Parts
variable {heap : Heap} {a i : Nat} {elems : List Sexp} {v : Sexp}

private theorem set_self_of_getElem? {l : List Cell} {c : Cell} (held : l[a]? = some c) : l.set a c = l :=
  List.ext_getElem? fun j => by
    by_cases same : a = j
    · subst same; simp [held, (List.getElem?_eq_some_iff.mp held).1]
    · exact List.getElem?_set_ne same

theorem setVectorElt_append_run (cs : List Cell) (held : heap[a]? = some (.vec elems)) (bound : i < elems.length) :
    (setVectorElt (.ref a) i v).run (heap ++ cs) = some ((), heap.set a (.vec (elems.set i v)) ++ cs) := by
  have inside : a < heap.length := (List.getElem?_eq_some_iff.mp held).1
  rw [setVectorElt_run (by rw [List.getElem?_append_left inside, held]) bound, List.set_append_left _ _ inside]

theorem setVectorElt_append_run_of_le (cs : List Cell) (held : heap[a]? = some (.vec elems))
    (past : elems.length ≤ i) : (setVectorElt (.ref a) i v).run (heap ++ cs) = none :=
  setVectorElt_run_of_le ((List.getElem?_append_left (List.getElem?_eq_some_iff.mp held).1).trans held) past

theorem setSlot_append_run (cs : List Cell) {c : Cell} {s : Slot} (held : heap[a]? = some c) :
    (setSlot (.ref a) s v).run (heap ++ cs) = (c.setSlot s v).map fun c' => ((), heap.set a c' ++ cs) := by
  have inside : a < heap.length := (List.getElem?_eq_some_iff.mp held).1
  simp [StateT.run, setSlot, List.getElem?_append_left inside, held, List.set_append_left _ _ inside]

theorem setSlot_last_run {c : Cell} {s : Slot} (last : a = heap.length) :
    (setSlot (.ref a) s v).run (heap ++ [c]) = (c.setSlot s v).map fun c' => ((), heap ++ [c']) := by
  subst last
  simp [StateT.run, setSlot, List.set_append_right _ _ (le_refl _)]

theorem getElem?_set_append_ne {b : Nat} {c : Cell} {cs : List Cell} (inside : b < heap.length) (other : a ≠ b) :
    (heap.set a c ++ cs)[b]? = heap[b]? := by
  have inside' : b < (heap.set a c).length := by simpa using inside
  rw [List.getElem?_append_left inside', List.getElem?_set_ne other]

theorem getElem?_set_append_self {c : Cell} {cs : List Cell} (inside : a < heap.length) :
    (heap.set a c ++ cs)[a]? = some c := by
  have inside' : a < (heap.set a c).length := by simpa using inside
  rw [List.getElem?_append_left inside', List.getElem?_set_self inside]

theorem getElem?_set_append_length {c : Cell} (c' : Cell) : (heap.set a c ++ [c'])[heap.length]? = some c' := by
  simp

/-- The copy loop writes the first `n` elements of the source list over the
target's. -/
theorem copyElts_run {s t n : Nat} {S T : List Sexp} (distinct : s ≠ t)
    (src : heap[s]? = some (.vec S)) (dst : heap[t]? = some (.vec T)) (fromS : n ≤ S.length)
    (intoT : n ≤ T.length) :
    (copyElts (.ref s) (.ref t) n).run heap = some ((), heap.set t (.vec (S.take n ++ T.drop n))) := by
  induction n with
  | zero => simp [copyElts, StateT.run_pure, set_self_of_getElem? dst]
  | succ n ih =>
    have inside : t < heap.length := (List.getElem?_eq_some_iff.mp dst).1
    have copied : (S.take n ++ T.drop n).set n S[n] = S.take (n + 1) ++ T.drop (n + 1) := by
      have short : (S.take n).length = n := by simp; omega
      have dropT : T.drop n = T[n] :: T.drop (n + 1) := List.drop_eq_getElem_cons (by omega)
      rw [List.set_append_right _ _ short.le, short, Nat.sub_self, dropT, List.take_succ,
        List.getElem?_eq_getElem (by omega)]
      simp only [List.set_cons_zero, Option.toList_some, List.append_assoc, List.singleton_append]
    have stillS : (heap.set t (.vec (S.take n ++ T.drop n)))[s]? = some (.vec S) := by
      rw [List.getElem?_set_ne (Ne.symm distinct), src]
    simp only [copyElts, StateT.run_bind, ih (by omega) (by omega), Option.bind_eq_bind, Option.some_bind]
    have stillT : (heap.set t (.vec (S.take n ++ T.drop n)))[t]? = some (.vec (S.take n ++ T.drop n)) :=
      List.getElem?_set_self inside
    have room : n < (S.take n ++ T.drop n).length := by simp; omega
    rw [vectorElt_run stillS (List.getElem?_eq_getElem (by omega)), Option.some_bind,
      setVectorElt_run stillT room, List.set_set, copied]

end Parts

section Callbacks
variable {s : Machine}

private theorem getElem?_lt {l : List Cell} {c : Cell} (held : l[i]? = some c) : i < l.length :=
  (List.getElem?_eq_some_iff.mp held).1

/-- `newHunk` stages a hunk object at the end of the heap. -/
theorem newHunk_run (hunk : DiffHunk) {ht : Nat} {HT : List Sexp} (hunkTmp : s.payload.hunkTmp = .ref ht)
    (held : s.heap[ht]? = some (.vec HT)) (bound : s.payload.hunkPtr < HT.length) :
    (newHunk hunk).run s = some ((), { s with
      heap := s.heap.set ht (.vec (HT.set s.payload.hunkPtr (.ref s.heap.length))) ++ [hunkCell hunk .nil]
      payload := { s.payload with hunkPtr := s.payload.hunkPtr + 1, linePtr := 0 } }) := by
  have last : s.heap.length = (s.heap.set ht (.vec (HT.set s.payload.hunkPtr (.ref s.heap.length)))).length := by
    simp
  simp only [newHunk, StateT.run_bind, getPayload_run, monadLift_run, newObject_run, Option.map_some',
    Option.bind_eq_bind, Option.some_bind, hunkTmp, setVectorElt_append_run _ held bound, setSlot_last_run last,
    setPayload_run, RClass.prototype, Cell.setSlot, scalarInteger, mkString]
  rfl

/-- `newFile` puts a file object at the end of the heap into `result`. -/
theorem newFile_run (delta : DiffDelta) {r : Nat} {R : List Sexp} (result : s.payload.result = .ref r)
    (held : s.heap[r]? = some (.vec R)) (bound : s.payload.filePtr < R.length) :
    (newFile delta).run s = some ((), { s with
      heap := s.heap.set r (.vec (R.set s.payload.filePtr (.ref s.heap.length))) ++ [fileCell delta .nil]
      payload := { s.payload with filePtr := s.payload.filePtr + 1, hunkPtr := 0, linePtr := 0 } }) := by
  have last : s.heap.length = (s.heap.set r (.vec (R.set s.payload.filePtr (.ref s.heap.length)))).length := by
    simp
  simp only [newFile, StateT.run_bind, getPayload_run, monadLift_run, newObject_run, Option.map_some',
    Option.bind_eq_bind, Option.some_bind, result, setVectorElt_append_run _ held bound, setSlot_last_run last,
    setPayload_run, RClass.prototype, Cell.setSlot, mkString]
  rfl

/-- `git2r_diff_get_line_cb` stages a line object at the end of the heap. -/
theorem diffGetLineCb_run (dm : DataModel) (line : DiffLine) {lt : Nat} {LT : List Sexp} {content : CString}
    {shortBuffer' : Nat → Option UInt8} (lineTmp : s.payload.lineTmp = .ref lt)
    (held : s.heap[lt]? = some (.vec LT)) (bound : s.payload.linePtr < LT.length)
    (copied : lineContent dm s.shortBuffer line.content = some (content, shortBuffer')) :
    (diffGetLineCb dm line).run s = some (0, {
      heap := s.heap.set lt (.vec (LT.set s.payload.linePtr (.ref s.heap.length))) ++ [lineCell line content]
      shortBuffer := shortBuffer'
      payload := { s.payload with linePtr := s.payload.linePtr + 1 } }) := by
  have last : s.heap.length = (s.heap.set lt (.vec (LT.set s.payload.linePtr (.ref s.heap.length)))).length := by
    simp
  simp only [diffGetLineCb, StateT.run_bind, getPayload_run, monadLift_run, newObject_run, Option.map_some',
    Option.bind_eq_bind, Option.some_bind, lineTmp, setVectorElt_append_run _ held bound, setSlot_last_run last,
    setPayload_run, RClass.prototype, Cell.setSlot, scalarInteger, mkString, copyContent_run, copied,
    StateT.run_pure]
  rfl

/-- `newHunk` with `hunk_ptr` at the end of `hunk_tmp` fails in `SET_VECTOR_ELT`. -/
theorem newHunk_run_of_full (hunk : DiffHunk) {ht : Nat} {HT : List Sexp} (hunkTmp : s.payload.hunkTmp = .ref ht)
    (held : s.heap[ht]? = some (.vec HT)) (full : HT.length ≤ s.payload.hunkPtr) : (newHunk hunk).run s = none := by
  simp only [newHunk, StateT.run_bind, getPayload_run, monadLift_run, newObject_run, Option.map_some',
    Option.bind_eq_bind, Option.some_bind, hunkTmp, setVectorElt_append_run_of_le _ held full, Option.map_none',
    Option.none_bind]

/-- `newFile` with `file_ptr` at the end of `result` fails in `SET_VECTOR_ELT`. -/
theorem newFile_run_of_full (delta : DiffDelta) {r : Nat} {R : List Sexp} (result : s.payload.result = .ref r)
    (held : s.heap[r]? = some (.vec R)) (full : R.length ≤ s.payload.filePtr) : (newFile delta).run s = none := by
  simp only [newFile, StateT.run_bind, getPayload_run, monadLift_run, newObject_run, Option.map_some',
    Option.bind_eq_bind, Option.some_bind, result, setVectorElt_append_run_of_le _ held full, Option.map_none',
    Option.none_bind]

/-- `git2r_diff_get_line_cb` with `line_ptr` at the end of `line_tmp` fails in
`SET_VECTOR_ELT`, before it copies the content. -/
theorem diffGetLineCb_run_of_full (dm : DataModel) (line : DiffLine) {lt : Nat} {LT : List Sexp}
    (lineTmp : s.payload.lineTmp = .ref lt) (held : s.heap[lt]? = some (.vec LT)) (full : LT.length ≤ s.payload.linePtr) :
    (diffGetLineCb dm line).run s = none := by
  simp only [diffGetLineCb, StateT.run_bind, getPayload_run, monadLift_run, newObject_run, Option.map_some',
    Option.bind_eq_bind, Option.some_bind, lineTmp, setVectorElt_append_run_of_le _ held full, Option.map_none',
    Option.none_bind]

/-- With no staged hunk, `saveLines` does nothing. -/
theorem saveLines_run_of_zero (zero : s.payload.hunkPtr = 0) : saveLines.run s = some ((), s) := by
  simp [saveLines, StateT.run_bind, zero, StateT.run_pure]

/-- `saveLines` gives the staged hunk a fresh list of the staged lines. -/
theorem saveLines_run {ht lt ha : Nat} {HT LT : List Sexp} {hunk : DiffHunk} (nonzero : s.payload.hunkPtr ≠ 0)
    (hunkTmp : s.payload.hunkTmp = .ref ht) (lineTmp : s.payload.lineTmp = .ref lt)
    (htHeld : s.heap[ht]? = some (.vec HT)) (staged : HT[s.payload.hunkPtr - 1]? = some (.ref ha))
    (haHeld : s.heap[ha]? = some (hunkCell hunk .nil)) (ltHeld : s.heap[lt]? = some (.vec LT))
    (lines : s.payload.linePtr ≤ LT.length) (distinct : lt ≠ ha) :
    saveLines.run s = some ((), { s with
      heap := s.heap.set ha (hunkCell hunk (.ref s.heap.length)) ++ [.vec (LT.take s.payload.linePtr)] }) := by
  have src : (s.heap.set ha (hunkCell hunk (.ref s.heap.length)) ++
      [.vec (List.replicate s.payload.linePtr .nil)])[lt]? = some (.vec LT) :=
    (getElem?_set_append_ne (getElem?_lt ltHeld) (Ne.symm distinct)).trans ltHeld
  have fresh : lt ≠ s.heap.length := (getElem?_lt ltHeld).ne
  have htStill : (s.heap ++ [.vec (List.replicate s.payload.linePtr .nil)])[ht]? = some (.vec HT) :=
    (List.getElem?_append_left (getElem?_lt htHeld)).trans htHeld
  simp only [saveLines, StateT.run_bind, getPayload_run, Option.bind_eq_bind, Option.some_bind, nonzero,
    ne_eq, not_false_eq_true, ↓reduceIte, monadLift_run, allocVector_run, Option.map_some', hunkTmp,
    vectorElt_run htStill staged,
    setSlot_append_run _ haHeld, hunkCell_setSlot_lines, lineTmp, copyElts_run fresh src (getElem?_set_append_length _) lines (by simp)]
  simp [List.set_append_right]

/-- With no file yet, `saveHunks` does nothing. -/
theorem saveHunks_run_of_zero (zero : s.payload.filePtr = 0) : saveHunks.run s = some ((), s) := by
  simp [saveHunks, StateT.run_bind, zero, StateT.run_pure]

/-- `saveHunks` gives the open file a fresh list of the staged hunks. -/
theorem saveHunks_run {r ht fa : Nat} {R HT : List Sexp} {delta : DiffDelta} (nonzero : s.payload.filePtr ≠ 0)
    (result : s.payload.result = .ref r) (hunkTmp : s.payload.hunkTmp = .ref ht)
    (rHeld : s.heap[r]? = some (.vec R)) (opened : R[s.payload.filePtr - 1]? = some (.ref fa))
    (faHeld : s.heap[fa]? = some (fileCell delta .nil)) (htHeld : s.heap[ht]? = some (.vec HT))
    (hunks : s.payload.hunkPtr ≤ HT.length) (distinct : ht ≠ fa) :
    saveHunks.run s = some ((), { s with
      heap := s.heap.set fa (fileCell delta (.ref s.heap.length)) ++ [.vec (HT.take s.payload.hunkPtr)] }) := by
  have src : (s.heap.set fa (fileCell delta (.ref s.heap.length)) ++
      [.vec (List.replicate s.payload.hunkPtr .nil)])[ht]? = some (.vec HT) :=
    (getElem?_set_append_ne (getElem?_lt htHeld) (Ne.symm distinct)).trans htHeld
  have fresh : ht ≠ s.heap.length := (getElem?_lt htHeld).ne
  simp only [saveHunks, StateT.run_bind, getPayload_run, Option.bind_eq_bind, Option.some_bind, nonzero,
    ne_eq, not_false_eq_true, ↓reduceIte, monadLift_run, result, vectorElt_run rHeld opened, Option.map_some',
    allocVector_run, setSlot_append_run _ faHeld, fileCell_setSlot_hunks, hunkTmp,
    copyElts_run fresh src (getElem?_set_append_length _) hunks (by simp)]
  simp [List.set_append_right]

end Callbacks

end Git2r
