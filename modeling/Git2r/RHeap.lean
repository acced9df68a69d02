import Git2r.Staging

/-! The part of the R runtime the materializing pass touches. An R value is
`R_NilValue`, a reference into the heap, or a scalar from `Rf_ScalarInteger`
or `Rf_mkString` (nothing modifies those after they are made, so they are
kept by value). A heap cell is a list (`VECSXP`), a list with a class
attribute, or an object of one of git2r's classes, the diff classes with
their slots. Allocation appends a cell, and the R API calls fail where R
signals an error: an index past the end of a list, a slot set on
`R_NilValue`, a string longer than R allows.

Reading an object back as a value (`readFiles` and below) goes through a
`Mem`, a partial map from addresses to cells. A view of the heap restricted to
an address range sees only the cells there; writes outside the range do not
change the view (`view_set`, `view_append`), and a read that succeeds in a view
succeeds the same way in any larger one (`readFile_mono`). These are the frame
lemmas the refinement proof is built on. -/

namespace Git2r

/-- An R value as the callbacks handle it. -/
inductive Sexp where
  | nil
  | ref (addr : Nat)
  | int (value : Int)
  | str (value : CString)
  deriving DecidableEq

/-- The slot names the callbacks pass to `Rf_install`. -/
inductive Slot where
  | old | new | files | oldFile | newFile | hunks
  | oldStart | oldLines | newStart | newLines | header | lines
  | origin | oldLineno | newLineno | numLines | content
  deriving DecidableEq

/-- The classes git2r instantiates with `NEW_OBJECT(MAKE_CLASS(...))`. -/
inductive RClass where
  | gitDiff | gitDiffFile | gitDiffHunk | gitDiffLine
  | gitCommit | gitTag | gitTree
  deriving DecidableEq

/-- A heap cell: a list; a list with a class attribute (an S3 object); an
object of class `git_commit`, `git_tag` or `git_tree`, whose slots code
outside this repository sets; or an object of class `git_diff`,
`git_diff_file`, `git_diff_hunk` or `git_diff_line` with the slots the C code
sets, in declaration order. -/
inductive Cell where
  | vec (elems : List Sexp)
  | classed (cls : CString) (elems : List Sexp)
  | object (cls : RClass)
  | diff (old new files : Sexp)
  | file (oldFile newFile hunks : Sexp)
  | hunk (oldStart oldLines newStart newLines header lines : Sexp)
  | line (origin oldLineno newLineno numLines content : Sexp)
  deriving DecidableEq

/-- A new object: its slots hold the class prototype, which nothing reads
before the callbacks set them, and which the model writes as `R_NilValue`. -/
def RClass.prototype : RClass → Cell
  | .gitDiff => .diff .nil .nil .nil
  | .gitDiffFile => .file .nil .nil .nil
  | .gitDiffHunk => .hunk .nil .nil .nil .nil .nil .nil
  | .gitDiffLine => .line .nil .nil .nil .nil .nil
  | cls => .object cls

/-- Set a slot of an object whose class has it. -/
def Cell.setSlot : Cell → Slot → Sexp → Option Cell
  | .diff _ n f, .old, v => some (.diff v n f)
  | .diff o _ f, .new, v => some (.diff o v f)
  | .diff o n _, .files, v => some (.diff o n v)
  | .file _ n h, .oldFile, v => some (.file v n h)
  | .file o _ h, .newFile, v => some (.file o v h)
  | .file o n _, .hunks, v => some (.file o n v)
  | .hunk _ ol ns nl hd ls, .oldStart, v => some (.hunk v ol ns nl hd ls)
  | .hunk os _ ns nl hd ls, .oldLines, v => some (.hunk os v ns nl hd ls)
  | .hunk os ol _ nl hd ls, .newStart, v => some (.hunk os ol v nl hd ls)
  | .hunk os ol ns _ hd ls, .newLines, v => some (.hunk os ol ns v hd ls)
  | .hunk os ol ns nl _ ls, .header, v => some (.hunk os ol ns nl v ls)
  | .hunk os ol ns nl hd _, .lines, v => some (.hunk os ol ns nl hd v)
  | .line _ ol nl nn c, .origin, v => some (.line v ol nl nn c)
  | .line o _ nl nn c, .oldLineno, v => some (.line o v nl nn c)
  | .line o ol _ nn c, .newLineno, v => some (.line o ol v nn c)
  | .line o ol nl _ c, .numLines, v => some (.line o ol nl v c)
  | .line o ol nl nn _, .content, v => some (.line o ol nl nn v)
  | _, _, _ => none

/-- The R heap: cell `a` lives at index `a`. -/
abbrev Heap := List Cell

/-- Code running against the R heap, failing where R signals an error. -/
abbrev HeapM := StateT Heap Option

/-- The elements of the list at `a`; empty when `a` holds no list. -/
def Heap.elems (heap : Heap) (a : Nat) : List Sexp :=
  match heap[a]? with
  | some (.vec elems) => elems
  | _ => []

/-- `Rf_allocVector(VECSXP, n)`: a list of `n` `R_NilValue`s. -/
def allocVector (n : Nat) : HeapM Sexp :=
  fun heap => some (.ref heap.length, heap ++ [.vec (List.replicate n .nil)])

/-- `NEW_OBJECT(MAKE_CLASS(cls))`. -/
def newObject (cls : RClass) : HeapM Sexp :=
  fun heap => some (.ref heap.length, heap ++ [cls.prototype])

/-- `VECTOR_ELT(x, i)`. -/
def vectorElt (x : Sexp) (i : Nat) : HeapM Sexp := fun heap =>
  match x with
  | .ref a => match heap[a]? with
    | some (.vec elems) => elems[i]?.map (·, heap)
    | _ => none
  | _ => none

/-- `SET_VECTOR_ELT(x, i, v)`. -/
def setVectorElt (x : Sexp) (i : Nat) (v : Sexp) : HeapM Unit := fun heap =>
  match x with
  | .ref a => match heap[a]? with
    | some (.vec elems) => if i < elems.length then some ((), heap.set a (.vec (elems.set i v))) else none
    | _ => none
  | _ => none

/-- `SET_SLOT(x, s, v)`. -/
def setSlot (x : Sexp) (s : Slot) (v : Sexp) : HeapM Unit := fun heap =>
  match x with
  | .ref a => match heap[a]? with
    | some c => (c.setSlot s v).map fun c' => ((), heap.set a c')
    | none => none
  | _ => none

/-- `Rf_ScalarInteger(v)`. -/
def scalarInteger (v : Int) : Sexp := .int v

/-- `Rf_mkString(s)` on a string shorter than R's limit; the strings the
callbacks make (paths, hunk headers, line contents) are taken to be. -/
def mkString (s : CString) : Sexp := .str s

/-- R's limit on the length of a string, `2^31 - 1` bytes. -/
def rStringMax : Nat := 2 ^ 31 - 1

/-- `Rf_mkString(s)` on a string of any length: R signals an error past
`rStringMax` bytes. -/
def mkStringChecked (s : CString) : HeapM Sexp := fun heap =>
  if s.chars.length ≤ rStringMax then some (mkString s, heap) else none

/-- `Rf_setAttrib(x, R_ClassSymbol, Rf_mkString(cls))` on a list, which
makes it an S3 object of class `cls`. -/
def setClassAttrib (x : Sexp) (cls : CString) : HeapM Unit := fun heap =>
  match x with
  | .ref a => match heap[a]? with
    | some (.vec elems) => some ((), heap.set a (.classed cls elems))
    | _ => none
  | _ => none

/-! ### What each call does -/

section Calls
variable {heap : Heap} {a i : Nat} {elems : List Sexp} {v : Sexp}

@[simp] theorem allocVector_run (n : Nat) :
    (allocVector n).run heap = some (.ref heap.length, heap ++ [.vec (List.replicate n .nil)]) := rfl

@[simp] theorem newObject_run (cls : RClass) :
    (newObject cls).run heap = some (.ref heap.length, heap ++ [cls.prototype]) := rfl

theorem setClassAttrib_last_run (cls : CString) :
    (setClassAttrib (.ref heap.length) cls).run (heap ++ [.vec elems]) = some ((), heap ++ [.classed cls elems]) := by
  simp [StateT.run, setClassAttrib, List.set_append_right _ _ (le_refl _)]

@[simp] theorem mkStringChecked_run (s : CString) :
    (mkStringChecked s).run heap = if s.chars.length ≤ rStringMax then some (mkString s, heap) else none := rfl

theorem vectorElt_run (held : heap[a]? = some (.vec elems)) (at_i : elems[i]? = some v) :
    (vectorElt (.ref a) i).run heap = some (v, heap) := by
  simp [StateT.run, vectorElt, held, at_i]

theorem setVectorElt_run (held : heap[a]? = some (.vec elems)) (bound : i < elems.length) :
    (setVectorElt (.ref a) i v).run heap = some ((), heap.set a (.vec (elems.set i v))) := by
  simp [StateT.run, setVectorElt, held, bound]

/-- `SET_VECTOR_ELT` at or past the end of the list: R signals an error. -/
theorem setVectorElt_run_of_le (held : heap[a]? = some (.vec elems)) (past : elems.length ≤ i) :
    (setVectorElt (.ref a) i v).run heap = none := by
  simp [StateT.run, setVectorElt, held, Nat.not_lt.mpr past]

theorem setSlot_run {c c' : Cell} {s : Slot} (held : heap[a]? = some c) (slot : c.setSlot s v = some c') :
    (setSlot (.ref a) s v).run heap = some ((), heap.set a c') := by
  simp [StateT.run, setSlot, held, slot]

@[simp] theorem elems_set_self (bound : a < heap.length) (new : List Sexp) :
    Heap.elems (heap.set a (.vec new)) a = new := by
  simp [Heap.elems, List.getElem?_set_self bound]

@[simp] theorem elems_set_ne {b : Nat} {c : Cell} (other : a ≠ b) :
    Heap.elems (heap.set a c) b = heap.elems b := by
  simp [Heap.elems, List.getElem?_set_ne other]

@[simp] theorem elems_append (bound : a < heap.length) (cs : List Cell) :
    Heap.elems (heap ++ cs) a = heap.elems a := by
  simp [Heap.elems, List.getElem?_append_left bound]

theorem elems_of_vec (held : heap[a]? = some (.vec elems)) : heap.elems a = elems := by
  simp [Heap.elems, held]

end Calls

/-! ### Views and frames -/

/-- What a read sees: a partial map from addresses to cells. -/
abbrev Mem := Nat → Option Cell

/-- Every cell `m` sees, `m'` sees the same. -/
def Mem.Le (m m' : Mem) : Prop := ∀ a c, m a = some c → m' a = some c

/-- The whole heap. -/
def Heap.mem (heap : Heap) : Mem := fun a => heap[a]?

/-- The heap seen on the addresses `lo ≤ a < hi` only. -/
def Heap.view (heap : Heap) (lo hi : Nat) : Mem := fun a => if lo ≤ a ∧ a < hi then heap[a]? else none

section Views
variable {heap : Heap} {lo hi a : Nat}

theorem view_of_mem (low : lo ≤ a) (high : a < hi) : heap.view lo hi a = heap[a]? := by
  simp [Heap.view, low, high]

theorem view_le_view {lo' hi' : Nat} (low : lo' ≤ lo) (high : hi ≤ hi') :
    (heap.view lo hi).Le (heap.view lo' hi') := by
  intro b c seen
  simp only [Heap.view] at seen ⊢
  split at seen
  · rw [if_pos (by omega)]; exact seen
  · cases seen

theorem view_le_mem : (heap.view lo hi).Le heap.mem := by
  intro b c seen
  simp only [Heap.view] at seen
  split at seen
  · exact seen
  · cases seen

theorem view_set {c : Cell} (outside : a < lo ∨ hi ≤ a) :
    Heap.view (heap.set a c) lo hi = heap.view lo hi := by
  funext b
  simp only [Heap.view]
  split
  · have other : a ≠ b := by omega
    exact List.getElem?_set_ne other
  · rfl

theorem view_append (cs : List Cell) (high : hi ≤ heap.length) :
    Heap.view (heap ++ cs) lo hi = heap.view lo hi := by
  funext b
  simp only [Heap.view]
  split
  · have inside : b < heap.length := by omega
    exact List.getElem?_append_left inside
  · rfl

end Views

/-! ### Reading objects back -/

/-- An integer scalar. -/
def readInt : Sexp → Option Int
  | .int v => some v
  | _ => none

/-- A string scalar. -/
def readStr : Sexp → Option CString
  | .str s => some s
  | _ => none

/-- The elements of a list. -/
def readVec (m : Mem) : Sexp → Option (List Sexp)
  | .ref a => match m a with
    | some (.vec elems) => some elems
    | _ => none
  | _ => none

/-- A `git_diff_line` object. -/
def readLine (m : Mem) : Sexp → Option DiffLineObj
  | .ref a => match m a with
    | some (.line origin oldLineno newLineno numLines content) => do
      return ⟨← readInt origin, ← readInt oldLineno, ← readInt newLineno, ← readInt numLines,
        ← readStr content⟩
    | _ => none
  | _ => none

/-- A `git_diff_hunk` object with its lines. -/
def readHunk (m : Mem) : Sexp → Option DiffHunkObj
  | .ref a => match m a with
    | some (.hunk oldStart oldLines newStart newLines header lines) => do
      return ⟨← readInt oldStart, ← readInt oldLines, ← readInt newStart, ← readInt newLines,
        ← readStr header, ← (← readVec m lines).mapM (readLine m)⟩
    | _ => none
  | _ => none

/-- A `git_diff_file` object with its hunks. -/
def readFile (m : Mem) : Sexp → Option DiffFileObj
  | .ref a => match m a with
    | some (.file oldFile newFile hunks) => do
      return ⟨← readStr oldFile, ← readStr newFile, ← (← readVec m hunks).mapM (readHunk m)⟩
    | _ => none
  | _ => none

/-- The `files` of a `git_diff` object. -/
def readFiles (m : Mem) : Sexp → Option (List DiffFileObj)
  | .ref a => match m a with
    | some (.diff _ _ files) => do (← readVec m files).mapM (readFile m)
    | _ => none
  | _ => none

section Mono
variable {m m' : Mem} {x : Sexp}

/-- A read succeeds the same way on more of the heap, one element at a time. -/
theorem mapM_mono {α β : Type} {f g : α → Option β} (mono : ∀ x y, f x = some y → g x = some y) :
    ∀ {l : List α} {r : List β}, l.mapM f = some r → l.mapM g = some r
  | [], _, read => read
  | x :: l, r, read => by
    simp only [List.mapM_cons, Option.bind_eq_bind, Option.bind_eq_some, Option.pure_def,
      Option.some.injEq] at read ⊢
    obtain ⟨y, head, ys, tail, rfl⟩ := read
    exact ⟨y, mono x y head, ys, mapM_mono mono tail, rfl⟩

theorem readVec_mono (le : m.Le m') {r : List Sexp} (read : readVec m x = some r) : readVec m' x = some r := by
  cases x with
  | ref a =>
    simp only [readVec] at read ⊢
    cases seen : m a with
    | none => rw [seen] at read; cases read
    | some c => rw [le a c seen]; rwa [seen] at read
  | _ => cases read

theorem readLine_mono (le : m.Le m') {r : DiffLineObj} (read : readLine m x = some r) :
    readLine m' x = some r := by
  cases x with
  | ref a =>
    simp only [readLine] at read ⊢
    cases seen : m a with
    | none => rw [seen] at read; cases read
    | some c => rw [le a c seen]; rwa [seen] at read
  | _ => cases read

theorem readHunk_mono (le : m.Le m') {r : DiffHunkObj} (read : readHunk m x = some r) :
    readHunk m' x = some r := by
  cases x with
  | ref a =>
    simp only [readHunk] at read ⊢
    cases seen : m a with
    | none => rw [seen] at read; cases read
    | some c =>
      rw [le a c seen]
      rw [seen] at read
      cases c with
      | hunk os ol ns nl hd ls =>
        simp only [Option.bind_eq_bind, Option.bind_eq_some, Option.pure_def, Option.some.injEq] at read ⊢
        obtain ⟨a1, h1, a2, h2, a3, h3, a4, h4, a5, h5, elems, vec, lines, mapped, rfl⟩ := read
        exact ⟨a1, h1, a2, h2, a3, h3, a4, h4, a5, h5, elems, readVec_mono le vec, lines,
          mapM_mono (fun _ _ => readLine_mono le) mapped, rfl⟩
      | _ => cases read
  | _ => cases read

theorem readFile_mono (le : m.Le m') {r : DiffFileObj} (read : readFile m x = some r) :
    readFile m' x = some r := by
  cases x with
  | ref a =>
    simp only [readFile] at read ⊢
    cases seen : m a with
    | none => rw [seen] at read; cases read
    | some c =>
      rw [le a c seen]
      rw [seen] at read
      cases c with
      | file o n hs =>
        simp only [Option.bind_eq_bind, Option.bind_eq_some, Option.pure_def, Option.some.injEq] at read ⊢
        obtain ⟨a1, h1, a2, h2, elems, vec, hunks, mapped, rfl⟩ := read
        exact ⟨a1, h1, a2, h2, elems, readVec_mono le vec, hunks,
          mapM_mono (fun _ _ => readHunk_mono le) mapped, rfl⟩
      | _ => cases read
  | _ => cases read

end Mono

end Git2r
