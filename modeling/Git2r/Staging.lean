import Git2r.Walk

/-! What the materializing pass is for, stated by value. The R objects it
builds are `DiffFileObj`, `DiffHunkObj` and `DiffLineObj`, and a patch read
from libgit2 should come out as `Patch.toObj`, its line contents as C strings.

`Staging` is the pass's bookkeeping between two callbacks, as the design
describes it: the files already committed to the result, the open file, the
hunks of the open file that are closed, the open hunk, and the lines staged
for it. A file boundary commits the open file with its closed hunks, a hunk
boundary closes the open hunk with its lines, and the end of the walk commits
the last file. `committedFiles_walk` is the purpose of the design: on the walk
of a diff, the files committed at the end are the diff. -/

namespace Git2r

/-- An object of class `git_diff_line`, as a value. -/
structure DiffLineObj where
  origin : Int
  oldLineno : Int
  newLineno : Int
  numLines : Int
  content : CString
  deriving DecidableEq

/-- An object of class `git_diff_hunk`, as a value. -/
structure DiffHunkObj where
  oldStart : Int
  oldLines : Int
  newStart : Int
  newLines : Int
  header : CString
  lines : List DiffLineObj
  deriving DecidableEq

/-- An object of class `git_diff_file`, as a value. -/
structure DiffFileObj where
  oldFile : CString
  newFile : CString
  hunks : List DiffHunkObj
  deriving DecidableEq

/-- A line as R should hold it: its content up to the first zero byte. -/
def DiffLine.toObj (line : DiffLine) : DiffLineObj :=
  ⟨line.origin, line.oldLineno, line.newLineno, line.numLines, CString.ofBytes line.content⟩

/-- A hunk with the given lines. -/
def DiffHunk.toObj (hunk : DiffHunk) (lines : List DiffLineObj) : DiffHunkObj :=
  ⟨hunk.oldStart, hunk.oldLines, hunk.newStart, hunk.newLines, hunk.header, lines⟩

/-- A file with the given hunks. -/
def DiffDelta.toObj (delta : DiffDelta) (hunks : List DiffHunkObj) : DiffFileObj :=
  ⟨delta.oldFile.path, delta.newFile.path, hunks⟩

/-- A hunk of a patch as R should hold it. -/
def PatchHunk.toObj (h : PatchHunk) : DiffHunkObj := h.hunk.toObj (h.lines.map DiffLine.toObj)

/-- A patch as R should hold it. -/
def Patch.toObj (p : Patch) : DiffFileObj := p.delta.toObj (p.hunks.map PatchHunk.toObj)

/-- The pass between two callbacks. There are hunks only under an open hunk
and files only under an open file, as in the payload, where both sit below
the entry of the open one. -/
structure Staging where
  fileStage : Option (List DiffFileObj × DiffDelta) := none
  hunkStage : Option (List DiffHunkObj × DiffHunk) := none
  lines : List DiffLineObj := []

namespace Staging

/-- The hunks of the open file once the open hunk is closed with its lines. -/
def closedHunks (s : Staging) : List DiffHunkObj :=
  match s.hunkStage with
  | some (hunks, hunk) => hunks ++ [hunk.toObj s.lines]
  | none => []

/-- The files once the open file is committed with its hunks. -/
def committedFiles (s : Staging) : List DiffFileObj :=
  match s.fileStage with
  | some (files, delta) => files ++ [delta.toObj s.closedHunks]
  | none => []

/-- One callback of the pass. -/
def step (s : Staging) : Event → Staging
  | .file delta => { fileStage := some (s.committedFiles, delta), hunkStage := none, lines := [] }
  | .hunk hunk => { s with hunkStage := some (s.closedHunks, hunk), lines := [] }
  | .line line => { s with lines := s.lines ++ [line.toObj] }

@[simp] theorem step_file (s : Staging) (delta : DiffDelta) :
    s.step (.file delta) = { fileStage := some (s.committedFiles, delta), hunkStage := none, lines := [] } := rfl

@[simp] theorem step_hunk (s : Staging) (hunk : DiffHunk) :
    s.step (.hunk hunk) = { s with hunkStage := some (s.closedHunks, hunk), lines := [] } := rfl

@[simp] theorem step_line (s : Staging) (line : DiffLine) :
    s.step (.line line) = { s with lines := s.lines ++ [line.toObj] } := rfl

/-- The pass over a list of events. -/
def run (s : Staging) (es : List Event) : Staging := es.foldl step s

@[simp] theorem run_nil (s : Staging) : s.run [] = s := rfl

@[simp] theorem run_cons (s : Staging) (e : Event) (es : List Event) :
    s.run (e :: es) = (s.step e).run es := rfl

theorem run_append (s : Staging) (es es' : List Event) : s.run (es ++ es') = (s.run es).run es' :=
  List.foldl_append _ _ _ _

/-- Lines are staged in order. -/
theorem run_lines (s : Staging) (lines : List DiffLine) :
    s.run (lines.map .line) = { s with lines := s.lines ++ lines.map DiffLine.toObj } := by
  induction lines generalizing s with
  | nil => simp
  | cons l lines ih => simp [ih, step]

/-- The hunks of a file close in order, each with its own lines; the file
stage is untouched. -/
theorem run_hunks (s : Staging) (hunks : List PatchHunk) :
    (s.run (hunks.flatMap PatchHunk.events)).fileStage = s.fileStage ∧
      (s.run (hunks.flatMap PatchHunk.events)).closedHunks =
        s.closedHunks ++ hunks.map PatchHunk.toObj := by
  induction hunks generalizing s with
  | nil => simp
  | cons h hunks ih =>
    obtain ⟨stage, closed⟩ := ih ((s.step (.hunk h.hunk)).run (h.lines.map .line))
    simp only [List.flatMap_cons, run_append, PatchHunk.events, run_cons]
    rw [stage, closed, run_lines]
    simp [closedHunks, step, PatchHunk.toObj]

/-- Files are committed in order, each with its own hunks. -/
theorem committedFiles_run_walk (s : Staging) (d : List Patch) :
    (s.run (walk d)).committedFiles = s.committedFiles ++ d.map Patch.toObj := by
  induction d generalizing s with
  | nil => simp
  | cons p d ih =>
    obtain ⟨stage, closed⟩ := run_hunks (s.step (.file p.delta)) p.hunks
    rw [walk_cons, Patch.events, List.cons_append, run_cons, run_append, ih]
    rw [committedFiles, stage, closed]
    simp [step, closedHunks, Patch.toObj]

/-- On the walk of a diff, the pass commits exactly the diff: every file with
its own hunks, every hunk with its own lines, in order. -/
theorem committedFiles_walk (d : List Patch) :
    (({} : Staging).run (walk d)).committedFiles = d.map Patch.toObj := by
  rw [committedFiles_run_walk]
  rfl

end Staging

end Git2r
