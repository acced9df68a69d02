import Mathlib.Data.List.Basic
import Mathlib.Algebra.Group.Nat.Basic

/-! The diff as libgit2 hands it to git2r. A diff is a list of patches, one per
file, each a list of hunks, each a list of lines; `git_diff_foreach` walks it
and calls the file, hunk and line callbacks in that order. The walk is the
event list `walk d`, and `diffForeach` drives any set of callbacks over an
event list, stopping at the first callback that returns non-zero. Both passes
of `git2r_diff_format_to_r` are `diffForeach` over the same list. -/

namespace Git2r

/-- The characters of a C string: the bytes before its terminating zero. -/
@[ext]
structure CString where
  chars : List UInt8
  no_nul : (0 : UInt8) ∉ chars
  deriving DecidableEq

namespace CString

/-- The C string a byte buffer starts with: its bytes up to the first zero. -/
def ofBytes (bytes : List UInt8) : CString :=
  ⟨bytes.takeWhile (· ≠ 0), fun h => by simpa using List.mem_takeWhile_imp h⟩

/-- The empty C string, a lone terminator. -/
def empty : CString := ⟨[], List.not_mem_nil 0⟩

/-- A non-zero byte in front of a C string. -/
def cons (b : UInt8) (nonzero : b ≠ 0) (s : CString) : CString :=
  ⟨b :: s.chars, by simp [Ne.symm nonzero, s.no_nul]⟩

@[simp] theorem ofBytes_chars (bytes : List UInt8) :
    (ofBytes bytes).chars = bytes.takeWhile (· ≠ 0) := rfl

/-- Bytes without a zero are a C string as they are. -/
theorem ofBytes_chars_of_not_mem {bytes : List UInt8} (clean : (0 : UInt8) ∉ bytes) :
    (ofBytes bytes).chars = bytes :=
  List.takeWhile_eq_self_iff.mpr fun x mem => by
    simpa using fun zero : x = 0 => clean (zero ▸ mem)

/-- Whatever follows the first zero is not part of the string. -/
theorem ofBytes_append_zero (bytes rest : List UInt8) :
    ofBytes (bytes ++ 0 :: rest) = ofBytes bytes := by
  ext1
  simp only [ofBytes_chars]
  induction bytes with
  | nil => simp
  | cons b bytes ih =>
    by_cases zero : b = 0
    · simp [List.takeWhile_cons, zero]
    · simpa [List.takeWhile_cons, zero] using ih

end CString

/-- `git_diff_file`, of which git2r reads the path. -/
structure DiffFile where
  path : CString
  deriving DecidableEq

/-- `git_diff_delta`, of which git2r reads the two file paths. -/
structure DiffDelta where
  oldFile : DiffFile
  newFile : DiffFile
  deriving DecidableEq

/-- `git_diff_hunk`; `header` is the terminated `header` array. -/
structure DiffHunk where
  oldStart : Int
  oldLines : Int
  newStart : Int
  newLines : Int
  header : CString
  deriving DecidableEq

/-- `git_diff_line`. `content` is the `content_len` bytes at `content`, which
libgit2 does not terminate; `origin` is the `char` as the `int` it converts to. -/
structure DiffLine where
  origin : Int
  oldLineno : Int
  newLineno : Int
  numLines : Int
  content : List UInt8
  deriving DecidableEq

/-- One callback invocation of `git_diff_foreach`. -/
inductive Event where
  | file (delta : DiffDelta)
  | hunk (hunk : DiffHunk)
  | line (line : DiffLine)
  deriving DecidableEq

/-- A hunk of a patch with its lines. -/
structure PatchHunk where
  hunk : DiffHunk
  lines : List DiffLine

/-- A file of the diff with its hunks. -/
structure Patch where
  delta : DiffDelta
  hunks : List PatchHunk

/-- The events of one hunk: the hunk, then each of its lines. -/
def PatchHunk.events (h : PatchHunk) : List Event := .hunk h.hunk :: h.lines.map .line

/-- The events of one file: the file, then each of its hunks' events. -/
def Patch.events (p : Patch) : List Event := .file p.delta :: p.hunks.flatMap PatchHunk.events

/-- The events `git_diff_foreach` delivers for a diff, file after file. -/
def walk (d : List Patch) : List Event := d.flatMap Patch.events

@[simp] theorem walk_nil : walk [] = [] := rfl

@[simp] theorem walk_cons (p : Patch) (d : List Patch) : walk (p :: d) = p.events ++ walk d := rfl

/-- A bound on the content of every line event, from a check that runs. -/
theorem lines_shorter_of_all {es : List Event} {bound : Nat}
    (all : es.all (fun | .line line => line.content.length < bound | _ => true)) :
    ∀ line, Event.line line ∈ es → line.content.length < bound :=
  fun line mem => by simpa using List.all_eq_true.mp all _ mem

/-- The callbacks of `git_diff_foreach`; `binary_cb` is `NULL` in both of git2r's
passes, and the callbacks ignore their `delta` and `progress` arguments. -/
structure DiffCallbacks (m : Type → Type) where
  fileCb : DiffDelta → m Int
  hunkCb : DiffHunk → m Int
  lineCb : DiffLine → m Int

/-- The callback an event invokes. -/
def DiffCallbacks.call (cbs : DiffCallbacks m) : Event → m Int
  | .file delta => cbs.fileCb delta
  | .hunk hunk => cbs.hunkCb hunk
  | .line line => cbs.lineCb line

/-- `git_diff_foreach` over the events of a walk: the first callback to return
non-zero ends the walk with its value, and a finished walk returns `0`. -/
def diffForeach [Monad m] (cbs : DiffCallbacks m) : List Event → m Int
  | [] => pure 0
  | e :: es => do
    let err ← cbs.call e
    if err ≠ 0 then pure err else diffForeach cbs es

/-- A walk over two lists of events is the walk over the first, then, unless it
stopped, the walk over the second. -/
theorem diffForeach_append [Monad m] [LawfulMonad m] (cbs : DiffCallbacks m) (es es' : List Event) :
    diffForeach cbs (es ++ es') =
      (diffForeach cbs es >>= fun err => if err ≠ 0 then pure err else diffForeach cbs es') := by
  induction es with
  | nil => simp [diffForeach]
  | cons e es ih =>
    simp only [List.cons_append, diffForeach, ih, bind_assoc]
    congr 1
    funext err
    split <;> simp [*]

end Git2r
