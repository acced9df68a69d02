import Git2r.Entry

/-! `git2r_revparse_single`: the object a revision names, as an R object of
git2r's class for its type. Once its arguments pass, libgit2 resolves the
revision, and the C code switches on the type of the object found: a blob
becomes a list with the blob's S3 class, a commit, tag or tree a new object of
class `git_commit`, `git_tag` or `git_tree`, and each is then filled by the
constructor of its type. Any other type is an error git2r records itself with
`giterr_set_str`. All failures meet in one `err`: `GIT_ENOTFOUND` is reported
with git2r's own message, any other code with the message `giterr_last()`
holds.

`revparseSingle_outcome` gives the outcome on every path of accepted
arguments; no failure leaves an object on the heap. -/

namespace Git2r

/-- `git2r_arg_check_string`: nonzero unless the argument is one string that
is not `NA`. -/
def argCheckString : RValue → Bool
  | .character [some _] => false
  | _ => true

/-- `GIT_ENOTFOUND`. -/
def gitENotFound : Int := -3

/-- `GIT_ERROR`. -/
def gitErrorCode : Int := -1

/-- The cases of the `switch` that make an S4 object:
`NEW_OBJECT(MAKE_CLASS(cls))`, then the constructor of the type. The triple is
`err`, the message `giterr_last()` would give, and `result`. -/
def initObject (w : World) (repo : RValue) (obj : Nat) (type : ObjectType) (cls : RClass) :
    HeapM (Int × GitErr × Sexp) := do
  let result ← newObject cls
  w.init type obj repo result
  return (0, .libgit2, result)

/-- The `switch` on `git_object_type(treeish)`: `err`, the message
`giterr_last()` would give, and `result` after it. A blob is a list of
`git2r_S3_items__git_blob` given the class `git2r_S3_class__git_blob`; another
type than the four is `GIT_ERROR` with `git2r_err_revparse_single` set. -/
def revparseObject (w : World) (repo : RValue) (obj : Nat) : ObjectType → HeapM (Int × GitErr × Sexp)
  | .blob => do
    let result ← allocVector w.blobItems
    setClassAttrib result w.blobClass
    w.init .blob obj repo result
    return (0, .libgit2, result)
  | .commit => initObject w repo obj .commit .gitCommit
  | .tag => initObject w repo obj .tag .gitTag
  | .tree => initObject w repo obj .tree .gitTree
  | .other _ => return (gitErrorCode, .git2r .revparseSingle, .nil)

/-- `git2r_revparse_single`. -/
def revparseSingle (w : World) (repo revision : RValue) : EntryM Sexp := do
  if argCheckString revision then
    git2rError "git2r_revparse_single" none (some (.text "'revision'")) (some (.const .stringArg))
  if !w.repositoryOpens repo then
    git2rError "git2r_revparse_single" none (some (.const .invalidRepository)) none
  let some spec := revision.string0 | monadLift (failure : RM Sexp)
  let (err, last, result) ← (match w.revparse repo spec with
    | .error err => pure (err, .libgit2, .nil)
    | .ok (type, obj) => revparseObject w repo obj type : HeapM (Int × GitErr × Sexp))
  if err ≠ 0 then
    if err = gitENotFound then
      git2rError "git2r_revparse_single" none (some (.const .revparseNotFound)) none
    else git2rError "git2r_revparse_single" (some last) none none
  return result

/-- The cell `git2r_revparse_single` allocates for an object of a type it
builds, before the constructor fills it; `none` for the other types. -/
def ObjectType.freshCell (w : World) : ObjectType → Option Cell
  | .blob => some (.classed w.blobClass (List.replicate w.blobItems .nil))
  | .commit => some (.object .gitCommit)
  | .tag => some (.object .gitTag)
  | .tree => some (.object .gitTree)
  | .other _ => none

section Outcome
variable {w : World} {s : Machine}

/-- The arm of the `switch` for an object of a type git2r builds: a fresh cell
at the end of the heap, filled by the constructor, and returned with `err` 0. -/
theorem revparseObject_run_of_fresh (repo : RValue) (obj : Nat) {type : ObjectType} {cell : Cell}
    (fresh : type.freshCell w = some cell) (heap : Heap) :
    (revparseObject w repo obj type).run heap =
      ((w.init type obj repo (.ref heap.length)).run (heap ++ [cell])).map fun r =>
        ((0, .libgit2, .ref heap.length), r.2) := by
  cases type <;> cases fresh <;>
    simp [revparseObject, initObject, StateT.run_bind, StateT.run_map, setClassAttrib_last_run, RClass.prototype]

/-- `git2r_revparse_single` on a revision string, in a repository that opens.
A code libgit2 returns is reported as `git2r_err_revparse_not_found` when it is
`GIT_ENOTFOUND` and with libgit2's message otherwise; an object of another
type than the four is reported with `git2r_err_revparse_single`, never as not
found. Neither failure changes the heap. An object of the four is returned as
a fresh cell at the end of the heap, once its constructor has filled it. -/
theorem revparseSingle_outcome (repo : RValue) (spec : String) (opens : w.repositoryOpens repo = true) :
    ((revparseSingle w repo (.character [some spec])).run).run s =
      match w.revparse repo spec with
      | .error err =>
        some (if err = 0 then .ok .nil
          else if err = gitENotFound then .error ⟨"git2r_revparse_single", none, some (.const .revparseNotFound), none⟩
          else .error ⟨"git2r_revparse_single", some .libgit2, none, none⟩, s)
      | .ok (type, obj) =>
        match type.freshCell w with
        | none => some (.error ⟨"git2r_revparse_single", some (.git2r .revparseSingle), none, none⟩, s)
        | some cell => ((w.init type obj repo (.ref s.heap.length)).run (s.heap ++ [cell])).map fun r =>
            (.ok (.ref s.heap.length), { s with heap := r.2 }) := by
  simp only [revparseSingle, argCheckString, opens, RValue.string0, Bool.not_true, Bool.false_eq_true, ↓reduceIte,
    liftM, ExceptT.run_bind, StateT.run_bind, pure_bind, bind_pure_comp]
  cases found : w.revparse repo spec with
  | error err =>
    by_cases zero : err = 0
    · simp [zero]
    · by_cases missing : err = gitENotFound
      · subst missing
        simp [zero, git2rError_bind, Except.map]
      · simp [zero, missing, git2rError_bind, Except.map]
  | ok object =>
    obtain ⟨type, obj⟩ := object
    cases fresh : type.freshCell w with
    | none =>
      obtain ⟨code, rfl⟩ : ∃ code, type = .other code := by cases type <;> first | exact ⟨_, rfl⟩ | cases fresh
      simp [revparseObject, gitErrorCode, gitENotFound, git2rError_bind, Except.map, fresh]
    | some cell =>
      simp [revparseObject_run_of_fresh repo obj fresh, fresh]
      cases (w.init type obj repo (.ref s.heap.length)).run (s.heap ++ [cell]) <;> rfl

end Outcome

end Git2r
