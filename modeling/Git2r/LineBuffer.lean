import Git2r.Walk

/-! The content copy in `git2r_diff_get_line_cb`. A line's content is
`content_len` bytes with no terminator; the callback copies them into a
buffer, writes a zero after them, and hands the buffer to `Rf_mkString`,
which reads it as a C string. The buffer is the static 200-byte
`short_buffer` unless `content_len > sizeof(buffer)`, and `buffer` is a
`char *`, so the test is against the size of a pointer, not against 200.

C buffers here have a capacity and bytes that are written or indeterminate;
a write past the capacity, a scan off its end or a read of an indeterminate
byte is undefined, and the model fails there. `lineContent_in_bounds` shows
the test is safe whenever a pointer is narrower than `short_buffer`: the
buffer chosen always has room for the bytes and the terminator, and the
string stored is the content up to its first zero byte. The two lemmas
after it show that both hypotheses are needed. -/

namespace Git2r

/-- The C data model git2r is compiled under: `sizeof(char *)` in bytes, and
the width of `size_t` in bits. -/
structure DataModel where
  pointerSize : Nat
  sizeBits : Nat

/-- `SIZE_MAX`. -/
def DataModel.sizeMax (dm : DataModel) : Nat := 2 ^ dm.sizeBits - 1

/-- The data model of 64-bit Linux and macOS. -/
def DataModel.lp64 : DataModel := ⟨8, 64⟩

/-- A C byte buffer: `capacity` bytes, each written or still indeterminate. -/
structure Buffer where
  capacity : Nat
  bytes : Nat → Option UInt8

/-- `sizeof(short_buffer)`. -/
def shortBufferSize : Nat := 200

/-- `malloc(n)`: `n` indeterminate bytes. -/
def malloc (n : Nat) : Buffer := ⟨n, fun _ => none⟩

/-- `memcpy(buffer, src, n)`: the first `n` bytes of `src` land at `0 .. n - 1`. -/
def memcpy (buffer : Buffer) (src : List UInt8) (n : Nat) : Option Buffer :=
  if n ≤ buffer.capacity then
    some { buffer with bytes := fun i => if i < n then src[i]? else buffer.bytes i }
  else none

/-- `buffer[i] = byte`. -/
def Buffer.store (buffer : Buffer) (i : Nat) (byte : UInt8) : Option Buffer :=
  if i < buffer.capacity then some { buffer with bytes := Function.update buffer.bytes i (some byte) }
  else none

/-- The buffer's bytes in order. -/
def Buffer.contents (buffer : Buffer) : List (Option UInt8) := (List.range buffer.capacity).map buffer.bytes

/-- What `strlen` and the copy in `Rf_mkString` read: the bytes before the
first zero, which has to come before the end and after no indeterminate byte. -/
def scanCString : List (Option UInt8) → Option CString
  | [] => none
  | none :: _ => none
  | some b :: rest => if h : b = 0 then some .empty else (scanCString rest).map (.cons b h)

/-- `Rf_mkString(buffer)`: the buffer read as a C string. -/
def Buffer.cString (buffer : Buffer) : Option CString := scanCString buffer.contents

/-- The buffer `git2r_diff_get_line_cb` selects: `short_buffer` unless
`content_len > sizeof(buffer)`, where `buffer` is a `char *`; otherwise
`malloc(content_len + 1)`, the sum taken in `size_t`. -/
def lineBuffer (dm : DataModel) (shortBuffer : Nat → Option UInt8) (contentLen : Nat) : Buffer :=
  if contentLen > dm.pointerSize then malloc ((contentLen + 1) % 2 ^ dm.sizeBits)
  else ⟨shortBufferSize, shortBuffer⟩

/-- The content handling of `git2r_diff_get_line_cb`: copy, terminate, read
back. It returns the string and what the static `short_buffer` holds after the
call; a heap buffer is freed. -/
def lineContent (dm : DataModel) (shortBuffer : Nat → Option UInt8) (content : List UInt8) :
    Option (CString × (Nat → Option UInt8)) := do
  let buffer ← memcpy (lineBuffer dm shortBuffer content.length) content content.length
  let buffer ← buffer.store content.length 0
  let str ← buffer.cString
  return (str, if content.length > dm.pointerSize then shortBuffer else buffer.bytes)

/-- A scan finds the content up to its first zero when the content is followed
by a terminator. -/
theorem scanCString_of_terminated (content : List UInt8) (l : List (Option UInt8))
    (copied : ∀ i < content.length, l[i]? = some content[i]?)
    (terminated : l[content.length]? = some (some 0)) :
    scanCString l = some (CString.ofBytes content) := by
  induction content generalizing l with
  | nil =>
    cases l with
    | nil => simp at terminated
    | cons x rest =>
      obtain rfl : x = some 0 := by simpa using terminated
      rfl
  | cons b content ih =>
    cases l with
    | nil => simpa using copied 0
    | cons x rest =>
      obtain rfl : x = some b := by simpa using copied 0
      have tail := ih rest (fun i lt => by simpa using copied (i + 1) (by simp [lt]))
        (by simpa using terminated)
      by_cases zero : b = 0
      · subst zero; rfl
      · rw [scanCString, dif_neg zero, tail]
        exact congrArg some (CString.ext (by simp [CString.cons, List.takeWhile_cons, zero]))

/-- The buffer selected has room for the content and its terminator, as long
as a pointer is narrower than `short_buffer` and the content is shorter than
`SIZE_MAX`, so that `content_len + 1` does not wrap. -/
theorem lineBuffer_capacity (dm : DataModel) (narrow : dm.pointerSize < shortBufferSize)
    (shortBuffer : Nat → Option UInt8) {contentLen : Nat} (resident : contentLen < dm.sizeMax) :
    contentLen < (lineBuffer dm shortBuffer contentLen).capacity := by
  unfold lineBuffer
  split
  · have fits : contentLen + 1 < 2 ^ dm.sizeBits := by unfold DataModel.sizeMax at resident; omega
    simp [malloc, Nat.mod_eq_of_lt fits]
  · simp only [shortBufferSize] at narrow ⊢
    omega

/-- With room in the buffer, the copy succeeds and reads back the content up
to its first zero byte, whatever `short_buffer` held before. -/
theorem lineContent_some (dm : DataModel) (narrow : dm.pointerSize < shortBufferSize)
    (shortBuffer : Nat → Option UInt8) (content : List UInt8) (resident : content.length < dm.sizeMax) :
    ∃ shortBuffer', lineContent dm shortBuffer content = some (CString.ofBytes content, shortBuffer') := by
  have room := lineBuffer_capacity dm narrow shortBuffer resident
  set buffer := lineBuffer dm shortBuffer content.length
  have scanned : scanCString ((List.range buffer.capacity).map fun i =>
      Function.update (fun i => if i < content.length then content[i]? else buffer.bytes i)
        content.length (some 0) i) = some (CString.ofBytes content) :=
    scanCString_of_terminated content _
      (fun i lt => by simp [List.getElem?_range (lt.trans room), lt, Function.update, lt.ne])
      (by simp [List.getElem?_range room])
  simp [lineContent, memcpy, room.le, Buffer.store, room, Buffer.cString, Buffer.contents, scanned]

/-- The line content copy stays inside the buffer it selects, which has room
for all `content_len` bytes and the terminator, and it stores the content up
to its first zero byte. -/
theorem lineContent_in_bounds (dm : DataModel) (narrow : dm.pointerSize < shortBufferSize)
    (shortBuffer : Nat → Option UInt8) (content : List UInt8) (resident : content.length < dm.sizeMax) :
    content.length < (lineBuffer dm shortBuffer content.length).capacity ∧
      (lineContent dm shortBuffer content).map Prod.fst = some (CString.ofBytes content) := by
  obtain ⟨shortBuffer', copied⟩ := lineContent_some dm narrow shortBuffer content resident
  exact ⟨lineBuffer_capacity dm narrow shortBuffer resident, by simp [copied]⟩

theorem lineContent_in_bounds_lp64 :
    DataModel.lp64.pointerSize < shortBufferSize ∧ [1, 0, 2].length < DataModel.lp64.sizeMax ∧
      ([1, 0, 2].length < (lineBuffer .lp64 (fun _ => none) [1, 0, 2].length).capacity ∧
        (lineContent .lp64 (fun _ => none) [1, 0, 2]).map Prod.fst = some (CString.ofBytes [1, 0, 2])) :=
  ⟨by decide, by decide, lineContent_in_bounds .lp64 (by decide) _ [1, 0, 2] (by decide)⟩

/-- Were a pointer as wide as `short_buffer`, a line of 200 bytes would take
the static buffer, the copy would fill it, and the terminator's store at index
200 would land past its end. -/
theorem lineContent_overflows_of_wide_pointer (dm : DataModel) (wide : shortBufferSize ≤ dm.pointerSize)
    (shortBuffer : Nat → Option UInt8) (content : List UInt8) (full : content.length = shortBufferSize) :
    lineBuffer dm shortBuffer content.length = ⟨shortBufferSize, shortBuffer⟩ ∧
      (∃ copied, memcpy (lineBuffer dm shortBuffer content.length) content content.length = some copied ∧
        copied.capacity = shortBufferSize ∧ copied.store shortBufferSize 0 = none) ∧
      lineContent dm shortBuffer content = none := by
  have static : lineBuffer dm shortBuffer content.length = ⟨shortBufferSize, shortBuffer⟩ := by
    simp [lineBuffer, full, Nat.not_lt.mpr wide]
  refine ⟨static, ?_, by rw [lineContent, static]; simp [memcpy, full, Buffer.store]⟩
  rw [static, memcpy, if_pos full.le]
  exact ⟨_, rfl, rfl, by simp [Buffer.store]⟩

example : lineContent ⟨200, 64⟩ (fun _ => none) (List.replicate 200 1) = none :=
  (lineContent_overflows_of_wide_pointer ⟨200, 64⟩ (by decide) _ _ (List.length_replicate 200 1)).2.2

/-- A content of `SIZE_MAX` bytes would make `content_len + 1` wrap to zero:
the heap buffer would have no room, and the copy would run past it. -/
theorem lineContent_wraps_at_sizeMax (dm : DataModel) (shortBuffer : Nat → Option UInt8)
    (content : List UInt8) (wide : dm.pointerSize < content.length) (wraps : content.length = dm.sizeMax) :
    (lineBuffer dm shortBuffer content.length).capacity = 0 ∧
      memcpy (lineBuffer dm shortBuffer content.length) content content.length = none ∧
      lineContent dm shortBuffer content = none := by
  have whole : content.length + 1 = 2 ^ dm.sizeBits := by
    unfold DataModel.sizeMax at wraps; have := Nat.one_le_two_pow (n := dm.sizeBits); omega
  have empty : (lineBuffer dm shortBuffer content.length).capacity = 0 := by
    simp [lineBuffer, wide, whole, malloc]
  have overrun : memcpy (lineBuffer dm shortBuffer content.length) content content.length = none := by
    simp [memcpy, empty, Nat.not_le.mpr (Nat.zero_lt_of_lt wide)]
  exact ⟨empty, overrun, by simp [lineContent, overrun]⟩

example : lineContent ⟨1, 2⟩ (fun _ => none) [7, 7, 7] = none :=
  (lineContent_wraps_at_sizeMax ⟨1, 2⟩ (fun _ => none) [7, 7, 7] (by decide) (by decide)).2.2

end Git2r
