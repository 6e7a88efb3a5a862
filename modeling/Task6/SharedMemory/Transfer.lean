import Task6.CRuntime

/-!
# Moving data through the shared memory

`OutSharedMemoryClient::writeData` and `InSharedMemoryServer::getData`, each as
one undisturbed call: the mapping is the list of its bytes, and what Windows
answers to the calls inside is an argument. Both take the turn first (`writeData`
by its wait, `getData` by the packet that led to it) and give it on at their
last `SetEvent`; `signalled` says whether they got there.
-/

namespace Task6

open NulText

/-- Windows' answers inside one `writeData`. -/
structure WriteAnswers where
  wait : WaitResult
  mapped : Bool
  unmapped : Bool
  signalled : Bool

/-- How `writeData` ends, the mapping after it, and whether it set `clToSv`. -/
structure WriteResult where
  outcome : Outcome Bool
  memory : List Byte
  signalled : Bool

/-- A view of more bytes than the mapping has is never granted. -/
def WriteAnswers.hasView (os : WriteAnswers) (memory data : List Byte) : Bool :=
  os.mapped && decide (data.length ≤ memory.length)

/-- `OutSharedMemoryClient::writeData`; `data` is the `size` bytes at `buffer`. -/
def writeData (build : Build) (os : WriteAnswers) (memory data : List Byte) : WriteResult :=
  match os.wait with
  | .timeout => ⟨.returned false, memory, false⟩
  | .failed lastError => ⟨.threw (.system lastError), memory, false⟩
  | .object0 =>
    if build.asserts (os.hasView memory data) then
      match memcpy (os.hasView memory data) memory data with
      | none => ⟨.died, memory, false⟩
      | some memory' =>
        if build.asserts os.unmapped && build.asserts os.signalled then
          ⟨.returned true, memory', os.signalled⟩
        else ⟨.died, memory', false⟩
    else ⟨.died, memory, false⟩

/-- Windows' answers inside one `getData`: how many bytes the view makes
readable (whole pages, so possibly more than asked for), or the error. -/
structure GetAnswers where
  readable : Option Nat
  lastError : DWORD
  unmapped : Bool
  signalled : Bool

/-- How `getData` ends, the caller's buffer after it, and whether it set
`svToCl`. -/
structure GetResult where
  outcome : Outcome Nat
  buffer : List Byte
  signalled : Bool

/-- The readable bytes of the mapping; behind its end its last page is zero. -/
def viewOf (memory : List Byte) (readable : Nat) : List Byte :=
  (memory ++ List.replicate (readable - memory.length) 0).take readable

/-- The scan and the copy of `getData`: `sharedMemSize`, and the buffer. A text
that is too long is not copied. -/
def copyText (build : Build) (bufferSize : Nat) (view buffer : List Byte) (size : Nat) :
    Option (Nat × List Byte) :=
  match strnlenS view bufferSize with
  | none => none
  | some sharedMemSize =>
    if sharedMemSize ≤ size then
      (strcpyS build buffer size view).map fun buffer' => (sharedMemSize, buffer')
    else some (sharedMemSize, buffer)

/-- `InSharedMemoryServer::getData(buffer, size)`. -/
def getData (build : Build) (os : GetAnswers) (bufferSize : Nat) (memory buffer : List Byte)
    (size : Nat) : GetResult :=
  match os.readable with
  | none => ⟨.threw (.system os.lastError), buffer, false⟩
  | some readable =>
    match copyText build bufferSize (viewOf memory readable) buffer size with
    | none => ⟨.died, buffer, false⟩
    | some (sharedMemSize, buffer') =>
      if build.asserts os.unmapped && build.asserts os.signalled then
        if size < sharedMemSize then
          ⟨.threw (.invalidArgument "Buffer is too small."), buffer', os.signalled⟩
        else ⟨.returned sharedMemSize, buffer', os.signalled⟩
      else ⟨.died, buffer', false⟩

theorem memcpy_written {mapped : Bool} {memory data memory' : List Byte}
    (h : memcpy mapped memory data = some memory') : memory' = overwrite memory data := by
  unfold memcpy at h
  split at h
  · cases h
    rfl
  · split at h
    · rename_i hempty
      cases h
      rw [hempty]
      rfl
    · cases h

/-- When `writeData` returns true the data is in the mapping. -/
theorem writeData_written {build : Build} {os : WriteAnswers} {memory data : List Byte}
    (h : (writeData build os memory data).outcome = .returned true) :
    (writeData build os memory data).memory = overwrite memory data := by
  unfold writeData at h ⊢
  cases hwait : os.wait with
  | timeout =>
    rw [hwait] at h
    cases h
  | failed lastError =>
    rw [hwait] at h
    cases h
  | object0 =>
    rw [hwait] at h
    revert h
    dsimp only
    split
    · cases hcopy : memcpy (os.hasView memory data) memory data with
      | none =>
        intro h
        cases h
      | some memory' =>
        dsimp only
        split
        · intro _
          exact memcpy_written hcopy
        · intro h
          cases h
    · intro h
      cases h

/-- The whole mapping is in view. -/
theorem viewOf_of_le {memory : List Byte} {readable : Nat} (h : memory.length ≤ readable) :
    viewOf memory readable = memory ++ List.replicate (readable - memory.length) 0 := by
  rw [viewOf, List.take_of_length_le]
  rw [List.length_append, List.length_replicate]
  omega

theorem copyText_terminated {t rest : List Byte} (ht : (0 : Byte) ∉ t) {bufferSize size : Nat}
    (hmap : t.length < bufferSize) (hsize : t.length < size) (build : Build)
    (buffer : List Byte) :
    copyText build bufferSize (t ++ 0 :: rest) buffer size
      = some (t.length, t ++ 0 :: build.strcpyRest buffer size (t.length + 1)) := by
  rw [copyText, strnlenS_terminated ht hmap]
  show (if t.length ≤ size then _ else _) = _
  rw [if_pos (Nat.le_of_lt hsize), strcpyS_terminated ht hsize]
  rfl

end Task6
