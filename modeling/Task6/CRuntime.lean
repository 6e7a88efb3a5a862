import Task6.Library.NulText
import Task6.Win32
import Mathlib.Data.UInt

/-!
# The C run-time library as the program uses it

Assertions, which exist in debug builds only, how a call can end, and the string
functions the shared-memory transport is made of. A memory is the list of its
bytes; a function that would read or write outside it, or that violates a
run-time constraint, ends the process.
-/

namespace Task6

open NulText

/-- A `char`. -/
abbrev Byte := UInt8

inductive Build where
  | debug
  | release
  deriving DecidableEq, Repr

/-- The process survives `assert(b)`. -/
def Build.asserts : Build → Bool → Bool
  | debug, b => b
  | release, _ => true

@[simp] theorem Build.asserts_true (build : Build) : build.asserts true = true := by
  cases build <;> rfl

/-- How a call ends; `died` is the end of the process: a failed assertion, an
access violation or a violated run-time constraint. -/
inductive Outcome (α : Type) where
  | returned (a : α)
  | threw (ex : Exn)
  | died
  deriving DecidableEq, Repr

/-- `memcpy(lpResult, buffer, size)` into a view of the mapping, or into NULL
when there is no view (harmless for no bytes at all). -/
def memcpy (mapped : Bool) (memory data : List Byte) : Option (List Byte) :=
  if mapped then some (overwrite memory data)
  else if data = [] then some memory else none

/-- `strnlen_s(view, maxSize)`: `none` when the scan leaves the view. -/
def strnlenS (view : List Byte) (maxSize : Nat) : Option Nat :=
  if 0 ∈ view.take maxSize then some (text view).length
  else if maxSize ≤ view.length then some maxSize else none

/-- What `strcpy_s` leaves behind the terminator: the debug version fills the
rest of the destination. -/
def Build.strcpyRest (dest : List Byte) (size used : Nat) : Build → List Byte
  | debug => List.replicate (size - used) 0xFE ++ dest.drop (max size used)
  | release => dest.drop used

/-- `strcpy_s(dest, size, src)`: `none` when the text and its terminator do not
fit in `size` bytes, or when there is no terminator to be found. -/
def strcpyS (build : Build) (dest : List Byte) (size : Nat) (src : List Byte) :
    Option (List Byte) :=
  if 0 ∈ src.take size then
    some (text src ++ 0 :: build.strcpyRest dest size ((text src).length + 1))
  else none

section Scan

variable {t rest : List Byte}

/-- The first NUL of a terminated text is within reach exactly when the
terminator is. -/
theorem zero_mem_take_terminated (ht : (0 : Byte) ∉ t) (n : Nat) :
    (0 : Byte) ∈ (t ++ 0 :: rest).take n ↔ t.length < n := by
  rw [List.take_append, List.mem_append]
  constructor
  · rintro (h | h)
    · exact absurd (List.mem_of_mem_take h) ht
    · by_contra hn
      rw [show n - t.length = 0 by omega] at h
      cases h
  · intro h
    obtain ⟨k, hk⟩ : ∃ k, n - t.length = k + 1 := ⟨n - t.length - 1, by omega⟩
    rw [hk]
    exact .inr (List.mem_cons_self ..)

theorem strnlenS_terminated (ht : (0 : Byte) ∉ t) {maxSize : Nat} (h : t.length < maxSize) :
    strnlenS (t ++ 0 :: rest) maxSize = some t.length := by
  rw [strnlenS, if_pos ((zero_mem_take_terminated ht maxSize).mpr h), text_append_zero ht]

theorem strcpyS_terminated (ht : (0 : Byte) ∉ t) {size : Nat} (h : t.length < size)
    (build : Build) (dest : List Byte) :
    strcpyS build dest size (t ++ 0 :: rest)
      = some (t ++ 0 :: build.strcpyRest dest size (t.length + 1)) := by
  rw [strcpyS, if_pos ((zero_mem_take_terminated ht size).mpr h), text_append_zero ht]

end Scan

end Task6
