import Task6.SharedMemory.Turn

/-!
# `getData` at every length

Windows gives `getData` a view of as many bytes as the caller's buffer has, or
as the mapping has if that is less. The scan for the NUL goes as far as the
mapping, and a text as long as the buffer is copied too. `getDataRight_iff` says
for which contents and sizes neither matters.
-/

namespace Task6

open NulText

/-- The view is the one asked for, `min(size, bufferSize)` bytes. -/
def viewGranted (memory : List Byte) (size : Nat) (lastError : DWORD)
    (unmapped signalled : Bool) : GetAnswers :=
  ⟨some (min size memory.length), lastError, unmapped, signalled⟩

theorem viewOf_granted (memory : List Byte) (size : Nat) :
    viewOf memory (min size memory.length) = memory.take (min size memory.length) := by
  rw [viewOf, Nat.sub_eq_zero_of_le (Nat.min_le_right ..), List.replicate_zero, List.append_nil]

/-- A call of `getData` with a view of the first bytes of `memory` is safe, and
answers the text or finds the buffer too small, whichever is true. -/
structure GetDataRight (build : Build) (memory view buffer : List Byte) (size : Nat)
    (r : GetResult) : Prop where
  /-- the scan ends inside the view -/
  inView : strnlenS view memory.length ≠ none
  /-- what is copied fits with its terminator, which is in the view -/
  fits : ∀ n, strnlenS view memory.length = some n → n ≤ size →
    strcpyS build buffer size view ≠ none
  answers : r.outcome = .returned (text memory).length ∧ text memory ++ [0] <+: r.buffer ∨
    r.outcome = .threw (.invalidArgument "Buffer is too small.") ∧ r.buffer = buffer
  tooSmall : r.outcome = .threw (.invalidArgument "Buffer is too small.") ↔
    size < (text memory).length + 1

section

variable {memory : List Byte} {size : Nat}

/-- A NUL in the view is the first one of the mapping. -/
theorem view_terminated (h : 0 ∈ memory.take (min size memory.length)) :
    (text memory).length < size ∧ (text memory).length < memory.length ∧
      ∃ rest, memory.take (min size memory.length) = text memory ++ 0 :: rest := by
  have hmem := List.mem_of_mem_take h
  have hlt := (zero_mem_take_iff hmem _).mp h
  obtain ⟨rest, hrest⟩ := eq_text_append hmem
  refine ⟨by omega, by omega, rest.take (min size memory.length - (text memory).length - 1), ?_⟩
  obtain ⟨k, hk⟩ : ∃ k, min size memory.length - (text memory).length = k + 1 :=
    ⟨min size memory.length - (text memory).length - 1, by omega⟩
  generalize min size memory.length = n at *
  conv_lhs => rw [hrest]
  rw [List.take_append, List.take_of_length_le (by omega), hk, List.take_succ_cons,
    Nat.add_sub_cancel]

/-- Without a NUL in the view the scan leaves it, or the copy does. -/
theorem not_getDataRight {build : Build} {buffer : List Byte} {r : GetResult}
    (h : 0 ∉ memory.take (min size memory.length)) :
    ¬ GetDataRight build memory (memory.take (min size memory.length)) buffer size r := by
  intro hright
  have hscan : ∀ n, 0 ∉ (memory.take (min size memory.length)).take n :=
    fun n hmem => h (List.mem_of_mem_take hmem)
  have hlen : (memory.take (min size memory.length)).length = min size memory.length := by
    rw [List.length_take]
    omega
  by_cases hsize : memory.length ≤ size
  · -- the view is the mapping, and the copy finds no terminator in it
    have hn : strnlenS (memory.take (min size memory.length)) memory.length
        = some memory.length := by
      rw [strnlenS, if_neg (hscan _), if_pos (by omega)]
    refine hright.fits memory.length hn hsize ?_
    rw [strcpyS, if_neg (hscan _)]
  · -- the mapping goes on behind the view
    refine hright.inView ?_
    rw [strnlenS, if_neg (hscan _), if_neg (by omega)]

/-- With a NUL in the view the text is copied, whatever its length. -/
theorem getData_terminated (h : 0 ∈ memory.take (min size memory.length)) (build : Build)
    (buffer : List Byte) (lastError : DWORD) (unmapped signalled : Bool) :
    getData build (viewGranted memory size lastError unmapped signalled) memory.length memory
        buffer size =
      if build.asserts unmapped && build.asserts signalled then
        ⟨.returned (text memory).length,
          text memory ++ 0 :: build.strcpyRest buffer size ((text memory).length + 1), signalled⟩
      else ⟨.died, text memory ++ 0 :: build.strcpyRest buffer size ((text memory).length + 1),
        false⟩ := by
  obtain ⟨hlt, hmap, rest, hview⟩ := view_terminated h
  have hnot : ¬ size < (text memory).length := by omega
  simp only [getData, viewGranted, viewOf_granted, hview,
    copyText_terminated (zero_not_mem_text memory) hmap hlt, if_neg hnot]

theorem getDataRight_terminated (h : 0 ∈ memory.take (min size memory.length)) (build : Build)
    (buffer : List Byte) (signalled : Bool) :
    GetDataRight build memory (memory.take (min size memory.length)) buffer size
      ⟨.returned (text memory).length,
        text memory ++ 0 :: build.strcpyRest buffer size ((text memory).length + 1),
        signalled⟩ := by
  obtain ⟨hlt, hmap, rest, hview⟩ := view_terminated h
  rw [hview]
  constructor
  · rw [strnlenS_terminated (zero_not_mem_text memory) hmap]
    exact Option.some_ne_none _
  · intro n _ _
    rw [strcpyS_terminated (zero_not_mem_text memory) hlt]
    exact Option.some_ne_none _
  · exact .inl ⟨rfl, ⟨_, by rw [List.append_assoc, List.singleton_append]⟩⟩
  · refine ⟨fun hthrew => (by cases hthrew), fun hlong => ?_⟩
    omega

end

/-- **getData, exactly**: for any mapping, any buffer and any size, the call stays
in its view, copies only what fits, and answers the text or that the buffer is
too small, whichever is true, if and only if there is a NUL among the first
`min(size, bufferSize)` bytes and no assertion about `UnmapViewOfFile` or
`SetEvent` fails. -/
theorem getDataRight_iff (build : Build) (memory buffer : List Byte) (size : Nat)
    (lastError : DWORD) (unmapped signalled : Bool) :
    GetDataRight build memory (viewOf memory (min size memory.length)) buffer size
        (getData build (viewGranted memory size lastError unmapped signalled) memory.length memory
          buffer size) ↔
      0 ∈ memory.take (min size memory.length) ∧
        (build.asserts unmapped && build.asserts signalled) = true := by
  rw [viewOf_granted]
  by_cases h : 0 ∈ memory.take (min size memory.length)
  · rw [getData_terminated h, and_iff_right h]
    cases build.asserts unmapped && build.asserts signalled with
    | true => exact iff_of_true (getDataRight_terminated h build buffer signalled) rfl
    | false =>
      refine iff_of_false (fun hright => ?_) (by decide)
      rcases hright.answers with ⟨hout, -⟩ | ⟨hout, -⟩ <;> cases hout
  · exact iff_of_false (not_getDataRight h) fun hmem => h hmem.1

/-- A mapping that a client has filled with a text as long as it is. -/
def fullMapping : List Byte := List.replicate 8 97

/-- Its text is copied to a buffer of that size, where there is no room for a
terminator, instead of being refused. -/
theorem getDataRight_broken :
    ¬ GetDataRight .release fullMapping (viewOf fullMapping (min 8 fullMapping.length))
      (List.replicate 8 0) 8 (getData .release
        (viewGranted fullMapping 8 Win32.errorSuccess true true) fullMapping.length fullMapping
        (List.replicate 8 0) 8) := by
  intro hright
  rcases hright.answers with ⟨hout, -⟩ | ⟨hout, -⟩
  · exact absurd hout (by decide)
  · exact absurd hout (by decide)

end Task6
