import Mathlib.Data.List.Forall2
import Task6.SharedMemory.Transfer

/-!
# Round trips through the shared memory

A message is written without its terminator and without its length, and read up
to the first NUL of a mapping that is never cleared. Over a run of exchanges the
mapping therefore holds the last message followed by the end of a longer
earlier one (`exchange_terminated`), and all the messages are read back exactly
when none is shorter than one before it (`roundTrip_iff`).
-/

namespace Task6

open NulText

/-- A NUL-free message that leaves room for a terminator. -/
structure Message (bufferSize : Nat) where
  text : List Byte
  noNul : (0 : Byte) ∉ text
  fits : text.length < bufferSize

/-- The mapping and the server's buffer. -/
structure Transport where
  memory : List Byte
  buffer : List Byte

namespace Transport

/-- The server just started: Windows fills the mapping with zeros. -/
def create (bufferSize : Nat) (buffer : List Byte) : Transport :=
  ⟨List.replicate bufferSize 0, buffer⟩

/-- One message: some client's `writeData` and the server's `getData` with a
buffer of `bufferSize` bytes, every Windows call succeeding. The view ends
`slack` bytes behind the mapping, with its last page. -/
def exchange (build : Build) (bufferSize slack : Nat) (tr : Transport) (data : List Byte) :
    Outcome Nat × Transport :=
  let written := writeData build ⟨.object0, true, true, true⟩ tr.memory data
  let got := getData build ⟨some (bufferSize + slack), Win32.errorSuccess, true, true⟩ bufferSize
    written.memory tr.buffer bufferSize
  (got.outcome, ⟨written.memory, got.buffer⟩)

/-- The exchanges of a run: what each `getData` answers and leaves in the
buffer. -/
def exchanges (build : Build) (bufferSize slack : Nat) :
    Transport → List (Message bufferSize) → List (Outcome Nat × List Byte)
  | _, [] => []
  | tr, m :: ms =>
    let next := tr.exchange build bufferSize slack m.text
    (next.1, next.2.buffer) :: exchanges build bufferSize slack next.2 ms

/-- The message is what `getData` answered: its length, and its bytes with a
terminator at the beginning of the buffer. -/
def Exact {bufferSize : Nat} (m : Message bufferSize) (got : Outcome Nat × List Byte) : Prop :=
  got.1 = .returned m.text.length ∧ m.text ++ [0] <+: got.2

/-- The mapping holds the text `t` and nothing but NULs behind it. -/
structure Holds (bufferSize : Nat) (tr : Transport) (t : List Byte) : Prop where
  noNul : (0 : Byte) ∉ t
  fits : t.length < bufferSize
  memory : tr.memory = t ++ List.replicate (bufferSize - t.length) 0

theorem holds_create {bufferSize : Nat} (h : 0 < bufferSize) (buffer : List Byte) :
    Holds bufferSize (create bufferSize buffer) [] :=
  ⟨List.not_mem_nil, h, rfl⟩

theorem writeData_granted (build : Build) {memory data : List Byte}
    (h : data.length ≤ memory.length) :
    writeData build ⟨.object0, true, true, true⟩ memory data
      = ⟨.returned true, overwrite memory data, true⟩ := by
  have hview : WriteAnswers.hasView ⟨.object0, true, true, true⟩ memory data = true := by
    simp [WriteAnswers.hasView, h]
  simp only [writeData, hview, memcpy, Build.asserts_true, if_true, Bool.and_self]

theorem getData_granted (build : Build) {t rest : List Byte} (ht : (0 : Byte) ∉ t)
    {bufferSize readable : Nat} (hfit : t.length < bufferSize) {memory : List Byte}
    (hview : viewOf memory readable = t ++ 0 :: rest) (lastError : DWORD) (buffer : List Byte) :
    getData build ⟨some readable, lastError, true, true⟩ bufferSize memory buffer bufferSize
      = ⟨.returned t.length, t ++ 0 :: build.strcpyRest buffer bufferSize (t.length + 1),
          true⟩ := by
  have hnot : ¬ bufferSize < t.length := by omega
  simp only [getData, hview, copyText_terminated ht hfit hfit, Build.asserts_true, if_true,
    Bool.and_self, if_neg hnot]

/-- One exchange: the message lands on the old text, and `getData` reads the
message and what of the old text sticks out behind it. -/
theorem exchange_terminated {bufferSize : Nat} {tr : Transport} {t : List Byte}
    (h : Holds bufferSize tr t) (build : Build) (slack : Nat) (m : Message bufferSize) :
    Holds bufferSize (tr.exchange build bufferSize slack m.text).2
        (m.text ++ t.drop m.text.length) ∧
      (tr.exchange build bufferSize slack m.text).1
        = .returned (m.text ++ t.drop m.text.length).length ∧
      (m.text ++ t.drop m.text.length) ++ [0]
        <+: (tr.exchange build bufferSize slack m.text).2.buffer := by
  have hm := m.fits
  have ht := h.fits
  have hlen : tr.memory.length = bufferSize := by
    rw [h.memory, List.length_append, List.length_replicate]
    omega
  have hwrite := writeData_granted build (show m.text.length ≤ tr.memory.length by omega)
  have hnew : overwrite tr.memory m.text = (m.text ++ t.drop m.text.length) ++
      List.replicate (bufferSize - (m.text ++ t.drop m.text.length).length) 0 := by
    rw [h.memory, overwrite_zeros, length_append_drop]
    congr 2
    omega
  have hnul : (0 : Byte) ∉ m.text ++ t.drop m.text.length := by
    rw [List.mem_append]
    rintro (h0 | h0)
    · exact m.noNul h0
    · exact h.noNul (List.mem_of_mem_drop h0)
  have hfit : (m.text ++ t.drop m.text.length).length < bufferSize := by
    rw [length_append_drop]
    omega
  -- the view is the new text, its NUL, and zeros
  have hview : viewOf (overwrite tr.memory m.text) (bufferSize + slack)
      = (m.text ++ t.drop m.text.length) ++ 0 :: (List.replicate (bufferSize
          - (m.text ++ t.drop m.text.length).length - 1) 0 ++ List.replicate slack 0) := by
    have hmem : (overwrite tr.memory m.text).length = bufferSize := by
      rw [length_overwrite (by omega), hlen]
    rw [viewOf_of_le (by omega), hmem, Nat.add_sub_cancel_left, hnew, List.append_assoc]
    obtain ⟨k, hk⟩ : ∃ k, bufferSize - (m.text ++ t.drop m.text.length).length = k + 1 :=
      ⟨bufferSize - (m.text ++ t.drop m.text.length).length - 1, by omega⟩
    rw [hk, List.replicate_succ, List.cons_append, Nat.add_sub_cancel]
  have hget := getData_granted build hnul hfit hview Win32.errorSuccess tr.buffer
  refine ⟨⟨hnul, hfit, ?_⟩, ?_, ?_⟩
  · simp only [exchange, hwrite]
    exact hnew
  · simp only [exchange, hwrite, hget]
  · simp only [exchange, hwrite, hget]
    exact ⟨_, by rw [List.append_assoc, List.singleton_append]⟩

/-- The exchange is exact when the old text does not stick out, and only then. -/
theorem exact_exchange_iff {bufferSize : Nat} {tr : Transport} {t : List Byte}
    (h : Holds bufferSize tr t) (build : Build) (slack : Nat) (m : Message bufferSize) :
    Exact m ((tr.exchange build bufferSize slack m.text).1,
        (tr.exchange build bufferSize slack m.text).2.buffer)
      ↔ t.length ≤ m.text.length := by
  obtain ⟨-, hret, hbuf⟩ := exchange_terminated h build slack m
  constructor
  · rintro ⟨hlen, -⟩
    have heq := hret.symm.trans hlen
    rw [Outcome.returned.injEq, length_append_drop] at heq
    omega
  · intro hle
    rw [append_drop_eq_iff.mpr hle] at hret hbuf
    exact ⟨hret, hbuf⟩

/-- A run from a mapping that holds `t`. -/
theorem exact_exchanges_iff {bufferSize : Nat} (build : Build) (slack : Nat)
    (msgs : List (Message bufferSize)) {tr : Transport} {t : List Byte}
    (h : Holds bufferSize tr t) :
    List.Forall₂ Exact msgs (exchanges build bufferSize slack tr msgs) ↔
      (∀ m ∈ msgs, t.length ≤ m.text.length) ∧
        msgs.Pairwise fun a b => a.text.length ≤ b.text.length := by
  -- the text in the mapping is general: each exchange leaves another one
  induction msgs generalizing tr t with
  | nil => simp [exchanges]
  | cons m ms ih =>
    rw [exchanges, List.forall₂_cons, exact_exchange_iff h, List.pairwise_cons,
      List.forall_mem_cons]
    obtain ⟨hnext, -, -⟩ := exchange_terminated h build slack m
    constructor
    · rintro ⟨hle, hrest⟩
      -- an exact exchange leaves the message alone in the mapping
      rw [append_drop_eq_iff.mpr hle] at hnext
      obtain ⟨hall, hsorted⟩ := (ih hnext).mp hrest
      exact ⟨⟨hle, fun m' hm' => Nat.le_trans hle (hall m' hm')⟩, hall, hsorted⟩
    · rintro ⟨⟨hle, -⟩, hall, hsorted⟩
      rw [append_drop_eq_iff.mpr hle] at hnext
      exact ⟨hle, (ih hnext).mpr ⟨hall, hsorted⟩⟩

/-- **The shared-memory round trip, exactly**: for any mapping size, any build
and any sequence of messages that fit, every `getData` answers the message just
written if and only if no message is shorter than an earlier one. -/
theorem roundTrip_iff (build : Build) (bufferSize slack : Nat) (buffer : List Byte)
    (msgs : List (Message bufferSize)) :
    List.Forall₂ Exact msgs
        (exchanges build bufferSize slack (create bufferSize buffer) msgs) ↔
      msgs.Pairwise fun a b => a.text.length ≤ b.text.length := by
  cases msgs with
  | nil => simp [exchanges]
  | cons m ms =>
    have hpos : 0 < bufferSize := Nat.lt_of_le_of_lt (Nat.zero_le _) m.fits
    rw [exact_exchanges_iff build slack (m :: ms) (holds_create hpos buffer)]
    exact ⟨fun h => h.2, fun h => ⟨fun _ _ => Nat.zero_le _, h⟩⟩

/-- `"abc"`, then `"x"`. -/
def shrinkingMessages : List (Message 8) :=
  [⟨[97, 98, 99], by decide, by decide⟩, ⟨[120], by decide, by decide⟩]

/-- The second `getData` answers `"xbc"`. -/
theorem roundTrip_broken :
    ¬ List.Forall₂ Exact shrinkingMessages
      (exchanges .release 8 0 (create 8 (List.replicate 8 0)) shrinkingMessages) := by
  intro h
  cases h with
  | cons _ hrest =>
    cases hrest with
    | cons hexact _ => exact absurd hexact.1 (by decide)

end Transport

end Task6
