import Mathlib.Data.List.TakeWhile
import Mathlib.Algebra.Notation.Defs

/-!
# Texts that end at their first NUL

Memory is a list of cells, a NUL is the cell `0`, and the text a memory holds is
what stands before its first NUL. A writer that stores a text without a
terminator (`overwrite`) leaves the cells behind it as they were: the memory then
holds the text followed by whatever of the older text sticks out
(`overwrite_zeros`), which is the text alone exactly when nothing does
(`append_drop_eq_iff`).
-/

namespace NulText

universe u

variable {α : Type u}

/-- Store `data` at the beginning of `mem`. -/
def overwrite (mem data : List α) : List α := data ++ mem.drop data.length

theorem length_overwrite {mem data : List α} (h : data.length ≤ mem.length) :
    (overwrite mem data).length = mem.length := by
  simp only [overwrite, List.length_append, List.length_drop]
  omega

/-- `data` followed by the rest of an older text is `data` alone exactly when
the older text was not longer. -/
theorem append_drop_eq_iff {t data : List α} :
    data ++ t.drop data.length = data ↔ t.length ≤ data.length := by
  constructor
  · intro h
    have := congrArg List.length h
    simp only [List.length_append, List.length_drop] at this
    omega
  · intro h
    rw [List.drop_eq_nil_of_le h, List.append_nil]

theorem length_append_drop (t data : List α) :
    (data ++ t.drop data.length).length = max t.length data.length := by
  simp only [List.length_append, List.length_drop]
  omega

section Terminated

variable [Zero α]

/-- Storing over a text that only NULs follow leaves such a text. -/
theorem overwrite_zeros (t data : List α) (k : Nat) :
    overwrite (t ++ List.replicate k 0) data
      = (data ++ t.drop data.length) ++ List.replicate (k - (data.length - t.length)) 0 := by
  rw [overwrite, List.drop_append, List.drop_replicate, List.append_assoc]

variable [DecidableEq α]

/-- The cells before the first NUL. -/
def text (mem : List α) : List α := mem.takeWhile (· ≠ 0)

theorem zero_not_mem_text (mem : List α) : (0 : α) ∉ text mem := by
  intro h
  simpa using List.mem_takeWhile_imp h

/-- A text followed by a NUL is read back. -/
theorem text_append_zero {t : List α} (ht : (0 : α) ∉ t) (rest : List α) :
    text (t ++ 0 :: rest) = t := by
  have hpos : ∀ a ∈ t, (fun x : α => decide (x ≠ 0)) a = true := by
    intro a ha
    rw [decide_eq_true_iff]
    rintro rfl
    exact ht ha
  unfold text
  rw [List.takeWhile_append_of_pos hpos]
  simp

theorem text_append_zeros {t : List α} (ht : (0 : α) ∉ t) (k : Nat) :
    text (t ++ List.replicate k 0) = t := by
  cases k with
  | zero =>
    rw [List.replicate_zero, List.append_nil]
    refine List.takeWhile_eq_self_iff.mpr fun a ha => decide_eq_true ?_
    rintro rfl
    exact ht ha
  | succ k => exact text_append_zero ht _

/-- Putting a NUL behind a text makes it the text of the memory. -/
theorem text_set_zero {mem : List α} {k : Nat} (hk : k < mem.length)
    (h : (0 : α) ∉ mem.take k) : text (mem.set k 0) = mem.take k := by
  rw [List.set_eq_take_append_cons_drop, if_pos hk]
  exact text_append_zero h _

/-- A memory with a NUL is its text, that NUL, and the rest. -/
theorem eq_text_append {mem : List α} (h : (0 : α) ∈ mem) :
    ∃ rest, mem = text mem ++ 0 :: rest := by
  induction mem with
  | nil => cases h
  | cons a l ih =>
    by_cases ha : a = 0
    · subst ha
      exact ⟨l, by simp [text]⟩
    · have hl : (0 : α) ∈ l := by
        rcases List.mem_cons.mp h with h0 | h0
        · exact absurd h0.symm ha
        · exact h0
      obtain ⟨rest, hrest⟩ := ih hl
      have htext : text (a :: l) = a :: text l := by simp [text, ha]
      exact ⟨rest, by rw [htext, List.cons_append, ← hrest]⟩

end Terminated

end NulText
