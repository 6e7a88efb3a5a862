import Mathlib.Data.List.Basic

/-!
# Numbers within texts

A number written in decimal digits can be read off a text when the text behind it
does not go on with digits (`digits_append_inj`).
-/

namespace Decimal

/-- The decimal digits of a number, as `toString` writes them. -/
def digits (n : Nat) : List Char := Nat.toDigits 10 n

theorem toList_toString (n : Nat) : (toString n).toList = digits n := by
  rw [Nat.toString_eq_ofList_toDigits, String.toList_ofList]
  rfl

theorem isDigit_of_mem {n : Nat} {c : Char} (h : c ∈ digits n) : c.isDigit = true :=
  Nat.isDigit_of_mem_toDigits (by decide) (by decide) h

theorem digits_injective : Function.Injective digits := by
  intro m n h
  have hval := congrArg (fun ds => Nat.ofDigitChars 10 ds 0) h
  simpa [digits] using hval

/-- A run of one kind of elements ends where another kind begins. -/
theorem run_append_inj {α : Type} {p : α → Bool} {xs ys as bs : List α} {a b : α}
    (hxs : ∀ x ∈ xs, p x = true) (hys : ∀ y ∈ ys, p y = true) (ha : p a = false)
    (hb : p b = false) (h : xs ++ a :: as = ys ++ b :: bs) : xs = ys ∧ a :: as = b :: bs := by
  have hruns := congrArg (List.takeWhile p) h
  simp only [List.takeWhile_append_of_pos hxs, List.takeWhile_append_of_pos hys,
    List.takeWhile_cons, ha, hb, Bool.false_eq_true, if_false, List.append_nil] at hruns
  subst hruns
  exact ⟨rfl, List.append_cancel_left h⟩

variable {m n : Nat} {a b : Char} {as bs : List Char}

/-- A number in front of something else. -/
theorem digits_append_inj (ha : a.isDigit = false) (hb : b.isDigit = false)
    (h : digits m ++ a :: as = digits n ++ b :: bs) : m = n ∧ a :: as = b :: bs := by
  obtain ⟨hdigits, hrest⟩ := run_append_inj (fun _ => isDigit_of_mem) (fun _ => isDigit_of_mem)
    ha hb h
  exact ⟨digits_injective hdigits, hrest⟩

/-- A number in front of a separator. -/
theorem digits_append_sep_inj {sep : List Char} (hsep : (sep.head?.any (!·.isDigit)) = true)
    (h : digits m ++ (sep ++ as) = digits n ++ (sep ++ bs)) : m = n ∧ as = bs := by
  cases sep with
  | nil => cases hsep
  | cons c rest =>
    have hc : c.isDigit = false := by simpa using hsep
    obtain ⟨hnumber, hrest⟩ := digits_append_inj hc hc h
    exact ⟨hnumber, List.append_cancel_left (List.cons.inj hrest).2⟩

end Decimal
