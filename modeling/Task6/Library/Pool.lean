import Mathlib.Algebra.BigOperators.Fin
import Mathlib.Algebra.BigOperators.Intervals
import Mathlib.Algebra.Order.BigOperators.Group.Finset
import Mathlib.Tactic.Abel

/-!
# Pools of processes and what they hold

A pool is a family `Fin n → P` of process states, one of which moves at a time
(`Function.update`). A weight `w : P → Nat` says how much of a resource a
process holds in a given state; `total w` adds it up over the pool. Token
arguments need two facts about it: moving one member changes the total by that
member's weight only (`total_update`), and a bound on the total bounds every
member and every pair of members (`weight_le_total`, `weight_add_le_total`).
Where it matters which items they hold and not only how many, `gathered` collects
them (`gathered_update_eq`).
-/

namespace Pool

universe u v

variable {n : Nat} {P : Type u}

/-- What the members of the pool hold together. -/
def total (w : P → Nat) (f : Fin n → P) : Nat := ∑ i, w (f i)

/-- Moving member `i` to `v` exchanges its weight, of whatever kind. -/
theorem sum_update {M : Type v} [AddCommMonoid M] (w : P → M) (f : Fin n → P) (i : Fin n)
    (v : P) : ∑ j, w (Function.update f i v j) + w (f i) = ∑ j, w (f j) + w v := by
  -- take the member out of both sums; the others are the same
  have hsum : ∀ g : Fin n → P, ∑ j, w (g j) = w (g i) + ∑ j ∈ Finset.univ.erase i, w (g j) :=
    fun g => (Finset.add_sum_erase Finset.univ (fun j => w (g j)) (Finset.mem_univ i)).symm
  have hrest : ∑ j ∈ Finset.univ.erase i, w (Function.update f i v j)
      = ∑ j ∈ Finset.univ.erase i, w (f j) := by
    refine Finset.sum_congr rfl fun j hj => ?_
    rw [Function.update_of_ne (Finset.ne_of_mem_erase hj)]
  rw [hsum (Function.update f i v), hsum f, hrest, Function.update_self]
  abel

/-- Moving member `i` to `v` exchanges its weight. -/
theorem total_update (w : P → Nat) (f : Fin n → P) (i : Fin n) (v : P) :
    total w (Function.update f i v) + w (f i) = total w f + w v :=
  sum_update w f i v

/-- A move that keeps the member's weight keeps the total. -/
theorem total_update_of_eq {w : P → Nat} {f : Fin n → P} {i : Fin n} {v : P}
    (h : w v = w (f i)) : total w (Function.update f i v) = total w f := by
  have := total_update w f i v
  omega

theorem weight_le_total (w : P → Nat) (f : Fin n → P) (i : Fin n) : w (f i) ≤ total w f :=
  Finset.single_le_sum (f := fun j => w (f j)) (fun _ _ => Nat.zero_le _) (Finset.mem_univ i)

/-- Two different members hold no more than the pool does. -/
theorem weight_add_le_total (w : P → Nat) (f : Fin n → P) {i j : Fin n} (hij : i ≠ j) :
    w (f i) + w (f j) ≤ total w f := by
  have hsum := Finset.add_sum_erase Finset.univ (fun k => w (f k)) (Finset.mem_univ i)
  have hj : w (f j) ≤ ∑ k ∈ Finset.univ.erase i, w (f k) :=
    Finset.single_le_sum (f := fun k => w (f k)) (fun _ _ => Nat.zero_le _)
      (Finset.mem_erase.mpr ⟨hij.symm, Finset.mem_univ j⟩)
  show _ ≤ ∑ k, w (f k)
  omega

theorem total_eq_zero {w : P → Nat} {f : Fin n → P} (h : ∀ i, w (f i) = 0) : total w f = 0 :=
  Finset.sum_eq_zero fun i _ => h i

/-- What is held is held by a member. -/
theorem exists_ne_zero {w : P → Nat} {f : Fin n → P} (h : total w f ≠ 0) : ∃ i, w (f i) ≠ 0 := by
  by_contra hnone
  refine h (total_eq_zero fun i => ?_)
  by_contra hi
  exact hnone ⟨i, hi⟩

theorem total_add (v w : P → Nat) (f : Fin n → P) :
    total (fun p => v p + w p) f = total v f + total w f :=
  Finset.sum_add_distrib

/-- A weight below another one leaves at least the difference at any member. -/
theorem total_add_le_total {v w : P → Nat} (hle : ∀ p, v p ≤ w p) {f : Fin n → P} {i : Fin n}
    {k : Nat} (hi : v (f i) + k ≤ w (f i)) : total v f + k ≤ total w f := by
  have hsplit : total w f = total v f + total (fun p => w p - v p) f := by
    rw [← total_add]
    exact Finset.sum_congr rfl fun j _ => (Nat.add_sub_cancel' (hle (f j))).symm
  have hone := weight_le_total (fun p => w p - v p) f i
  omega

theorem total_le_total {v w : P → Nat} (hle : ∀ p, v p ≤ w p) (f : Fin n → P) :
    total v f ≤ total w f :=
  Finset.sum_le_sum fun i _ => hle (f i)

/-- Member by member, of two pools of the same size. -/
theorem total_le_of_le {Q : Type u} {v : P → Nat} {w : Q → Nat} {f : Fin n → P} {g : Fin n → Q}
    (h : ∀ i, v (f i) ≤ w (g i)) : total v f ≤ total w g :=
  Finset.sum_le_sum fun i _ => h i

/-- Only one member weighs anything. -/
theorem total_eq_single {w : P → Nat} {f : Fin n → P} {i : Fin n}
    (h : ∀ j, j ≠ i → w (f j) = 0) : total w f = w (f i) :=
  Fintype.sum_eq_single i h

/-- Weights of at most one each: the total is at most the number of members. -/
theorem total_le_card {w : P → Nat} {f : Fin n → P} (h : ∀ i, w (f i) ≤ 1) :
    total w f ≤ n := by
  calc total w f ≤ ∑ _i : Fin n, 1 := Finset.sum_le_sum fun i _ => h i
    _ = n := by simp

/-- And one of them weighs nothing. -/
theorem total_lt_card {w : P → Nat} {f : Fin n → P} (h : ∀ i, w (f i) ≤ 1) {i : Fin n}
    (hi : w (f i) = 0) : total w f < n := by
  calc total w f < ∑ _i : Fin n, 1 :=
        Finset.sum_lt_sum (fun i _ => h i) ⟨i, Finset.mem_univ i, by omega⟩
    _ = n := by simp

/-! ## What they hold, item by item -/

section Gathered

variable {Q : Type v} {w : P → Multiset Q} {f : Fin n → P}

def gathered (w : P → Multiset Q) (f : Fin n → P) : Multiset Q := ∑ i, w (f i)

theorem mem_gathered {q : Q} : q ∈ gathered w f ↔ ∃ i, q ∈ w (f i) := by
  simp [gathered, Multiset.mem_sum]

theorem card_gathered (w : P → Multiset Q) (f : Fin n → P) :
    (gathered w f).card = total (fun p => (w p).card) f :=
  Multiset.card_sum _ _

theorem countP_gathered (p : Q → Prop) [DecidablePred p] (w : P → Multiset Q) (f : Fin n → P) :
    (gathered w f).countP p = total (fun x => (w x).countP p) f :=
  map_sum (Multiset.countPAddMonoidHom p) _ _

/-- A member moves, and what is accounted for elsewhere moves with it. -/
theorem gathered_update_eq {i : Fin n} {v : P} {m m' : Multiset Q} (hm : gathered w f = m)
    (hbalance : w v + m = w (f i) + m') : gathered w (Function.update f i v) = m' := by
  have hsum : gathered w (Function.update f i v) + w (f i) = gathered w f + w v :=
    sum_update w f i v
  rw [hm, add_comm m, hbalance, add_comm] at hsum
  exact add_left_cancel hsum

/-- The same, as a balance with what is accounted for elsewhere. -/
theorem gathered_balance {i : Fin n} {v : P} {m m' : Multiset Q}
    (hbalance : m' + w (f i) = m + w v) :
    m' + gathered w f = m + gathered w (Function.update f i v) := by
  have hsum : gathered w (Function.update f i v) + w (f i) = gathered w f + w v :=
    sum_update w f i v
  refine add_right_cancel (b := w (f i)) ?_
  calc m' + gathered w f + w (f i) = m' + w (f i) + gathered w f := add_right_comm ..
    _ = m + (gathered w f + w v) := by rw [hbalance, add_assoc, add_comm (w v)]
    _ = m + gathered w (Function.update f i v) + w (f i) := by rw [← hsum, add_assoc]

/-- An item of a list, taken out by its place. -/
theorem coe_eraseIdx_add {l : List Q} {k : Nat} {q : Q} (hk : l[k]? = some q) :
    (l.eraseIdx k : Multiset Q) + {q} = l := by
  obtain ⟨hlt, rfl⟩ := List.getElem?_eq_some_iff.mp hk
  rw [add_comm, Multiset.singleton_add, Multiset.cons_coe]
  exact Multiset.coe_eq_coe.mpr (List.getElem_cons_eraseIdx_perm hlt)

/-- And exchanged for another one. -/
theorem coe_set_add {l : List Q} {k : Nat} {q : Q} (hk : l[k]? = some q) (q' : Q) :
    (l.set k q' : Multiset Q) + {q} = l + {q'} := by
  obtain ⟨hlt, -⟩ := List.getElem?_eq_some_iff.mp hk
  have hset : (l.set k q' : Multiset Q) = {q'} + (l.eraseIdx k : Multiset Q) := by
    rw [Multiset.singleton_add, Multiset.cons_coe]
    exact Multiset.coe_eq_coe.mpr (List.set_perm_cons_eraseIdx hlt q')
  rw [hset, add_assoc, coe_eraseIdx_add hk, add_comm]

end Gathered

end Pool
