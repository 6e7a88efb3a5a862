import Task6.Library.Ownership

/-!
# RaiiLock

A `RaiiLock` enters a critical section when it is constructed from one and leaves
it when it is destroyed; `none` is `nullptr`. Its move assignment goes the other
way: it gives the source what the destination referred to and leaves the
destination without a section, so what the source referred to is never left.

- `RaiiLock.transferring`: what a move is meant to do.
- `RaiiLock.keeps_balanced_iff`: entries and leaves are balanced, and moves
  transfer references, exactly when nothing that refers to a section is moved from
  or assigned to.
-/

namespace Task6

namespace RaiiLock

universe u

variable {CriticalSection : Type u}

/-- The class. The move constructor delegates to `RaiiLock()` before it assigns; a
section can be entered again. -/
def raiiLock : OwnerClass CriticalSection where
  default := none
  adopt := some
  moveInit := fun _ => none
  moveAssign := fun self this other =>
    if self then { this := this, other := other, released := [] }
    -- other.critSec = this->critSec; this->critSec = nullptr;
    else { this := none, other := this, released := [] }
  destroy := Option.toList
  admits := fun _ _ => true

/-- Locks whose moves release the section of the destination and transfer the
reference of the source. -/
def transferring : OwnerClass CriticalSection := .handOver (fun _ => none) fun _ _ => true

/-- The member function does what it does for locks whose moves transfer. -/
def Transfers (s : Holdings CriticalSection) (e : OwnerEvent CriticalSection) : Prop :=
  raiiLock.machine.step s e = transferring.machine.step s e

/-- A move involves no reference to a section, unless it is from an object to
itself. -/
def MovesNothing (s : Holdings CriticalSection) : OwnerEvent CriticalSection → Prop
  | .moveConstruct _ other => s.live other = some none
  | .moveAssign this other =>
    this = other ∨ s.live this = some none ∧ s.live other = some none
  | .default | .construct _ | .destroy _ => True

/-- The entry and leave counts of every section differ by the number of objects
that refer to it, and not at all once every object is destroyed. -/
def KeepsBalanced [DecidableEq CriticalSection] (s : Holdings CriticalSection) : Prop :=
  s.Balanced ∧
    (s.AllDestroyed → ∀ critSec, s.acquired.count critSec = s.released.count critSec)

variable {s s' : Holdings CriticalSection} {e : OwnerEvent CriticalSection}

/-- The two classes leave the same objects after an assignment only where neither
object refers to a section. -/
theorem set_set_eq_iff {objects : List (Option (Option CriticalSection))} {this other : Nat}
    {mine held : Option CriticalSection} (hthis : objects[this]? = some (some mine))
    (hother : objects[other]? = some (some held)) (hne : this ≠ other) :
    (objects.set this (some none)).set other (some mine)
        = (objects.set this (some held)).set other (some none)
      ↔ mine = none ∧ held = none := by
  constructor
  · intro h
    have hat (i : Nat) : ((objects.set this (some none)).set other (some mine))[i]?
        = ((objects.set this (some held)).set other (some none))[i]? := by
      rw [h]
    have hlt := (List.getElem?_eq_some_iff.mp hthis).1
    have hlt' := (List.getElem?_eq_some_iff.mp hother).1
    have hatThis := hat this
    have hatOther := hat other
    constructor
    · simpa [hlt'] using hatOther
    · simpa [hne.symm, hlt, eq_comm] using hatThis
  · rintro ⟨rfl, rfl⟩
    rfl

/-- A move transfers exactly when there is nothing to transfer. -/
theorem transfers_iff (hs : raiiLock.machine.step s e = some s') :
    Transfers s e ↔ MovesNothing s e := by
  rw [Transfers]
  cases OwnerClass.steps_of_step hs with
  | default => exact iff_true_intro rfl
  | construct hnew => exact iff_true_intro rfl
  | destroy hthis =>
    refine iff_true_intro ?_
    rw [OwnerClass.step_destroy hthis, OwnerClass.step_destroy hthis]
    rfl
  | @moveConstruct storage other held hother m hm =>
    rw [OwnerClass.step_moveConstruct hother, OwnerClass.step_moveConstruct hother, MovesNothing,
      hother]
    simp [raiiLock, transferring, OwnerClass.handOver, eq_comm]
  | @moveAssign this other mine held hthis hother m hm =>
    rw [OwnerClass.step_moveAssign hthis hother, OwnerClass.step_moveAssign hthis hother,
      MovesNothing, hthis, hother]
    by_cases hself : this = other
    · subst hself
      cases hthis.symm.trans hother
      simp [raiiLock, transferring, OwnerClass.handOver]
    · have hobjects := set_set_eq_iff (Holdings.getElem?_of_live hthis)
        (Holdings.getElem?_of_live hother) hself
      simp only [raiiLock, transferring, OwnerClass.handOver, beq_iff_eq, hself, if_false,
        List.append_nil, Option.some.injEq, Holdings.mk.injEq, List.self_eq_append_right,
        Option.toList_eq_nil_iff, true_and, false_or]
      rw [hobjects]
      exact ⟨fun h => h.1, fun h => ⟨h, h.1⟩⟩

variable [DecidableEq CriticalSection]

theorem KeepsBalanced.of_balanced (h : s.Balanced) : KeepsBalanced s :=
  ⟨h, fun hdestroyed => h.released_eq hdestroyed⟩

/-- A step that transfers keeps the balance. -/
theorem balanced_of_transfers (h : s.Balanced) (hs : raiiLock.machine.step s e = some s')
    (htransfers : Transfers s e) : s'.Balanced := by
  rw [htransfers] at hs
  refine (OwnerClass.balanced_step_iff h hs).mpr (OwnerClass.conserves_handOver_iff.mpr ?_)
  cases e with
  | moveConstruct => rfl
  | default | construct | moveAssign | destroy => trivial

/-- **RaiiLock, exactly**: in a run every section's entries and leaves are balanced
at each point and every move transfers what the source refers to, if and only if
there is never anything to transfer. -/
theorem keeps_balanced_iff (es : List (OwnerEvent CriticalSection)) :
    raiiLock.machine.Always KeepsBalanced raiiLock.machine.init es
        ∧ raiiLock.machine.EachStep Transfers raiiLock.machine.init es
      ↔ raiiLock.machine.EachStep MovesNothing raiiLock.machine.init es := by
  have htransfers : raiiLock.machine.EachStep Transfers raiiLock.machine.init es
      ↔ raiiLock.machine.EachStep MovesNothing raiiLock.machine.init es :=
    Machine.eachStep_congr (I := fun _ => True) (fun _ _ _ _ _ => trivial)
      (fun _ _ _ _ hs => transfers_iff hs) trivial es
  refine ⟨fun h => htransfers.mp h.2, fun h => ⟨?_, htransfers.mpr h⟩⟩
  exact Machine.always_of_eachStep (I := fun s => s.Balanced)
    (fun _ h => .of_balanced h)
    (fun _ _ _ h hs hQ => balanced_of_transfers h hs ((transfers_iff hs).mpr hQ))
    (OwnerClass.balanced_init (C := raiiLock)) h

/-- A lock is moved once: the section it entered is never left. -/
theorem moved_lock_stays_entered :
    ¬ ((raiiLock : OwnerClass Nat).machine.Always KeepsBalanced
          (raiiLock : OwnerClass Nat).machine.init
          [.construct 7, .moveConstruct none 0, .destroy 1, .destroy 0]
        ∧ (raiiLock : OwnerClass Nat).machine.EachStep Transfers
          (raiiLock : OwnerClass Nat).machine.init
          [.construct 7, .moveConstruct none 0, .destroy 1, .destroy 0]) := by
  rintro ⟨halways, -⟩
  refine Machine.not_always_of_exec (t := ⟨[none, none], [7], []⟩) rfl (fun h => ?_) halways
  exact absurd (h.2 (by decide) 7) (by decide)

end RaiiLock

end Task6
