import Task6.Library.Machine
import Mathlib.Data.List.Nodup
import Mathlib.Data.List.Perm.Basic

/-!
# Objects that own a resource

Objects of a class own at most one resource each: they take it when they are
constructed, hand it on when they are moved from and release it when they are
destroyed. What the member functions of such a class do is an `OwnerClass`; a
`Holdings` is all its objects, with what was acquired and released so far.

- `OwnerClass.machine`: any number of objects under any sequence of
  constructions, moves and destructions.
- `Holdings.Balanced`: each resource was acquired as often as it is held or was
  released.
- `OwnerClass.balanced_step_iff`: a member function keeps the books right exactly
  when it leaves what it finds (`Conserves`).
- `OwnerClass.handOver`: the class whose moves hand over what the source holds;
  `conserves_handOver_iff` says when it conserves.
- `Holdings.SingleOwner`: where a resource is acquired only once, balanced books
  are single ownership (`singleOwner_iff`), throughout a run exactly when each of
  its calls conserves (`releasedOnce_always_iff`).
-/

universe u

/-- What a move assignment leaves in the destination and in the source, and what
it releases. -/
structure Moved (H : Type u) where
  this : Option H
  other : Option H
  released : List H

/-- The member functions, on what the objects hold. -/
structure OwnerClass (H : Type u) where
  /-- The default constructor. -/
  default : Option H
  /-- The constructor from a resource. -/
  adopt : H → Option H
  /-- What the move constructor has in the new object when it starts to assign;
  its argument is what was in the storage. -/
  moveInit : Option H → Option H
  /-- Move assignment; the first argument says that the source is the destination
  itself. -/
  moveAssign : Bool → Option H → Option H → Moved H
  /-- The destructor: what it releases. -/
  destroy : Option H → List H
  /-- A resource can be acquired after those of the list. -/
  admits : List H → H → Bool

/-- The objects in the order of their construction, `none` for one that has been
destroyed; the resources acquired and released, in order. -/
structure Holdings (H : Type u) where
  objects : List (Option (Option H))
  acquired : List H
  released : List H
  deriving DecidableEq

/-- A call of a member function; objects are named by their position. -/
inductive OwnerEvent (H : Type u) where
  | default
  | construct (h : H)
  | moveConstruct (storage : Option H) (other : Nat)
  | moveAssign (this other : Nat)
  | destroy (this : Nat)

variable {H : Type u}

/-- A replaced element of a list is no longer counted, the new one is. -/
theorem List.count_set_add {α : Type u} [BEq α] {l : List α} {i : Nat} {old : α}
    (hi : l[i]? = some old) (new x : α) :
    (l.set i new).count x + [old].count x = l.count x + [new].count x := by
  induction l generalizing i with
  | nil => cases hi
  | cons a l ih =>
    cases i with
    | zero =>
      cases hi
      simp only [List.set_cons_zero, List.count_cons, List.count_nil]
      omega
    | succ i =>
      have hset := ih hi
      simp only [List.set_cons_succ, List.count_cons, List.count_nil] at hset ⊢
      omega

theorem List.count_some_some [DecidableEq H] (held : Option H) (h : H) :
    [some held].count (some (some h)) = held.toList.count h := by
  cases held with
  | none => rfl
  | some k => simp [List.count_singleton]

namespace Holdings

def init : Holdings H := ⟨[], [], []⟩

/-- What the object at `i` holds, while it lives. -/
def live (s : Holdings H) (i : Nat) : Option (Option H) := s.objects[i]?.join

def AllDestroyed (s : Holdings H) : Prop := ∀ object ∈ s.objects, object = none

instance (s : Holdings H) : Decidable s.AllDestroyed :=
  inferInstanceAs (Decidable (∀ object ∈ s.objects, object = none))

theorem getElem?_of_live {s : Holdings H} {i : Nat} {held : Option H}
    (h : s.live i = some held) : s.objects[i]? = some (some held) :=
  Option.join_eq_some_iff.mp h

variable [DecidableEq H]

/-- How many objects hold `h`. -/
def holders (s : Holdings H) (h : H) : Nat := s.objects.count (some (some h))

/-- Every resource was acquired as often as it was released or is held. -/
def Balanced (s : Holdings H) : Prop :=
  ∀ h, s.acquired.count h = s.released.count h + s.holders h

/-- Every acquired resource is held by one object and was not released, or is
held by none and was released once; any other one is neither held nor released. -/
def SingleOwner (s : Holdings H) : Prop :=
  (∀ h ∈ s.acquired,
      s.holders h = 1 ∧ s.released.count h = 0 ∨ s.holders h = 0 ∧ s.released.count h = 1) ∧
    ∀ h, h ∉ s.acquired → s.holders h = 0 ∧ s.released.count h = 0

theorem holders_eq_zero {s : Holdings H} (hs : s.AllDestroyed) (h : H) : s.holders h = 0 := by
  refine List.count_eq_zero.mpr fun hmem => ?_
  cases hs _ hmem

/-- With every object gone, each resource was released as often as it was
acquired. -/
theorem Balanced.released_eq {s : Holdings H} (h : s.Balanced) (hs : s.AllDestroyed) (x : H) :
    s.acquired.count x = s.released.count x := by
  rw [h x, holders_eq_zero hs, Nat.add_zero]

theorem singleOwner_iff {s : Holdings H} (hnew : s.acquired.Nodup) :
    s.SingleOwner ↔ s.Balanced := by
  constructor
  · rintro ⟨hacquired, hother⟩ h
    by_cases hmem : h ∈ s.acquired
    · rw [List.count_eq_one_of_mem hnew hmem]
      rcases hacquired h hmem with ⟨hheld, hreleased⟩ | ⟨hheld, hreleased⟩ <;>
        rw [hheld, hreleased]
    · obtain ⟨hheld, hreleased⟩ := hother h hmem
      rw [List.count_eq_zero_of_not_mem hmem, hheld, hreleased]
  · intro hbalanced
    refine ⟨fun h hmem => ?_, fun h hmem => ?_⟩
    · have hcount := hbalanced h
      rw [List.count_eq_one_of_mem hnew hmem] at hcount
      omega
    · have hcount := hbalanced h
      rw [List.count_eq_zero_of_not_mem hmem] at hcount
      omega

end Holdings

namespace OwnerClass

open Holdings

variable (C : OwnerClass H)

/-- A member function runs. A move constructor assigns to an object it has given
storage to; that object is a new one. -/
def step (s : Holdings H) : OwnerEvent H → Option (Holdings H)
  | .default => some { s with objects := s.objects ++ [some C.default] }
  | .construct h =>
    if C.admits s.acquired h then
      some { s with
        objects := s.objects ++ [some (C.adopt h)]
        acquired := s.acquired ++ [h] }
    else none
  | .moveConstruct storage other =>
    (s.live other).map fun held =>
      let m := C.moveAssign false (C.moveInit storage) held
      { s with
        objects := s.objects.set other (some m.other) ++ [some m.this]
        released := s.released ++ m.released }
  | .moveAssign this other =>
    (s.live this).bind fun mine => (s.live other).map fun held =>
      let m := C.moveAssign (this == other) mine held
      { s with
        objects := (s.objects.set this (some m.this)).set other (some m.other)
        released := s.released ++ m.released }
  | .destroy this =>
    (s.live this).map fun held =>
      { s with
        objects := s.objects.set this none
        released := s.released ++ C.destroy held }

def machine : Machine (Holdings H) (OwnerEvent H) where
  init := Holdings.init
  step := C.step

/-! ## What a member function leaves of what it finds -/

/-- What a member function finds in the objects it works on, or is given. -/
def takes (s : Holdings H) : OwnerEvent H → List H
  | .default => []
  | .construct h => [h]
  | .moveConstruct _ other => (s.live other).join.toList
  | .moveAssign this other =>
    if this = other then (s.live other).join.toList
    else (s.live this).join.toList ++ (s.live other).join.toList
  | .destroy this => (s.live this).join.toList

/-- What it leaves in them or releases. An object assigned to itself keeps what
was assigned last. -/
def leaves (s : Holdings H) : OwnerEvent H → List H
  | .default => C.default.toList
  | .construct h => (C.adopt h).toList
  | .moveConstruct storage other =>
    let m := C.moveAssign false (C.moveInit storage) (s.live other).join
    m.this.toList ++ m.other.toList ++ m.released
  | .moveAssign this other =>
    let m := C.moveAssign (this == other) (s.live this).join (s.live other).join
    if this = other then m.other.toList ++ m.released
    else m.this.toList ++ m.other.toList ++ m.released
  | .destroy this => C.destroy (s.live this).join

def Conserves (s : Holdings H) (e : OwnerEvent H) : Prop :=
  (C.leaves s e).Perm (takes s e)

variable {C} {s s' : Holdings H} {e : OwnerEvent H}

theorem step_moveConstruct {other : Nat} {held : Option H} (hother : s.live other = some held)
    (storage : Option H) :
    C.machine.step s (.moveConstruct storage other)
      = some { s with
          objects := s.objects.set other (some (C.moveAssign false (C.moveInit storage) held).other)
            ++ [some (C.moveAssign false (C.moveInit storage) held).this]
          released := s.released ++ (C.moveAssign false (C.moveInit storage) held).released } := by
  simp only [machine, step, hother, Option.map_some]

theorem step_moveAssign {this other : Nat} {mine held : Option H}
    (hthis : s.live this = some mine) (hother : s.live other = some held) :
    C.machine.step s (.moveAssign this other)
      = some { s with
          objects := (s.objects.set this (some (C.moveAssign (this == other) mine held).this)).set
            other (some (C.moveAssign (this == other) mine held).other)
          released := s.released ++ (C.moveAssign (this == other) mine held).released } := by
  simp only [machine, step, hthis, hother, Option.bind_some, Option.map_some]

theorem step_destroy {this : Nat} {held : Option H} (hthis : s.live this = some held) :
    C.machine.step s (.destroy this)
      = some { s with
          objects := s.objects.set this none
          released := s.released ++ C.destroy held } := by
  simp only [machine, step, hthis, Option.map_some]

/-- What a step can be. -/
inductive Steps (C : OwnerClass H) (s : Holdings H) : OwnerEvent H → Holdings H → Prop
  | default : Steps C s .default { s with objects := s.objects ++ [some C.default] }
  | construct {h} (hnew : C.admits s.acquired h = true) :
    Steps C s (.construct h)
      { s with
        objects := s.objects ++ [some (C.adopt h)]
        acquired := s.acquired ++ [h] }
  | moveConstruct {storage other held} (hother : s.live other = some held) {m}
    (hm : m = C.moveAssign false (C.moveInit storage) held) :
    Steps C s (.moveConstruct storage other)
      { s with
        objects := s.objects.set other (some m.other) ++ [some m.this]
        released := s.released ++ m.released }
  | moveAssign {this other mine held} (hthis : s.live this = some mine)
    (hother : s.live other = some held) {m} (hm : m = C.moveAssign (this == other) mine held) :
    Steps C s (.moveAssign this other)
      { s with
        objects := (s.objects.set this (some m.this)).set other (some m.other)
        released := s.released ++ m.released }
  | destroy {this held} (hthis : s.live this = some held) :
    Steps C s (.destroy this)
      { s with
        objects := s.objects.set this none
        released := s.released ++ C.destroy held }

theorem steps_of_step (hs : C.machine.step s e = some s') : Steps C s e s' := by
  cases e with
  | default =>
    cases hs
    exact .default
  | construct h =>
    obtain ⟨hnew, hs'⟩ := Option.ite_none_right_eq_some.mp hs
    cases hs'
    exact .construct hnew
  | moveConstruct storage other =>
    obtain ⟨held, hother, rfl⟩ := Option.map_eq_some_iff.mp hs
    exact .moveConstruct hother rfl
  | moveAssign this other =>
    obtain ⟨mine, hthis, hs'⟩ := Option.bind_eq_some_iff.mp hs
    obtain ⟨held, hother, rfl⟩ := Option.map_eq_some_iff.mp hs'
    exact .moveAssign hthis hother rfl
  | destroy this =>
    obtain ⟨held, hthis, rfl⟩ := Option.map_eq_some_iff.mp hs
    exact .destroy hthis

/-- A class to which each resource is given only once. -/
def AdmitsOnce (C : OwnerClass H) : Prop := ∀ acquired h, C.admits acquired h = true → h ∉ acquired

theorem nodup_step (hC : C.AdmitsOnce) (h : s.acquired.Nodup)
    (hs : C.machine.step s e = some s') : s'.acquired.Nodup := by
  cases steps_of_step hs with
  | construct hnew =>
    have hnodup := List.Nodup.concat (hC _ _ hnew) h
    rwa [List.concat_eq_append] at hnodup
  | default | moveConstruct | moveAssign | destroy => exact h

variable [DecidableEq H]

/-- Replacing what a living object holds. -/
theorem count_set_live {i : Nat} {held : Option H} (hi : s.live i = some held)
    (new : Option (Option H)) (h : H) :
    (s.objects.set i new).count (some (some h)) + held.toList.count h
      = s.holders h + [new].count (some (some h)) := by
  rw [← List.count_some_some]
  exact List.count_set_add (getElem?_of_live hi) new _

/-- A step puts what it leaves in the place of what it takes. -/
theorem step_count (hs : C.machine.step s e = some s') (h : H) :
    s'.released.count h + s'.holders h + (takes s e).count h + s.acquired.count h
      = s.released.count h + s.holders h + (C.leaves s e).count h + s'.acquired.count h := by
  cases steps_of_step hs with
  | default =>
    simp only [takes, leaves, holders, List.count_append, List.count_some_some, List.count_nil]
    omega
  | @construct h' hnew =>
    simp only [takes, leaves, holders, List.count_append, List.count_some_some]
    omega
  | @moveConstruct storage other held hother m hm =>
    have hset := count_set_live hother (some m.other) h
    simp only [takes, leaves, holders, List.count_append, List.count_some_some, hother,
      Option.join_some, ← hm] at hset ⊢
    omega
  | @moveAssign this other mine held hthis hother m hm =>
    have hset := count_set_live hthis (some m.this) h
    by_cases hself : this = other
    · subst hself
      cases hthis.symm.trans hother
      have hset' := count_set_live hthis (some m.other) h
      simp only [takes, leaves, holders, List.count_append, List.count_some_some, hother,
        Option.join_some, ← hm, List.set_set, if_true] at hset' ⊢
      omega
    · have hother' : (s.objects.set this (some m.this))[other]? = some (some held) := by
        rw [List.getElem?_set_ne hself, getElem?_of_live hother]
      have hset' := List.count_set_add hother' (some m.other) (some (some h))
      simp only [takes, leaves, holders, List.count_append, List.count_some_some, hthis, hother,
        Option.join_some, ← hm, if_neg hself] at hset hset' ⊢
      omega
  | @destroy this held hthis =>
    have hset := count_set_live hthis none h
    simp only [takes, leaves, holders, List.count_append, hthis, Option.join_some] at hset ⊢
    simp at hset
    omega

/-- The books stay right over a step exactly when it leaves what it finds. -/
theorem balanced_step_iff (h : s.Balanced) (hs : C.machine.step s e = some s') :
    s'.Balanced ↔ C.Conserves s e := by
  rw [Conserves, List.perm_iff_count]
  refine forall_congr' fun x => ?_
  have hbefore := h x
  have hcount := step_count hs x
  omega

theorem balanced_init : (C.machine.init).Balanced := fun _ => rfl

/-! ## Resources that are acquired once -/

/-- What a class promises its users: single ownership at each point, and every
resource released once when no object is left. -/
def ReleasedOnce (s : Holdings H) : Prop :=
  s.SingleOwner ∧ (s.AllDestroyed → ∀ h ∈ s.acquired, s.released.count h = 1)

theorem releasedOnce_iff (hnew : s.acquired.Nodup) : ReleasedOnce s ↔ s.Balanced := by
  refine ⟨fun h => (singleOwner_iff hnew).mp h.1, fun h => ⟨(singleOwner_iff hnew).mpr h, ?_⟩⟩
  intro hdestroyed x hx
  rw [← h.released_eq hdestroyed x, List.count_eq_one_of_mem hnew hx]

/-- **Exactness of single ownership.** -/
theorem releasedOnce_always_iff (hC : C.AdmitsOnce) (es : List (OwnerEvent H)) :
    C.machine.Always ReleasedOnce C.machine.init es
      ↔ C.machine.EachStep C.Conserves C.machine.init es := by
  refine Machine.always_iff_eachStep (M := C.machine)
    (I := fun s => s.acquired.Nodup ∧ s.Balanced) ?_ ?_ ?_ ⟨List.nodup_nil, balanced_init⟩ es
  · rintro s ⟨hnew, h⟩
    exact (releasedOnce_iff hnew).mpr h
  · rintro s e s' ⟨hnew, h⟩ hs hQ
    exact ⟨nodup_step hC hnew hs, (balanced_step_iff h hs).mpr hQ⟩
  · rintro s e s' ⟨hnew, h⟩ hs hQ hP
    have hnew' := nodup_step hC hnew hs
    exact hQ ((balanced_step_iff h hs).mp ((releasedOnce_iff hnew').mp hP))

/-! ## Handing over -/

/-- Nothing is held at first and everything held is released at the end. A move
assignment releases what the destination held and hands it what the source holds;
one from the object itself does nothing. -/
def handOver (moveInit : Option H → Option H) (admits : List H → H → Bool) : OwnerClass H where
  default := none
  adopt := some
  moveInit := moveInit
  moveAssign := fun self this other =>
    if self then { this := this, other := this, released := [] }
    else { this := other, other := none, released := this.toList }
  destroy := Option.toList
  admits := admits

/-- A move constructor starts from an object that holds nothing. -/
def StartsEmpty (moveInit : Option H → Option H) : OwnerEvent H → Prop
  | .moveConstruct storage _ => moveInit storage = none
  | .default | .construct _ | .moveAssign _ _ | .destroy _ => True

omit [DecidableEq H] in
theorem perm_append_iff {l m : List H} : (l ++ m).Perm l ↔ m = [] := by
  constructor
  · intro h
    have hlength := h.length_eq
    rw [List.length_append] at hlength
    exact List.eq_nil_of_length_eq_zero (by omega)
  · rintro rfl
    rw [List.append_nil]

omit [DecidableEq H] in
/-- Whatever a member function finds, it keeps, hands over or releases; only a move
constructor can release what no object took. -/
theorem conserves_handOver_iff {moveInit : Option H → Option H} {admits : List H → H → Bool} :
    (handOver moveInit admits).Conserves s e ↔ StartsEmpty moveInit e := by
  cases e with
  | default => exact iff_true_intro (.refl _)
  | construct h => exact iff_true_intro (.refl _)
  | moveConstruct storage other =>
    have hmove : (handOver moveInit admits).leaves s (.moveConstruct storage other)
        = (s.live other).join.toList ++ (moveInit storage).toList := by
      simp [leaves, handOver]
    rw [Conserves, hmove, takes, perm_append_iff, StartsEmpty, Option.toList_eq_nil_iff]
  | moveAssign this other =>
    refine iff_true_intro ?_
    by_cases hself : this = other
    · simp [Conserves, leaves, takes, handOver, hself]
    · rw [Conserves, leaves, takes, if_neg hself, if_neg hself, beq_eq_false_iff_ne.mpr hself]
      simpa [handOver] using List.perm_append_comm
  | destroy this => exact iff_true_intro (.refl _)

end OwnerClass
