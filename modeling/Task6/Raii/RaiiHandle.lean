import Task6.Library.Ownership

/-!
# RaiiHandle

A `RaiiHandle` closes its `HANDLE` when it is destroyed or assigned to. `none` is
`INVALID_HANDLE_VALUE`, the only value that is not closed. A raw handle is
assigned through a temporary: it is constructed from the handle, moved from and
destroyed, so the assignment is three calls of member functions.

- `RaiiHandle.closes_each_handle_once`: at each point of any sequence of
  operations an adopted handle is owned by one object and open, or owned by none
  and closed once; with no object left all are closed.
-/

namespace Task6

namespace RaiiHandle

universe u

variable {HANDLE : Type u}

/-- `if (this->handle != INVALID_HANDLE_VALUE) CloseHandle(this->handle);` -/
def close : Option HANDLE → List HANDLE
  | none => []
  | some handle => [handle]

/-- `operator=(RaiiHandle&& other)` -/
def moveAssign (self : Bool) (this other : Option HANDLE) : Moved HANDLE :=
  -- if (this == &other) return *this;
  if self then { this := this, other := this, released := [] }
  else { this := other, other := none, released := close this }

variable [DecidableEq HANDLE]

/-- The class. Its move constructor delegates to `RaiiHandle()` before it assigns,
and a handle is adopted once. -/
def raiiHandle : OwnerClass HANDLE where
  default := none
  adopt := some
  moveInit := fun _ => none
  moveAssign := moveAssign
  destroy := close
  admits := fun adopted handle => decide (handle ∉ adopted)

/-- Handles are handed over. -/
theorem raiiHandle_eq : (raiiHandle : OwnerClass HANDLE) =
    .handOver (fun _ => none) fun adopted handle => decide (handle ∉ adopted) :=
  rfl

/-- What a program does with the objects. -/
inductive Op (HANDLE : Type u) where
  | default
  | adopt (handle : HANDLE)
  | moveConstruct (storage : Option HANDLE) (other : Nat)
  | moveAssign (this other : Nat)
  /-- `object = handle;`, where `none` is `INVALID_HANDLE_VALUE` -/
  | assign (this : Nat) (handle : Option HANDLE)
  | destroy (this : Nat)

/-- The member functions an operation calls. The temporary of an assignment is
the object constructed next. -/
def Op.calls (s : Holdings HANDLE) : Op HANDLE → List (OwnerEvent HANDLE)
  | default => [.default]
  | adopt handle => [.construct handle]
  | moveConstruct storage other => [.moveConstruct storage other]
  | moveAssign this other => [.moveAssign this other]
  | assign this (some handle) =>
    [.construct handle, .moveAssign this s.objects.length, .destroy s.objects.length]
  | assign this none =>
    -- RaiiHandle(INVALID_HANDLE_VALUE) is what RaiiHandle() is
    [.default, .moveAssign this s.objects.length, .destroy s.objects.length]
  | destroy this => [.destroy this]

def machine : Machine (Holdings HANDLE) (Op HANDLE) where
  init := Holdings.init
  step := fun s op => raiiHandle.machine.exec s (op.calls s)

theorem admitsOnce : (raiiHandle : OwnerClass HANDLE).AdmitsOnce := fun _ _ hnew =>
  of_decide_eq_true hnew

theorem conserves (s : Holdings HANDLE) (e : OwnerEvent HANDLE) : raiiHandle.Conserves s e := by
  rw [raiiHandle_eq, OwnerClass.conserves_handOver_iff]
  cases e with
  | moveConstruct => rfl
  | default | construct | moveAssign | destroy => trivial

/-- The invariant of the member functions. -/
def Owned (s : Holdings HANDLE) : Prop := s.acquired.Nodup ∧ s.Balanced

theorem owned_init : Owned (Holdings.init : Holdings HANDLE) :=
  ⟨List.nodup_nil, OwnerClass.balanced_init (C := raiiHandle)⟩

theorem owned_step (s : Holdings HANDLE) (e : OwnerEvent HANDLE) (s' : Holdings HANDLE)
    (h : Owned s) (hs : raiiHandle.machine.step s e = some s') : Owned s' := by
  obtain ⟨hnew, hbalanced⟩ := h
  exact ⟨OwnerClass.nodup_step admitsOnce hnew hs,
    (OwnerClass.balanced_step_iff hbalanced hs).mpr (conserves s e)⟩

theorem owned_op (s : Holdings HANDLE) (op : Op HANDLE) (s' : Holdings HANDLE) (h : Owned s)
    (hs : machine.step s op = some s') : Owned s' :=
  Machine.exec_invariant owned_step h hs

theorem Owned.releasedOnce {s : Holdings HANDLE} (h : Owned s) : OwnerClass.ReleasedOnce s :=
  (OwnerClass.releasedOnce_iff h.1).mpr h.2

/-- Before and after every operation, and between the member functions each one
calls, every adopted handle has one owner and is open, or has none and was closed
once. -/
theorem closes_each_handle_once (ops : List (Op HANDLE)) :
    machine.Always OwnerClass.ReleasedOnce machine.init ops ∧
      machine.EachStep
        (fun s op => raiiHandle.machine.Always OwnerClass.ReleasedOnce s (op.calls s))
        machine.init ops := by
  constructor
  · exact Machine.always_of_invariant (fun _ => Owned.releasedOnce) owned_op owned_init ops
  · refine Machine.eachStep_of_invariant owned_op (fun s op _ h _ => ?_) owned_init ops
    exact Machine.always_of_invariant (fun _ => Owned.releasedOnce) owned_step h (op.calls s)

end RaiiHandle

end Task6
