import Task6.Library.Ownership

/-!
# RaiiHKey

A `RaiiHKey` closes its registry key when it is destroyed or assigned to; `none`
is `(HKEY)0`. Unlike its siblings the move constructor delegates to no other
constructor: it assigns to an object whose `hKey` is whatever was in the storage,
and the assignment closes that first.

- `RaiiHKey.closes_each_key_once_iff`: keys are closed once, and nothing else is,
  exactly when each move constructor finds `(HKEY)0` in its storage.
-/

namespace Task6

namespace RaiiHKey

universe u

variable {HKEY : Type u}

/-- `if (this->hKey != (HKEY)0) RegCloseKey(this->hKey);` -/
def close : Option HKEY → List HKEY
  | none => []
  | some hKey => [hKey]

/-- `operator=(RaiiHKey&& other)` -/
def moveAssign (self : Bool) (this other : Option HKEY) : Moved HKEY :=
  -- if (this == &other) return *this;
  if self then { this := this, other := this, released := [] }
  else { this := other, other := none, released := close this }

variable [DecidableEq HKEY]

/-- The class. Its move constructor leaves `hKey` without an initializer, and a key
is adopted once. -/
def raiiHKey : OwnerClass HKEY where
  default := none
  adopt := some
  moveInit := fun storage => storage
  moveAssign := moveAssign
  destroy := close
  admits := fun adopted hKey => decide (hKey ∉ adopted)

/-- Keys are handed over, to objects that start with what was in their storage. -/
theorem raiiHKey_eq : (raiiHKey : OwnerClass HKEY) =
    .handOver (fun storage => storage) fun adopted hKey => decide (hKey ∉ adopted) :=
  rfl

theorem admitsOnce : (raiiHKey : OwnerClass HKEY).AdmitsOnce := fun _ _ hnew =>
  of_decide_eq_true hnew

/-- A move constructor finds an invalid key in the storage of the new object. -/
def CleanStorage : OwnerEvent HKEY → Prop
  | .moveConstruct storage _ => storage = none
  | .default | .construct _ | .moveAssign _ _ | .destroy _ => True

/-- Every adopted key has one owner until it is closed, it is closed once, and no
other key is, exactly when no move constructor starts from a valid key left in
its storage. -/
theorem closes_each_key_once_iff (es : List (OwnerEvent HKEY)) :
    raiiHKey.machine.Always OwnerClass.ReleasedOnce raiiHKey.machine.init es
      ↔ raiiHKey.machine.EachStep (fun _ e => CleanStorage e) raiiHKey.machine.init es := by
  rw [OwnerClass.releasedOnce_always_iff admitsOnce]
  refine Machine.eachStep_congr (I := fun _ => True) (fun _ _ _ _ _ => trivial)
    (fun s e _ _ _ => ?_) trivial es
  rw [raiiHKey_eq, OwnerClass.conserves_handOver_iff]
  cases e <;> rfl

/-- A key is opened and its object moved to storage that an earlier one (2) was
left in, which nobody has adopted: that key is closed. -/
theorem closes_key_in_storage :
    ¬ (raiiHKey : OwnerClass Nat).machine.Always OwnerClass.ReleasedOnce
      (raiiHKey : OwnerClass Nat).machine.init
      [.construct 1, .moveConstruct (some 2) 0] := by
  refine Machine.not_always_of_exec rfl fun h => ?_
  -- the run has closed 2
  have hclosed := (h.1.2 2 (by decide)).2
  exact absurd hclosed (by decide)

end RaiiHKey

end Task6
