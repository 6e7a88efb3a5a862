import Task6.CRuntime
import Task6.Library.WideText
import Mathlib.Logic.Function.Basic

/-!
# The registry as the program uses it

The values under the Run and RunOnce keys of two root keys, and the calls that
query and change them, each as documented: it fails with the status it is given,
or does what it is for. A name is a value name as Windows compares it.

The data of a string need not be terminated. `RegGetValueW` supplies a missing
terminator when there is room for it, and fails with `ERROR_MORE_DATA` when there
is none.
-/

namespace Task6

open WideText

/-- A `wchar_t`. -/
abbrev WCHAR := UInt16

/-- A terminated string that is passed as a pointer, without its terminator. -/
structure CString where
  chars : List WCHAR
  noNul : (0 : WCHAR) ∉ chars

namespace Win32

def errorUnsupportedType : DWORD := 1630

def regSz : DWORD := 1

end Win32

open Win32

/-- What is stored under a name; a `DWORD` counts the bytes. -/
structure RegValue where
  type : DWORD
  data : List Byte
  size_lt : data.length < 2 ^ 32

inductive RootKey where
  | currentUser
  | localMachine
  deriving DecidableEq, Repr

inductive SubKey where
  | run
  | runOnce
  deriving DecidableEq, Repr

structure RunKey where
  root : RootKey
  subKey : SubKey
  deriving DecidableEq, Repr

/-- Four maps from names to values. -/
abbrev Registry := RunKey → List WCHAR → Option RegValue

namespace Registry

/-- A value is stored, or (`none`) deleted. -/
def set (registry : Registry) (key : RunKey) (name : List WCHAR) (value : Option RegValue) :
    Registry :=
  Function.update registry key (Function.update (registry key) name value)

variable (registry : Registry) (key : RunKey) (name : List WCHAR)

@[simp] theorem set_self (value : Option RegValue) :
    registry.set key name value key name = value := by
  simp [set]

theorem set_other {key' : RunKey} {name' : List WCHAR} (h : key' ≠ key ∨ name' ≠ name)
    (value : Option RegValue) : registry.set key name value key' name' = registry key' name' := by
  by_cases hkey : key' = key
  · subst hkey
    have hname : name' ≠ name := h.resolve_left (fun hne => hne rfl)
    simp [set, hname]
  · simp [set, hkey]

@[simp] theorem set_set (value value' : Option RegValue) :
    (registry.set key name value).set key name value' = registry.set key name value' := by
  simp [set]

/-- Storing what is there changes nothing. -/
theorem set_eq_self {value : Option RegValue} (h : registry key name = value) :
    registry.set key name value = registry := by
  subst h
  simp [set]

end Registry

/-! ## The calls -/

/-- `RegQueryValueExW`, for the type and the size of a value. -/
def regQueryValueEx (status : DWORD) (value : Option RegValue) : Except DWORD (DWORD × DWORD) :=
  if status ≠ errorSuccess ∧ status ≠ errorFileNotFound then .error status
  else
    match value with
    | none => .error errorFileNotFound
    | some v => .ok (v.type, v.data.length)

/-- `RegGetValueW` with `RRF_RT_REG_SZ` and room for `cbData` bytes: the type, and
what it writes. -/
def regGetValue (status : DWORD) (value : Option RegValue) (cbData : DWORD) :
    Except DWORD (DWORD × List Byte) :=
  if status ≠ errorSuccess then .error status
  else
    match value with
    | none => .error errorFileNotFound
    | some v =>
      if v.type ≠ regSz then .error errorUnsupportedType
      else
        let written := if terminated v.data then v.data else v.data ++ [0, 0]
        if cbData < written.length then .error errorMoreData
        else .ok (v.type, written)

/-- `RegSetValueExW` -/
def regSetValueEx (status : DWORD) (registry : Registry) (key : RunKey) (name : List WCHAR)
    (value : RegValue) : Except DWORD Registry :=
  if status ≠ errorSuccess then .error status else .ok (registry.set key name (some value))

/-- `RegDeleteValueW` -/
def regDeleteValue (status : DWORD) (registry : Registry) (key : RunKey) (name : List WCHAR) :
    Except DWORD Registry :=
  if status ≠ errorSuccess then .error status
  else if registry key name = none then .error errorFileNotFound
  else .ok (registry.set key name none)

end Task6
