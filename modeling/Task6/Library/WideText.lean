import Task6.Library.NulText
import Mathlib.Data.UInt

/-!
# Texts of 16-bit units in memory

A unit is stored as two bytes, the low one first. `bytes` stores units, `units`
reads as many as there are whole ones (a last odd byte belongs to none).

- `units_bytes`: what is stored is read back.
- `terminated`: the last whole unit is a NUL, as when units are stored with one
  behind them (`terminated_bytes`).
-/

namespace WideText

open NulText

/-- The two bytes of a unit. -/
def unitBytes (c : UInt16) : List UInt8 := [UInt8.ofNat c.toNat, UInt8.ofNat (c.toNat / 256)]

def bytes (cs : List UInt16) : List UInt8 := cs.flatMap unitBytes

/-- The unit of two bytes. -/
def unit (low high : UInt8) : UInt16 := UInt16.ofNat (low.toNat + 256 * high.toNat)

/-- The whole units of a memory. -/
def units : List UInt8 → List UInt16
  | [] | [_] => []
  | low :: high :: rest => unit low high :: units rest

theorem unit_unitBytes (c : UInt16) :
    unit (UInt8.ofNat c.toNat) (UInt8.ofNat (c.toNat / 256)) = c := by
  have hlt := c.toNat_lt
  apply UInt16.toNat_inj.mp
  simp only [unit, UInt16.toNat_ofNat', UInt8.toNat_ofNat']
  omega

@[simp] theorem length_bytes (cs : List UInt16) : (bytes cs).length = 2 * cs.length := by
  induction cs with
  | nil => rfl
  | cons c cs ih =>
    rw [bytes, List.flatMap_cons, List.length_append, ← bytes, ih, List.length_cons]
    simp only [unitBytes, List.length_cons, List.length_nil]
    omega

@[simp] theorem units_bytes (cs : List UInt16) : units (bytes cs) = cs := by
  induction cs with
  | nil => rfl
  | cons c cs ih =>
    show unit _ _ :: units (bytes cs) = c :: cs
    rw [unit_unitBytes, ih]

/-- The last whole unit is a NUL. -/
def terminated (mem : List UInt8) : Bool := (units mem).getLast? == some 0

theorem terminated_bytes (cs : List UInt16) : terminated (bytes (cs ++ [0])) = true := by
  rw [terminated, units_bytes, List.getLast?_concat]
  rfl

end WideText
