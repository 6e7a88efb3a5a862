import Task6.Server.ServerConsole
import Task6.Utility.StartupTest

/-!
# `ServerConsole::uiSetProgramToRunOnStartup`

The dialogue that puts the program under Run, over `Utility`. It is not called
as the repository stands: the call at the start of `run` is commented out.

`ui_safe` says what the dialogue may do to the registry: it asks before it deletes
the value that is there, its last line tells whether it has stored one, and an
exception behind the answer can leave the user with neither value. It prints that the
program was not set also when the value that is there is the program's own.
-/

namespace Task6

open Win32 Utility

namespace ServerConsole

/-- How the dialogue ends, the registry after it, and what was printed. -/
structure UiResult where
  outcome : Outcome Unit
  registry : Registry
  printed : List String

def alreadySet : String := "Program was already set to run on startup.\n"

def resetQuestion : String :=
  "A registry value with the name Task6 already found; " ++
    "do you want to delete it and try setting the program to run on startup again? (1/0): "

def valueDeleted : String := "Registry value with the same name deleted.\n"

/-- The last line. -/
def setLine (success : Bool) : String :=
  if success then "Program set to run on startup\n" else "Program not set to run on startup\n"

/-- Behind the deletion the program is set again. -/
def setAgain (os : Nat → RegAnswers) (registry : Registry) (applicationPath : CString) :
    UiResult :=
  let again := (runProgramOnStartup (os 2) registry (some task6Name.toCString)
    (some applicationPath) true false none).1
  match again.outcome with
  | .returned success =>
    ⟨.returned (), again.registry, [resetQuestion, valueDeleted, setLine success]⟩
  | .threw ex => ⟨.threw ex, again.registry, [resetQuestion, valueDeleted]⟩
  | .died => ⟨.died, again.registry, [resetQuestion, valueDeleted]⟩

/-- Behind an answer that agrees. -/
def resetValue (os : Nat → RegAnswers) (registry : Registry) (applicationPath : CString) :
    UiResult :=
  let stopped := stopRunningProgramOnStartup (os 1) registry (some task6Name.toCString) none true
    false
  match stopped.outcome with
  | .returned _ => setAgain os stopped.registry applicationPath
  | .threw ex => ⟨.threw ex, stopped.registry, [resetQuestion]⟩
  | .died => ⟨.died, stopped.registry, [resetQuestion]⟩

/-- `os n` is what Windows answers to call `n`, and `resetRegValue` what
`std::cin` leaves in the variable, which is false before. -/
def uiSetProgramToRunOnStartup (os : Nat → RegAnswers) (registry : Registry)
    (applicationPath : CString) (resetRegValue : Bool) : UiResult :=
  let first := runProgramOnStartup (os 0) registry (some task6Name.toCString)
    (some applicationPath) true false (some false)
  match first.1.outcome with
  | .returned true => ⟨.returned (), first.1.registry, [setLine true]⟩
  | .returned false =>
    if first.2 = some true then ⟨.returned (), first.1.registry, [alreadySet, setLine false]⟩
    else if resetRegValue then resetValue os first.1.registry applicationPath
    else ⟨.returned (), first.1.registry, [resetQuestion, setLine false]⟩
  | .threw ex => ⟨.threw ex, first.1.registry, []⟩
  | .died => ⟨.died, first.1.registry, []⟩

/-- The entry of the program. -/
def uiKey : RunKey := runKey true false

/-- All that the dialogue can come to. -/
inductive UiEffect (registry : Registry) (applicationPath : CString) (resetRegValue : Bool) :
    UiResult → Prop
  | added (hnone : registry uiKey task6Name.chars = none) :
    UiEffect registry applicationPath resetRegValue
      ⟨.returned (), registry.set uiKey task6Name.chars (some (valueOf applicationPath)),
        [setLine true]⟩
  | kept {v : RegValue} (line : String) (hline : line = alreadySet ∨ line = resetQuestion)
    (hv : registry uiKey task6Name.chars = some v) :
    UiEffect registry applicationPath resetRegValue
      ⟨.returned (), registry, [line, setLine false]⟩
  | threw (ex : Exn) (printed : List String) (hprinted : printed ⊆ [resetQuestion]) :
    UiEffect registry applicationPath resetRegValue ⟨.threw ex, registry, printed⟩
  | replaced {v : RegValue} (hagreed : resetRegValue = true)
    (hv : registry uiKey task6Name.chars = some v) :
    UiEffect registry applicationPath resetRegValue
      ⟨.returned (), registry.set uiKey task6Name.chars (some (valueOf applicationPath)),
        [resetQuestion, valueDeleted, setLine true]⟩
  | lost {v : RegValue} (ex : Exn) (hagreed : resetRegValue = true)
    (hv : registry uiKey task6Name.chars = some v) :
    UiEffect registry applicationPath resetRegValue
      ⟨.threw ex, registry.set uiKey task6Name.chars none, [resetQuestion, valueDeleted]⟩

section Effects

variable (os : Nat → RegAnswers) (registry : Registry) (applicationPath : CString)
  (resetRegValue : Bool)

theorem resetValue_effect {v : RegValue} (hv : registry uiKey task6Name.chars = some v)
    (hagreed : resetRegValue = true) :
    UiEffect registry applicationPath resetRegValue (resetValue os registry applicationPath) := by
  have hstop := stop_effect (os 1) registry task6Name true false none
  unfold resetValue
  generalize stopRunningProgramOnStartup (os 1) registry (some task6Name.toCString) none true
    false = stopped at hstop
  cases hstop with
  | absent hnone => exact absurd (hnone.symm.trans hv) (by simp)
  | threw ex => exact .threw ex _ (List.Subset.refl _)
  | deleted _ =>
    have hagain := run_effect (os 2) (registry.set uiKey task6Name.chars none) task6Name true false
      (some applicationPath) none
    change UiEffect _ _ _ (setAgain os (registry.set uiKey task6Name.chars none) applicationPath)
    unfold setAgain
    generalize (runProgramOnStartup (os 2) (registry.set uiKey task6Name.chars none)
      (some task6Name.toCString) (some applicationPath) true false none).1 = again at hagain
    cases hagain with
    | added path hpath hnone =>
      cases hpath
      have hset := registry.set_set uiKey task6Name.chars none (some (valueOf path.toCString))
      change UiEffect _ _ _ ⟨_, (registry.set uiKey task6Name.chars none).set uiKey _ _, _⟩
      rw [hset]
      exact .replaced hagreed hv
    | found hfound =>
      have hnone := registry.set_self uiKey task6Name.chars none
      exact absurd (hnone.symm.trans hfound) (by simp)
    | threw ex => exact .lost ex hagreed hv

theorem ui_effect : UiEffect registry applicationPath resetRegValue
    (uiSetProgramToRunOnStartup os registry applicationPath resetRegValue) := by
  have hrun := run_effect (os 0) registry task6Name true false (some applicationPath) (some false)
  unfold uiSetProgramToRunOnStartup
  generalize runProgramOnStartup (os 0) registry (some task6Name.toCString) (some applicationPath)
    true false (some false) = first at hrun
  obtain ⟨result, matched⟩ := first
  cases hrun with
  | added path hpath hnone =>
    cases hpath
    exact .added hnone
  | threw ex => exact .threw ex [] (List.nil_subset _)
  | found hv =>
    dsimp only
    split
    · exact .kept _ (.inl rfl) hv
    · split
      · rename_i hagreed
        exact resetValue_effect os registry applicationPath resetRegValue hv hagreed
      · exact .kept _ (.inr rfl) hv

end Effects

/-- What the user may rely on. -/
structure UiSafe (registry : Registry) (applicationPath : CString) (resetRegValue : Bool)
    (r : UiResult) : Prop where
  /-- no other value is touched -/
  frame : ∀ key name, key ≠ uiKey ∨ name ≠ task6Name.chars →
    r.registry key name = registry key name
  /-- the value that is there goes only when the user was asked and agreed -/
  asks : ∀ v, registry uiKey task6Name.chars = some v →
    r.registry uiKey task6Name.chars ≠ some v → resetQuestion ∈ r.printed ∧ resetRegValue = true
  /-- the last line tells what was done: the value is stored, or one that is there kept -/
  reports : ∀ success, setLine success ∈ r.printed → r.outcome = .returned () ∧
    if success then r.registry uiKey task6Name.chars = some (valueOf applicationPath)
    else (∃ v, registry uiKey task6Name.chars = some v) ∧ r.registry = registry
  /-- and without one nothing is stored: if anything changed, the value is gone -/
  fails : (∀ success, setLine success ∉ r.printed) → r.registry = registry ∨
    valueDeleted ∈ r.printed ∧ r.registry uiKey task6Name.chars = none

/-- The last lines are none of the others. -/
theorem setLine_ne (success : Bool) : setLine success ≠ alreadySet ∧
    setLine success ≠ resetQuestion ∧ setLine success ≠ valueDeleted := by
  cases success <;> decide

theorem setLine_inj {success success' : Bool} : setLine success = setLine success' ↔
    success = success' := by
  cases success <;> cases success' <;> decide

theorem UiEffect.safe {registry : Registry} {applicationPath : CString} {resetRegValue : Bool}
    {r : UiResult} (h : UiEffect registry applicationPath resetRegValue r) :
    UiSafe registry applicationPath resetRegValue r := by
  have hset : ∀ value key name, key ≠ uiKey ∨ name ≠ task6Name.chars →
      registry.set uiKey task6Name.chars value key name = registry key name :=
    fun value _ _ hother => Registry.set_other _ _ _ hother value
  have hself := registry.set_self uiKey task6Name.chars
  cases h with
  | added hnone =>
    refine ⟨hset _, fun v hv => absurd (hnone.symm.trans hv) (by simp), ?_,
      fun hnot => absurd (List.mem_singleton_self _) (hnot true)⟩
    intro success hmem
    rw [List.mem_singleton, setLine_inj] at hmem
    subst hmem
    exact ⟨rfl, hself _⟩
  | kept line hline hv =>
    refine ⟨fun _ _ _ => rfl, fun v hsome hne => absurd hsome hne, ?_, fun _ => .inl rfl⟩
    intro success hmem
    have hlast : setLine success = setLine false := by
      simp only [List.mem_cons, List.not_mem_nil, or_false] at hmem
      refine hmem.resolve_left fun heq => ?_
      rcases hline with rfl | rfl
      · exact (setLine_ne success).1 heq
      · exact (setLine_ne success).2.1 heq
    cases setLine_inj.mp hlast
    exact ⟨rfl, ⟨_, hv⟩, rfl⟩
  | threw ex printed hprinted =>
    refine ⟨fun _ _ _ => rfl, fun v hsome hne => absurd hsome hne, ?_, fun _ => .inl rfl⟩
    intro success hmem
    exact absurd (List.mem_singleton.mp (hprinted hmem)) (setLine_ne success).2.1
  | replaced hagreed hv =>
    refine ⟨hset _, fun _ _ _ => ⟨List.mem_cons_self .., hagreed⟩, ?_,
      fun hnot => absurd (by simp) (hnot true)⟩
    intro success hmem
    simp only [List.mem_cons, List.not_mem_nil, or_false, setLine_ne, false_or, setLine_inj] at hmem
    subst hmem
    exact ⟨rfl, hself _⟩
  | lost ex hagreed hv =>
    refine ⟨hset _, fun _ _ _ => ⟨List.mem_cons_self .., hagreed⟩, ?_,
      fun _ => .inr ⟨by simp, hself none⟩⟩
    intro success hmem
    simp only [List.mem_cons, List.not_mem_nil, or_false, setLine_ne] at hmem

/-- **The dialogue asks first and says what it did**: whatever the registry holds, the
user answers and Windows answers to each of the calls. -/
theorem ui_safe (os : Nat → RegAnswers) (registry : Registry) (applicationPath : CString)
    (resetRegValue : Bool) :
    UiSafe registry applicationPath resetRegValue
      (uiSetProgramToRunOnStartup os registry applicationPath resetRegValue) :=
  (ui_effect os registry applicationPath resetRegValue).safe

end ServerConsole

end Task6
