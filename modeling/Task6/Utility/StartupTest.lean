import Task6.Utility.Inverse

/-!
# The self-test of the startup entries

`test_run_on_startup`, which the server runs first of all on the registry of the
user: it sets an entry, stops it, and asserts after each call what it returned.
In a release build nothing is asserted, so the calls go on from what was there.

- `RunEffect`, `StopEffect`: all that one call can do, whatever Windows answers.
- `test_safe`: what the test can leave behind, however it ends.
- `test_iff`: which registries it passes on when no call fails.
-/

namespace Task6

open Win32 NulText WideText

namespace Utility

/-! ## One call -/

/-- All that `runProgramOnStartup` can do. -/
inductive RunEffect (registry : Registry) (hKey : RunKey) (name : AppName)
    (appPath : Option CString) : StartupResult → Prop
  | added (path : AppPath) (hpath : appPath = some path.toCString)
    (hnone : registry hKey name.chars = none) :
    RunEffect registry hKey name appPath
      ⟨.returned true, registry.set hKey name.chars (some (valueOf path.toCString))⟩
  | found {v : RegValue} (hv : registry hKey name.chars = some v) :
    RunEffect registry hKey name appPath ⟨.returned false, registry⟩
  | threw (ex : Exn) : RunEffect registry hKey name appPath ⟨.threw ex, registry⟩

/-- All that `stopRunningProgramOnStartup` can do. -/
inductive StopEffect (registry : Registry) (hKey : RunKey) (name : AppName) :
    StartupResult → Prop
  | deleted {v : RegValue} (hv : registry hKey name.chars = some v) :
    StopEffect registry hKey name ⟨.returned true, registry.set hKey name.chars none⟩
  | absent (hnone : registry hKey name.chars = none) :
    StopEffect registry hKey name ⟨.returned false, registry⟩
  | threw (ex : Exn) : StopEffect registry hKey name ⟨.threw ex, registry⟩

section Effects

variable (os : RegAnswers) (registry : Registry) (name : AppName) (currentUser once : Bool)

/-- A path that is given is one for the registry, or the functions refuse it. -/
theorem path_cases (path : CString) :
    (∃ p : AppPath, p.toCString = path) ∨ invalidPath path = true := by
  by_cases hempty : path.chars = []
  · exact .inr (by simp [invalidPath, hempty])
  · by_cases hfits : path.chars.length + 1 ≤ maxCommandLen
    · exact .inl ⟨⟨path, hempty, hfits⟩, rfl⟩
    · exact .inr (by simp [invalidPath, Nat.not_le.mp hfits])

theorem run_effect (appPath : Option CString) (pathMatches : Option Bool) :
    RunEffect registry (runKey currentUser once) name appPath
      (runProgramOnStartup os registry (some name.toCString) appPath currentUser once
        pathMatches).1 := by
  cases appPath with
  | none => exact .threw _
  | some path =>
    rcases path_cases path with ⟨p, rfl⟩ | hinvalid
    · rw [run_eq]
      split
      · exact .threw _
      · split
        · exact .threw _
        · split
          · rename_i hnone
            split
            · exact .threw _
            · exact .added p rfl hnone
          · rename_i v hv
            split
            · exact .found hv
            · split
              · exact .threw _
              · exact .found hv
    · have hargs : name.chars = [] ∨ invalidPath path = true := .inr hinvalid
      simp only [runProgramOnStartup, if_pos hargs]
      exact .threw _

theorem stop_effect (appPath : Option CString) :
    StopEffect registry (runKey currentUser once) name
      (stopRunningProgramOnStartup os registry (some name.toCString) appPath currentUser
        once) := by
  have valid : ∀ p : Option AppPath, StopEffect registry (runKey currentUser once) name
      (stopRunningProgramOnStartup os registry (some name.toCString) (p.map AppPath.toCString)
        currentUser once) := by
    intro p
    rw [stop_eq]
    have hdelete : ∀ {v : RegValue}, registry (runKey currentUser once) name.chars = some v →
        StopEffect registry (runKey currentUser once) name
          (deleteExisting os.deleteValue registry (runKey currentUser once) name.toCString) := by
      intro v hv
      rw [deleteExisting_eq name hv]
      split
      · exact .threw _
      · exact .deleted hv
    split
    · exact .threw _
    · split
      · exact .threw _
      · split
        · rename_i hnone
          exact .absent hnone
        · rename_i v hv
          split
          · exact hdelete hv
          · split
            · exact .threw _
            · exact hdelete hv
  cases appPath with
  | none => exact valid none
  | some path =>
    rcases path_cases path with ⟨p, rfl⟩ | hinvalid
    · exact valid (some p)
    · have hargs : name.chars = [] ∨ (some path).any invalidPath = true := .inr hinvalid
      simp only [stopRunningProgramOnStartup, if_pos hargs]
      exact .threw _

end Effects

/-! ## The test -/

/-- How the test ends, and the registry after it. -/
structure TestResult where
  outcome : Outcome Unit
  registry : Registry

/-- A call, the assertion behind it, and the rest of the test. -/
def StartupResult.andAssert (r : StartupResult) (build : Build) (expected : Bool)
    (rest : Registry → TestResult) : TestResult :=
  match r.outcome with
  | .returned ret =>
    if build.asserts (ret == expected) then rest r.registry else ⟨.died, r.registry⟩
  | .threw ex => ⟨.threw ex, r.registry⟩
  | .died => ⟨.died, r.registry⟩

/-- `Task6_TEST` -/
def testName : AppName :=
  ⟨⟨[84, 97, 115, 107, 54, 95, 84, 69, 83, 84], by decide⟩, by decide⟩

/-- The calls under Run, whose path is given, and the rest of the test. -/
def testRunEntry (build : Build) (os : Nat → RegAnswers) (registry : Registry)
    (appPath : Option CString) (rest : Registry → TestResult) : TestResult :=
  (runProgramOnStartup (os 0) registry (some testName.toCString) appPath true false
    none).1.andAssert build true fun registry =>
  (stopRunningProgramOnStartup (os 1) registry (some testName.toCString) appPath true
    false).andAssert build true fun registry =>
  (stopRunningProgramOnStartup (os 2) registry (some testName.toCString) appPath true
    false).andAssert build false rest

/-- The calls under RunOnce; the last two delete whatever value is there. -/
def testRunOnceEntry (build : Build) (os : Nat → RegAnswers) (registry : Registry)
    (appPath : Option CString) : TestResult :=
  let first := runProgramOnStartup (os 3) registry (some testName.toCString) appPath true true
    (some false)
  first.1.andAssert build true fun registry =>
  let second := runProgramOnStartup (os 4) registry (some testName.toCString) appPath true true
    first.2
  second.1.andAssert build false fun registry =>
  if build.asserts (second.2 == some true) then
    (stopRunningProgramOnStartup (os 5) registry (some testName.toCString) none true
      true).andAssert build true fun registry =>
    (stopRunningProgramOnStartup (os 6) registry (some testName.toCString) none true
      true).andAssert build false fun registry =>
    ⟨.returned (), registry⟩
  else ⟨.died, registry⟩

/-- `test_run_on_startup(appPath)`; `os n` is what Windows answers to call `n`. -/
def testRunOnStartup (build : Build) (os : Nat → RegAnswers) (registry : Registry)
    (appPath : Option CString) : TestResult :=
  testRunEntry build os registry appPath fun registry =>
    testRunOnceEntry build os registry appPath

/-- What holds of the rest and of every other ending holds of a call with its
assertion. -/
theorem andAssert_rule {P : TestResult → Prop} {build : Build} {expected : Bool}
    {r : StartupResult} {rest : Registry → TestResult}
    (hrest : ∀ ret, r.outcome = .returned ret → build.asserts (ret == expected) = true →
      P (rest r.registry))
    (hended : ∀ out, out ≠ .returned () → P ⟨out, r.registry⟩) :
    P (r.andAssert build expected rest) := by
  unfold StartupResult.andAssert
  split
  · rename_i ret hret
    split
    · rename_i hassert
      exact hrest ret hret hassert
    · exact hended .died (by simp)
  · exact hended (.threw _) (by simp)
  · exact hended .died (by simp)

/-! ## What it can leave behind -/

/-- Only the entries of the test differ, and what is under them is gone or has
the path. -/
def Within (appPath : Option CString) (registry registry' : Registry) : Prop :=
  ∀ key name, registry' key name = registry key name ∨
    key.root = .currentUser ∧ name = testName.chars ∧
      (registry' key name = none ∨
        ∃ path, appPath = some path ∧ registry' key name = some (valueOf path))

namespace Within

variable {appPath : Option CString} {registry registry₁ : Registry} {r : StartupResult}
  {once : Bool}

theorem refl (registry : Registry) : Within appPath registry registry :=
  fun _ _ => .inl rfl

theorem set {value : Option RegValue} (h : Within appPath registry registry₁)
    (hvalue : value = none ∨ ∃ path, appPath = some path ∧ value = some (valueOf path)) :
    Within appPath registry (registry₁.set (runKey true once) testName.chars value) := by
  intro key name
  by_cases hentry : key ≠ runKey true once ∨ name ≠ testName.chars
  · rw [Registry.set_other _ _ _ hentry]
    exact h key name
  · rw [not_or, not_not, not_not] at hentry
    obtain ⟨rfl, rfl⟩ := hentry
    rw [Registry.set_self]
    exact .inr ⟨rfl, rfl, hvalue⟩

theorem run (h : Within appPath registry registry₁)
    (heffect : RunEffect registry₁ (runKey true once) testName appPath r) :
    Within appPath registry r.registry := by
  cases heffect with
  | added path hpath hnone => exact h.set (.inr ⟨_, hpath, rfl⟩)
  | found hv => exact h
  | threw ex => exact h

theorem stop (h : Within appPath registry registry₁)
    (heffect : StopEffect registry₁ (runKey true once) testName r) :
    Within appPath registry r.registry := by
  cases heffect with
  | deleted hv => exact h.set (.inl rfl)
  | absent hnone => exact h
  | threw ex => exact h

end Within

section Endings

variable (build : Build) (os : Nat → RegAnswers) (registry : Registry)
  (appPath : Option CString)

theorem test_within : Within appPath registry
    (testRunOnStartup build os registry appPath).registry := by
  -- the run rule, with the registry of each state as the invariant's argument
  have rule : ∀ {build : Build} {expected : Bool} {r : StartupResult}
      {rest : Registry → TestResult}, Within appPath registry r.registry →
      (∀ registry₁, Within appPath registry registry₁ →
        Within appPath registry (rest registry₁).registry) →
      Within appPath registry (r.andAssert build expected rest).registry := by
    intro build expected r rest hr hrest
    exact andAssert_rule (P := fun t => Within appPath registry t.registry)
      (fun _ _ _ => hrest _ hr) fun _ _ => hr
  refine rule ((Within.refl registry).run (run_effect ..)) fun registry₁ h₁ => ?_
  refine rule (h₁.stop (stop_effect ..)) fun registry₂ h₂ => ?_
  refine rule (h₂.stop (stop_effect ..)) fun registry₃ h₃ => ?_
  refine rule (h₃.run (run_effect ..)) fun registry₄ h₄ => ?_
  refine rule (h₄.run (run_effect ..)) fun registry₅ h₅ => ?_
  split
  · refine rule (h₅.stop (stop_effect ..)) fun registry₆ h₆ => ?_
    exact rule (h₆.stop (stop_effect ..)) fun registry₇ h₇ => h₇
  · exact h₅

/-- A registry in which nothing that was in `registry` is lost. -/
def Keeps (registry registry' : Registry) : Prop :=
  ∀ key name v, registry key name = some v → registry' key name = some v

variable {registry}

theorem Keeps.set_absent {hKey : RunKey} {name : List WCHAR} (hnone : registry hKey name = none)
    (value : Option RegValue) : Keeps registry (registry.set hKey name value) := by
  intro key name' v hv
  have hother : key ≠ hKey ∨ name' ≠ name := by
    by_contra hsame
    rw [not_or, not_not, not_not] at hsame
    rw [hsame.1, hsame.2, hnone] at hv
    cases hv
  rwa [Registry.set_other _ _ _ hother]

variable {build os appPath} {hKey : RunKey} {P : TestResult → Prop} {r : StartupResult}
  {rest : Registry → TestResult}

/-- A call to run the program that is asserted to add it. -/
theorem debug_added (heffect : RunEffect registry hKey testName appPath r)
    (hkept : ∀ out registry', out ≠ .returned () → Keeps registry registry' → P ⟨out, registry'⟩)
    (hrest : registry hKey testName.chars = none → ∀ value,
      P (rest (registry.set hKey testName.chars (some value)))) :
    P (r.andAssert .debug true rest) := by
  have hsame : Keeps registry registry := fun _ _ _ hv => hv
  refine andAssert_rule (fun ret hret hassert => ?_) fun out hout => ?_
  · cases heffect with
    | added path hpath hnone => exact hrest hnone _
    | found hv =>
      cases hret
      cases hassert
    | threw ex => cases hret
  · cases heffect with
    | added path hpath hnone => exact hkept _ _ hout (.set_absent hnone _)
    | found hv => exact hkept _ _ hout hsame
    | threw ex => exact hkept _ _ hout hsame

/-- A call that finds the entry there. -/
theorem debug_found {value : RegValue} {expected : Bool}
    (heffect : RunEffect (registry.set hKey testName.chars (some value)) hKey testName appPath r)
    (hnone : registry hKey testName.chars = none)
    (hkept : ∀ out registry', out ≠ .returned () → Keeps registry registry' → P ⟨out, registry'⟩)
    (hrest : P (rest (registry.set hKey testName.chars (some value)))) :
    P (r.andAssert build expected rest) := by
  have hr : r.registry = registry.set hKey testName.chars (some value) := by
    cases heffect with
    | added path hpath habsent =>
      rw [Registry.set_self] at habsent
      cases habsent
    | found hv => rfl
    | threw ex => rfl
  refine andAssert_rule (fun _ _ _ => ?_) fun out hout => ?_
  · rwa [hr]
  · rw [hr]
    exact hkept _ _ hout (.set_absent hnone _)

/-- A call that is asserted to delete the entry. -/
theorem debug_deleted {value : RegValue}
    (heffect : StopEffect (registry.set hKey testName.chars (some value)) hKey testName r)
    (hnone : registry hKey testName.chars = none)
    (hkept : ∀ out registry', out ≠ .returned () → Keeps registry registry' → P ⟨out, registry'⟩)
    (hrest : P (rest registry)) : P (r.andAssert .debug true rest) := by
  have hrestored :
      (registry.set hKey testName.chars (some value)).set hKey testName.chars none = registry := by
    rw [Registry.set_set, Registry.set_eq_self _ _ _ hnone]
  have hsame : Keeps registry registry := fun _ _ _ hv => hv
  cases heffect with
  | deleted hv =>
    rw [hrestored]
    exact andAssert_rule (fun _ _ _ => hrest) fun _ hout => hkept _ _ hout hsame
  | absent habsent =>
    rw [Registry.set_self] at habsent
    cases habsent
  | threw ex => exact hkept _ _ (by simp) (.set_absent hnone _)

/-- A call that finds nothing to delete. -/
theorem debug_absent {expected : Bool} (heffect : StopEffect registry hKey testName r)
    (hnone : registry hKey testName.chars = none)
    (hkept : ∀ out registry', out ≠ .returned () → Keeps registry registry' → P ⟨out, registry'⟩)
    (hrest : P (rest registry)) : P (r.andAssert build expected rest) := by
  have hr : r.registry = registry := by
    cases heffect with
    | deleted hv =>
      rw [hnone] at hv
      cases hv
    | absent habsent => rfl
    | threw ex => rfl
  refine andAssert_rule (fun _ _ _ => ?_) fun out hout => ?_
  · rwa [hr]
  · rw [hr]
    exact hkept _ _ hout fun _ _ _ hv => hv

/-- A debug test loses nothing, and it passes only if it restores what it found. -/
theorem test_debug (hkept : ∀ out registry', out ≠ .returned () → Keeps registry registry' →
      P ⟨out, registry'⟩)
    (hpassed : (∀ once, registry (runKey true once) testName.chars = none) →
      P ⟨.returned (), registry⟩) :
    P (testRunOnStartup .debug os registry appPath) := by
  unfold testRunOnStartup testRunEntry testRunOnceEntry
  refine debug_added (run_effect ..) hkept fun hrun value => ?_
  refine debug_deleted (stop_effect ..) hrun hkept ?_
  refine debug_absent (stop_effect ..) hrun hkept ?_
  refine debug_added (run_effect ..) hkept fun honce value => ?_
  refine debug_found (run_effect ..) honce hkept ?_
  split
  · refine debug_deleted (stop_effect ..) honce hkept ?_
    refine debug_absent (stop_effect ..) honce hkept (hpassed fun once => ?_)
    cases once with
    | false => exact hrun
    | true => exact honce
  · exact hkept _ _ (by simp) (.set_absent honce _)

end Endings

/-- How a test may end. -/
structure TestSafe (build : Build) (registry : Registry) (appPath : Option CString)
    (t : TestResult) : Prop where
  /-- only its entries change, and what is then under them is gone or has the path -/
  within : Within appPath registry t.registry
  /-- with assertions nothing that was there is lost, -/
  keeps : build = .debug → Keeps registry t.registry
  /-- and a test that passes found no entry and leaves none -/
  restores : build = .debug → t.outcome = .returned () →
    t.registry = registry ∧ ∀ once, registry (runKey true once) testName.chars = none

/-- **The self-test is harmless with assertions**: in either build, with any path,
whatever the registry holds and Windows answers to each of the calls. -/
theorem test_safe (build : Build) (os : Nat → RegAnswers) (registry : Registry)
    (appPath : Option CString) :
    TestSafe build registry appPath (testRunOnStartup build os registry appPath) := by
  refine ⟨test_within build os registry appPath, ?_, ?_⟩
  · rintro rfl
    exact test_debug (P := fun t => Keeps registry t.registry) (fun _ _ _ hkeeps => hkeeps)
      fun _ _ _ _ hv => hv
  · rintro rfl
    refine test_debug (P := fun t => t.outcome = .returned () → t.registry = registry ∧ _)
      (fun _ _ hout _ hret => absurd hret hout) fun hnone _ => ⟨rfl, hnone⟩

/-! ## When it passes -/

/-- What has to be under Run: nothing with assertions; without, what the second
call may delete for the path. -/
def RunPassable (registry : Registry) (path : AppPath) : Build → Prop
  | .debug => registry (runKey true false) testName.chars = none
  | .release => ∀ v, registry (runKey true false) testName.chars = some v →
    v.Looked ∧ terminated v.data = true ∧ v.text = path.chars

/-- What has to be under RunOnce: nothing with assertions; without, whatever the
calls that compare the path do not throw at. -/
def OncePassable (registry : Registry) : Build → Prop
  | .debug => registry (runKey true true) testName.chars = none
  | .release => Answerable registry testName true true (some false)

/-- Both entries deleted. -/
def cleared (registry : Registry) : Registry :=
  (registry.set (runKey true false) testName.chars none).set (runKey true true) testName.chars none

theorem andAssert_returned (ret : Bool) (registry : Registry) (build : Build) (expected : Bool)
    (rest : Registry → TestResult) :
    (⟨.returned ret, registry⟩ : StartupResult).andAssert build expected rest =
      if build.asserts (ret == expected) then rest registry else ⟨.died, registry⟩ := rfl

section Answered

variable (build : Build) (registry : Registry) (path : AppPath) (rest : Registry → TestResult)

/-- The check that precedes a deletion passes. -/
theorem checkExistingPath_iff (v : RegValue) :
    checkExistingPath errorSuccess (some v) v.type v.data.length path.toCString = .ok () ↔
      v.Looked ∧ terminated v.data = true ∧ v.text = path.chars := by
  rw [checks_agree, existingPathMatches_eq]
  by_cases hlooked : v.Looked
  · rw [if_neg (not_not.mpr hlooked)]
    cases terminated v.data with
    | false => simp
    | true => simp [hlooked]
  · simp [hlooked]

variable {registry} {once : Bool}

theorem run_adds (hnone : registry (runKey true once) testName.chars = none)
    (pathMatches : Option Bool) :
    runProgramOnStartup .ok registry (some testName.toCString) (some path.toCString) true once
        pathMatches =
      (⟨.returned true, registry.set (runKey true once) testName.chars (some (pathValue path))⟩,
        pathMatches) := by
  rw [run_absent testName path rfl rfl hnone, valueOf_eq]
  rfl

theorem stop_deletes {v : RegValue} (hv : registry (runKey true once) testName.chars = some v) :
    stopRunningProgramOnStartup .ok registry (some testName.toCString) none true once =
      ⟨.returned true, registry.set (runKey true once) testName.chars none⟩ :=
  (stop_present_null testName rfl rfl hv).trans rfl

theorem stop_nothing (hnone : registry (runKey true once) testName.chars = none)
    (appPath : Option AppPath) :
    stopRunningProgramOnStartup .ok registry (some testName.toCString)
        (appPath.map AppPath.toCString) true once = ⟨.returned false, registry⟩ :=
  stop_absent testName rfl rfl hnone appPath

theorem testRunEntry_absent (hnone : registry (runKey true false) testName.chars = none) :
    testRunEntry build (fun _ => .ok) registry (some path.toCString) rest = rest registry := by
  have hstop := stop_stored registry testName path true false hnone (.inr rfl)
  have hagain := stop_nothing hnone (some path)
  simp only [Option.map_some] at hstop hagain
  simp only [testRunEntry, run_adds path hnone, hstop, hagain, andAssert_returned, beq_self_eq_true,
    Build.asserts_true, if_true]

/-- An entry that is there goes if the second call takes its path for the test's. -/
theorem testRunEntry_present {v : RegValue}
    (hv : registry (runKey true false) testName.chars = some v) :
    testRunEntry .release (fun _ => .ok) registry (some path.toCString) rest =
      match checkExistingPath errorSuccess (some v) v.type v.data.length path.toCString with
      | .error ex => ⟨.threw ex, registry⟩
      | .ok () => rest (registry.set (runKey true false) testName.chars none) := by
  have hrun : runProgramOnStartup .ok registry (some testName.toCString) (some path.toCString)
      true false none = _ := run_present_null testName path rfl rfl hv
  have hstop : stopRunningProgramOnStartup .ok registry (some testName.toCString)
      (some path.toCString) true false =
        match checkExistingPath errorSuccess (some v) v.type v.data.length path.toCString with
        | .error ex => ⟨.threw ex, registry⟩
        | .ok () => ⟨.returned true, registry.set (runKey true false) testName.chars none⟩ :=
    stop_present testName path rfl rfl hv
  have hagain := stop_nothing
    (registry.set_self (runKey true false) testName.chars none) (some path)
  simp only [Option.map_some] at hagain
  simp only [testRunEntry, hrun, andAssert_returned, Build.asserts, if_true, hstop]
  cases checkExistingPath errorSuccess (some v) v.type v.data.length path.toCString with
  | error ex => rfl
  | ok _ => simp only [andAssert_returned, hagain, Build.asserts, if_true]

/-- With assertions the first call already fails. -/
theorem testRunEntry_present_debug {v : RegValue}
    (hv : registry (runKey true false) testName.chars = some v) :
    testRunEntry .debug (fun _ => .ok) registry (some path.toCString) rest =
      ⟨.died, registry⟩ := by
  have hrun : runProgramOnStartup .ok registry (some testName.toCString) (some path.toCString)
      true false none = _ := run_present_null testName path rfl rfl hv
  simp only [testRunEntry, hrun, andAssert_returned, Build.asserts]
  rfl

theorem testRunOnceEntry_absent (hnone : registry (runKey true true) testName.chars = none) :
    testRunOnceEntry build (fun _ => .ok) registry (some path.toCString) =
      ⟨.returned (), registry⟩ := by
  have hagain := run_again registry testName path true true (some false)
  have hstop := stop_stored registry testName path true true hnone (.inl rfl)
  have hnothing := stop_nothing hnone none
  simp only [Option.map_none] at hstop hnothing
  simp only [testRunOnceEntry, run_adds path hnone, andAssert_returned, hagain, hstop, hnothing,
    Option.map_some, beq_self_eq_true, Build.asserts_true, if_true]

/-- What the two calls to run the program make of an entry that is there. -/
theorem testRunOnceEntry_present {v : RegValue}
    (hv : registry (runKey true true) testName.chars = some v) :
    testRunOnceEntry .release (fun _ => .ok) registry (some path.toCString) =
      match existingPathMatches errorSuccess (some v) v.type v.data.length path.toCString with
      | .error ex => ⟨.threw ex, registry⟩
      | .ok _ => ⟨.returned (), registry.set (runKey true true) testName.chars none⟩ := by
  have hrun : ∀ m, runProgramOnStartup .ok registry (some testName.toCString)
      (some path.toCString) true true (some m) =
        match existingPathMatches errorSuccess (some v) v.type v.data.length path.toCString with
        | .error ex => (⟨.threw ex, registry⟩, some m)
        | .ok same => (⟨.returned false, registry⟩, some same) :=
    run_present testName path rfl rfl hv
  have hnothing := stop_nothing (registry.set_self (runKey true true) testName.chars none) none
  simp only [Option.map_none] at hnothing
  cases hcheck : existingPathMatches errorSuccess (some v) v.type v.data.length
    path.toCString with
  | error ex =>
    simp only [hcheck] at hrun
    simp only [testRunOnceEntry, hrun]
    rfl
  | ok same =>
    simp only [hcheck] at hrun
    simp only [testRunOnceEntry, hrun, andAssert_returned, stop_deletes hv, hnothing,
      Build.asserts, if_true]

theorem testRunOnceEntry_present_debug {v : RegValue}
    (hv : registry (runKey true true) testName.chars = some v) :
    (testRunOnceEntry .debug (fun _ => .ok) registry (some path.toCString)).outcome ≠
      .returned () := by
  have hrun : runProgramOnStartup .ok registry (some testName.toCString) (some path.toCString)
      true true (some false) = _ := run_present testName path rfl rfl hv false
  simp only [testRunOnceEntry, hrun]
  cases existingPathMatches RegAnswers.ok.getValue (some v) v.type v.data.length
    path.toCString with
  | error ex => simp [StartupResult.andAssert]
  | ok same => simp [andAssert_returned, Build.asserts]

end Answered

/-- A test passes under a condition, and the registry it leaves then. -/
structure PassesWith (t : TestResult) (p : Prop) (registry : Registry) : Prop where
  passes_iff : t.outcome = .returned () ↔ p
  leaves : p → t.registry = registry

theorem testRunEntry_passes (build : Build) {registry : Registry} (path : AppPath)
    {rest : Registry → TestResult} {p : Prop} {registry' : Registry}
    (hrest : PassesWith (rest (registry.set (runKey true false) testName.chars none)) p registry') :
    PassesWith (testRunEntry build (fun _ => .ok) registry (some path.toCString) rest)
      (RunPassable registry path build ∧ p) registry' := by
  cases hv : registry (runKey true false) testName.chars with
  | none =>
    have hpassable : RunPassable registry path build := by
      cases build with
      | debug => exact hv
      | release =>
        intro v hsome
        rw [hv] at hsome
        cases hsome
    rw [Registry.set_eq_self _ _ _ hv] at hrest
    rw [testRunEntry_absent build path rest hv]
    exact ⟨hrest.passes_iff.trans (iff_and_self.mpr fun _ => hpassable),
      fun h => hrest.leaves h.2⟩
  | some v =>
    cases build with
    | debug =>
      have hnot : ¬ RunPassable registry path .debug := by simp [RunPassable, hv]
      rw [testRunEntry_present_debug path rest hv]
      exact ⟨iff_of_false (by simp) fun h => hnot h.1, fun h => absurd h.1 hnot⟩
    | release =>
      have hpassable : RunPassable registry path .release ↔
          checkExistingPath errorSuccess (some v) v.type v.data.length path.toCString = .ok () := by
        rw [checkExistingPath_iff, RunPassable, hv]
        simp
      rw [testRunEntry_present path rest hv, hpassable]
      cases checkExistingPath errorSuccess (some v) v.type v.data.length path.toCString with
      | error ex => exact ⟨by simp, by simp⟩
      | ok _ => simpa using hrest

theorem testRunOnceEntry_passes (build : Build) (registry : Registry) (path : AppPath) :
    PassesWith (testRunOnceEntry build (fun _ => .ok) registry (some path.toCString))
      (OncePassable registry build) (registry.set (runKey true true) testName.chars none) := by
  cases hv : registry (runKey true true) testName.chars with
  | none =>
    have hpassable : OncePassable registry build := by
      cases build with
      | debug => exact hv
      | release =>
        intro _ v hsome
        rw [hv] at hsome
        cases hsome
    rw [testRunOnceEntry_absent build path hv, Registry.set_eq_self _ _ _ hv]
    exact ⟨iff_of_true rfl hpassable, fun _ => rfl⟩
  | some v =>
    cases build with
    | debug =>
      have hnot : ¬ OncePassable registry .debug := by simp [OncePassable, hv]
      exact ⟨iff_of_false (testRunOnceEntry_present_debug path hv) hnot,
        fun h => absurd h hnot⟩
    | release =>
      have hpassable : OncePassable registry .release ↔
          (v.Looked → terminated v.data = true) := by
        simp [OncePassable, Answerable, hv]
      rw [testRunOnceEntry_present path hv, existingPathMatches_eq, hpassable]
      by_cases hlooked : v.Looked
      · rw [if_neg (not_not.mpr hlooked)]
        cases terminated v.data with
        | false => exact ⟨by simp [hlooked], by simp [hlooked]⟩
        | true => exact ⟨by simp, fun _ => rfl⟩
      · rw [if_pos hlooked]
        exact ⟨by simp [hlooked], fun _ => rfl⟩

/-- **When the self-test passes, exactly**, the path being one for the registry and
no call failing: with assertions on a registry without the two entries, which it
leaves as it was; without assertions also on others, and there what was under both
is deleted, under RunOnce whatever it is. -/
theorem test_iff (build : Build) (registry : Registry) (path : AppPath) :
    PassesWith (testRunOnStartup build (fun _ => .ok) registry (some path.toCString))
      (RunPassable registry path build ∧ OncePassable registry build) (cleared registry) := by
  have honce := testRunOnceEntry_passes build
    (registry.set (runKey true false) testName.chars none) path
  have hother : (registry.set (runKey true false) testName.chars none) (runKey true true)
      testName.chars = registry (runKey true true) testName.chars :=
    Registry.set_other _ _ _ (.inl (by decide)) _
  have hpassable : OncePassable (registry.set (runKey true false) testName.chars none) build ↔
      OncePassable registry build := by
    cases build with
    | debug => simp only [OncePassable, hother]
    | release => simp only [OncePassable, Answerable, hother]
  rw [hpassable] at honce
  exact testRunEntry_passes build path honce

end Utility

end Task6
