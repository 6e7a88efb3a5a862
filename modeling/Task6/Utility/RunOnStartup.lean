import Task6.Utility.Registry

/-!
# `Utility_runOnStartup.cpp`: the functions

`runProgramOnStartup` and `stopRunningProgramOnStartup` as the code computes
them. Pointers are options; what Windows answers to the calls inside is an
argument. The check of an existing value is written twice in the source, and
here.

`size_t` has 64 bits and its arithmetic wraps. A value of odd length whose last
whole `wchar_t` is a NUL makes `RegGetValueW` write one byte behind the buffer,
which is made for the whole ones; the calls go on from there.
-/

namespace Task6

open Win32 NulText WideText

/-- The statuses of the Win32 calls of one function. -/
structure RegAnswers where
  openKey : DWORD
  queryValue : DWORD
  getValue : DWORD
  setValue : DWORD
  deleteValue : DWORD
  deriving DecidableEq, Repr

/-- Every call succeeds. -/
def RegAnswers.ok : RegAnswers :=
  ⟨errorSuccess, errorSuccess, errorSuccess, errorSuccess, errorSuccess⟩

namespace Utility

def maxCommandLen : Nat := 260

/-- `dwDataSize / sizeof(wchar_t) - 1` -/
def dataLen (dwDataSize : DWORD) : Nat := (dwDataSize / 2 + (2 ^ 64 - 1)) % 2 ^ 64

/-- `dataLen + 1`: the `wchar_t`s of the buffer. -/
def dataRoom (dwDataSize : DWORD) : Nat := (dataLen dwDataSize + 1) % 2 ^ 64

/-- The key that the flags choose. -/
def runKey (currentUser openRunOnce : Bool) : RunKey where
  root := if currentUser then .currentUser else .localMachine
  subKey := if openRunOnce then .runOnce else .run

def openRunOrRunOnceRegistryKey (status : DWORD) (currentUser openRunOnce : Bool) :
    Except Exn RunKey :=
  if status ≠ errorSuccess then .error (.system status)
  else .ok (runKey currentUser openRunOnce)

/-- A path that is given is not one for the registry. -/
def invalidPath (path : CString) : Bool :=
  path.chars == [] || decide (maxCommandLen < path.chars.length + 1)

def invalidArguments : Exn :=
  .invalidArgument "The application name or the application path are invalid."

/-- How a function ends, and the registry after it. -/
structure StartupResult where
  outcome : Outcome Bool
  registry : Registry

/-- What `RegSetValueExW` is given: `REG_SZ`, and `cbData` bytes at `appPath`. -/
def valueOf (appPath : CString) : RegValue where
  type := regSz
  data := (bytes (appPath.chars ++ [0])).take ((appPath.chars.length + 1) * 2 % 2 ^ 32)
  size_lt := by
    rw [List.length_take]
    omega

/-! ## Running a program on startup -/

/-- The branch of an existing value: what `*pathMatches` becomes. -/
def existingPathMatches (status : DWORD) (value : Option RegValue) (dwType dwDataSize : DWORD)
    (appPath : CString) : Except Exn Bool :=
  if dwType ≠ regSz ∨ dataLen dwDataSize < 1 ∨ maxCommandLen < dataRoom dwDataSize then .ok false
  else
    match regGetValue status value dwDataSize with
    | .error lStatus => .error (.system lStatus)
    | .ok (dwType, data) =>
      if dwType ≠ regSz ∨ appPath.chars ≠ text (units data) then .ok false else .ok true

/-- `runProgramOnStartup`, with what is at `pathMatches` afterwards. -/
def runProgramOnStartup (os : RegAnswers) (registry : Registry) (appName appPath : Option CString)
    (currentUser onlyOnce : Bool) (pathMatches : Option Bool) : StartupResult × Option Bool :=
  match appName, appPath with
  | some appName, some appPath =>
    if appName.chars = [] ∨ invalidPath appPath then
      (⟨.threw invalidArguments, registry⟩, pathMatches)
    else
      match openRunOrRunOnceRegistryKey os.openKey currentUser onlyOnce with
      | .error ex => (⟨.threw ex, registry⟩, pathMatches)
      | .ok hKey =>
        match regQueryValueEx os.queryValue (registry hKey appName.chars) with
        | .ok (dwType, dwDataSize) =>
          match pathMatches with
          | none => (⟨.returned false, registry⟩, none)
          | some _ =>
            match existingPathMatches os.getValue (registry hKey appName.chars) dwType dwDataSize
              appPath with
            | .error ex => (⟨.threw ex, registry⟩, pathMatches)
            | .ok same => (⟨.returned false, registry⟩, some same)
        | .error lStatus =>
          if lStatus ≠ errorFileNotFound then (⟨.threw (.system lStatus), registry⟩, pathMatches)
          else
            match regSetValueEx os.setValue registry hKey appName.chars (valueOf appPath) with
            | .error lStatus => (⟨.threw (.system lStatus), registry⟩, pathMatches)
            | .ok registry => (⟨.returned true, registry⟩, pathMatches)
  | _, _ => (⟨.threw invalidArguments, registry⟩, pathMatches)

/-! ## Stopping it -/

def invalidValue : Exn :=
  .runtimeError "Invalid value with the same name under the registry key."

/-- The branch of an existing value when a path is given: whether it may be
deleted. -/
def checkExistingPath (status : DWORD) (value : Option RegValue) (dwType dwDataSize : DWORD)
    (appPath : CString) : Except Exn Unit :=
  if dwType ≠ regSz ∨ dataLen dwDataSize < 1 ∨ maxCommandLen < dataRoom dwDataSize then
    .error invalidValue
  else
    match regGetValue status value dwDataSize with
    | .error lStatus => .error (.system lStatus)
    | .ok (dwType, data) =>
      if dwType ≠ regSz ∨ appPath.chars ≠ text (units data) then .error invalidValue else .ok ()

/-- `RegDeleteValueW` at the end of `stopRunningProgramOnStartup`. -/
def deleteExisting (status : DWORD) (registry : Registry) (hKey : RunKey) (appName : CString) :
    StartupResult :=
  match regDeleteValue status registry hKey appName.chars with
  | .error lStatus => ⟨.threw (.system lStatus), registry⟩
  | .ok registry => ⟨.returned true, registry⟩

def stopRunningProgramOnStartup (os : RegAnswers) (registry : Registry)
    (appName appPath : Option CString) (currentUser stopOneTimeRun : Bool) : StartupResult :=
  match appName with
  | none => ⟨.threw invalidArguments, registry⟩
  | some appName =>
    if appName.chars = [] ∨ appPath.any invalidPath then ⟨.threw invalidArguments, registry⟩
    else
      match openRunOrRunOnceRegistryKey os.openKey currentUser stopOneTimeRun with
      | .error ex => ⟨.threw ex, registry⟩
      | .ok hKey =>
        match regQueryValueEx os.queryValue (registry hKey appName.chars) with
        | .error lStatus =>
          if lStatus ≠ errorFileNotFound then ⟨.threw (.system lStatus), registry⟩
          else ⟨.returned false, registry⟩
        | .ok (dwType, dwDataSize) =>
          match appPath with
          | none => deleteExisting os.deleteValue registry hKey appName
          | some appPath =>
            match checkExistingPath os.getValue (registry hKey appName.chars) dwType dwDataSize
              appPath with
            | .error ex => ⟨.threw ex, registry⟩
            | .ok () => deleteExisting os.deleteValue registry hKey appName

/-! ## The calls with arguments they take -/

/-- `RegQueryValueExW` fails, and not because there is no value. -/
def queryFails (status : DWORD) : Bool := status != errorSuccess && status != errorFileNotFound

end Utility

/-- A name that the functions take. -/
structure AppName extends CString where
  nonempty : chars ≠ []

/-- A path that they take. -/
structure AppPath extends CString where
  nonempty : chars ≠ []
  fits : chars.length + 1 ≤ Utility.maxCommandLen

namespace Utility

variable {os : RegAnswers} {registry : Registry} {currentUser once : Bool}
  {pathMatches : Option Bool} (name : AppName) (path : AppPath)

theorem invalidPath_eq_false : invalidPath path.toCString = false := by
  simp [invalidPath, path.nonempty, Nat.not_lt.mpr path.fits]

theorem openKey_ok (h : os.openKey = errorSuccess) :
    openRunOrRunOnceRegistryKey os.openKey currentUser once = .ok (runKey currentUser once) :=
  if_neg (not_not.mpr h)

theorem openKey_failed (h : os.openKey ≠ errorSuccess) :
    openRunOrRunOnceRegistryKey os.openKey currentUser once = .error (.system os.openKey) :=
  if_pos h

theorem query_failed {status : DWORD} (h : queryFails status = true) (value : Option RegValue) :
    regQueryValueEx status value = .error status := by
  simp only [queryFails, Bool.and_eq_true, bne_iff_ne] at h
  exact if_pos h

theorem query_absent {status : DWORD} (h : queryFails status = false) :
    regQueryValueEx status none = .error errorFileNotFound := by
  refine if_neg fun hboth => ?_
  simp [queryFails, hboth.1, hboth.2] at h

theorem query_present {status : DWORD} (h : queryFails status = false) (v : RegValue) :
    regQueryValueEx status (some v) = .ok (v.type, v.data.length) := by
  refine if_neg fun hboth => ?_
  simp [queryFails, hboth.1, hboth.2] at h

/-- `runProgramOnStartup` gets as far as the query. -/
theorem run_eq :
    runProgramOnStartup os registry (some name.toCString) (some path.toCString) currentUser once
        pathMatches =
      if os.openKey ≠ errorSuccess then
        (⟨.threw (.system os.openKey), registry⟩, pathMatches)
      else if queryFails os.queryValue then
        (⟨.threw (.system os.queryValue), registry⟩, pathMatches)
      else
        match registry (runKey currentUser once) name.chars with
        | none =>
          if os.setValue ≠ errorSuccess then
            (⟨.threw (.system os.setValue), registry⟩, pathMatches)
          else
            (⟨.returned true, registry.set (runKey currentUser once) name.chars
              (some (valueOf path.toCString))⟩, pathMatches)
        | some v =>
          match pathMatches with
          | none => (⟨.returned false, registry⟩, none)
          | some _ =>
            match existingPathMatches os.getValue (some v) v.type v.data.length path.toCString with
            | .error ex => (⟨.threw ex, registry⟩, pathMatches)
            | .ok same => (⟨.returned false, registry⟩, some same) := by
  have hargs : ¬ (name.chars = [] ∨ invalidPath path.toCString = true) := by
    simp [name.nonempty, invalidPath_eq_false]
  simp only [runProgramOnStartup, if_neg hargs]
  by_cases hopen : os.openKey = errorSuccess
  · rw [openKey_ok hopen, if_neg (not_not.mpr hopen)]
    dsimp only
    cases hq : queryFails os.queryValue with
    | true =>
      have hcode : os.queryValue ≠ errorFileNotFound := by
        simp only [queryFails, Bool.and_eq_true, bne_iff_ne] at hq
        exact hq.2
      simp only [query_failed hq, if_pos hcode, if_true]
    | false =>
      cases registry (runKey currentUser once) name.chars with
      | none =>
        simp only [query_absent hq, regSetValueEx]
        by_cases hset : os.setValue = errorSuccess
        · simp [hset]
        · simp [hset]
      | some v => simp only [query_present hq, Bool.false_eq_true, if_false]
  · rw [openKey_failed hopen, if_pos hopen]

/-- And so does `stopRunningProgramOnStartup`. -/
theorem stop_eq (appPath : Option AppPath) :
    stopRunningProgramOnStartup os registry (some name.toCString)
        (appPath.map AppPath.toCString) currentUser once =
      if os.openKey ≠ errorSuccess then ⟨.threw (.system os.openKey), registry⟩
      else if queryFails os.queryValue then ⟨.threw (.system os.queryValue), registry⟩
      else
        match registry (runKey currentUser once) name.chars with
        | none => ⟨.returned false, registry⟩
        | some v =>
          match appPath with
          | none =>
            deleteExisting os.deleteValue registry (runKey currentUser once) name.toCString
          | some path =>
            match checkExistingPath os.getValue (some v) v.type v.data.length path.toCString with
            | .error ex => ⟨.threw ex, registry⟩
            | .ok () =>
              deleteExisting os.deleteValue registry (runKey currentUser once)
                name.toCString := by
  have hargs : ¬ (name.chars = [] ∨ (appPath.map AppPath.toCString).any invalidPath = true) := by
    cases appPath with
    | none => simp [name.nonempty]
    | some path => simp [name.nonempty, invalidPath_eq_false]
  simp only [stopRunningProgramOnStartup, if_neg hargs]
  by_cases hopen : os.openKey = errorSuccess
  · rw [openKey_ok hopen, if_neg (not_not.mpr hopen)]
    dsimp only
    cases hq : queryFails os.queryValue with
    | true =>
      have hcode : os.queryValue ≠ errorFileNotFound := by
        simp only [queryFails, Bool.and_eq_true, bne_iff_ne] at hq
        exact hq.2
      simp only [query_failed hq, if_pos hcode, if_true]
    | false =>
      cases registry (runKey currentUser once) name.chars with
      | none => simp [query_absent hq]
      | some v =>
        simp only [query_present hq, Bool.false_eq_true, if_false]
        cases appPath with
        | none => rfl
        | some path => rfl
  · rw [openKey_failed hopen, if_pos hopen]

/-- A value that is there can be deleted. -/
theorem deleteExisting_eq {v : RegValue}
    (hv : registry (runKey currentUser once) name.chars = some v) (status : DWORD) :
    deleteExisting status registry (runKey currentUser once) name.toCString =
      if status ≠ errorSuccess then ⟨.threw (.system status), registry⟩
      else ⟨.returned true, registry.set (runKey currentUser once) name.chars none⟩ := by
  unfold deleteExisting regDeleteValue
  by_cases hstatus : status = errorSuccess
  · simp [hstatus, hv]
  · simp [hstatus]

section Queried

variable {v : RegValue} (hopen : os.openKey = errorSuccess)
  (hquery : queryFails os.queryValue = false)

include hopen hquery

theorem run_absent (hnone : registry (runKey currentUser once) name.chars = none) :
    runProgramOnStartup os registry (some name.toCString) (some path.toCString) currentUser once
        pathMatches =
      if os.setValue ≠ errorSuccess then
        (⟨.threw (.system os.setValue), registry⟩, pathMatches)
      else
        (⟨.returned true, registry.set (runKey currentUser once) name.chars
          (some (valueOf path.toCString))⟩, pathMatches) := by
  rw [run_eq, if_neg (not_not.mpr hopen), hquery, if_neg (by decide), hnone]

theorem run_present (hv : registry (runKey currentUser once) name.chars = some v) (m : Bool) :
    runProgramOnStartup os registry (some name.toCString) (some path.toCString) currentUser once
        (some m) =
      match existingPathMatches os.getValue (some v) v.type v.data.length path.toCString with
      | .error ex => (⟨.threw ex, registry⟩, some m)
      | .ok same => (⟨.returned false, registry⟩, some same) := by
  rw [run_eq, if_neg (not_not.mpr hopen), hquery, if_neg (by decide), hv]

/-- Without `pathMatches` the value is not looked at. -/
theorem run_present_null (hv : registry (runKey currentUser once) name.chars = some v) :
    runProgramOnStartup os registry (some name.toCString) (some path.toCString) currentUser once
        none = (⟨.returned false, registry⟩, none) := by
  rw [run_eq, if_neg (not_not.mpr hopen), hquery, if_neg (by decide), hv]

theorem stop_absent (hnone : registry (runKey currentUser once) name.chars = none)
    (appPath : Option AppPath) :
    stopRunningProgramOnStartup os registry (some name.toCString)
        (appPath.map AppPath.toCString) currentUser once = ⟨.returned false, registry⟩ := by
  rw [stop_eq, if_neg (not_not.mpr hopen), hquery, if_neg (by decide), hnone]

theorem stop_present (hv : registry (runKey currentUser once) name.chars = some v) :
    stopRunningProgramOnStartup os registry (some name.toCString) (some path.toCString) currentUser
        once =
      match checkExistingPath os.getValue (some v) v.type v.data.length path.toCString with
      | .error ex => ⟨.threw ex, registry⟩
      | .ok () =>
        if os.deleteValue ≠ errorSuccess then ⟨.threw (.system os.deleteValue), registry⟩
        else ⟨.returned true, registry.set (runKey currentUser once) name.chars none⟩ := by
  have hstop : stopRunningProgramOnStartup os registry (some name.toCString)
      (some path.toCString) currentUser once = _ := stop_eq name (some path)
  rw [if_neg (not_not.mpr hopen), hquery, if_neg (by decide), hv] at hstop
  dsimp only at hstop
  rwa [deleteExisting_eq name hv] at hstop

/-- Without a path every value is deleted. -/
theorem stop_present_null (hv : registry (runKey currentUser once) name.chars = some v) :
    stopRunningProgramOnStartup os registry (some name.toCString) none currentUser once =
      if os.deleteValue ≠ errorSuccess then ⟨.threw (.system os.deleteValue), registry⟩
      else ⟨.returned true, registry.set (runKey currentUser once) name.chars none⟩ := by
  rw [← deleteExisting_eq name hv]
  have hstop : stopRunningProgramOnStartup os registry (some name.toCString) none currentUser
      once = _ := stop_eq name none
  rwa [if_neg (not_not.mpr hopen), hquery, if_neg (by decide), hv] at hstop

end Queried

end Utility

end Task6
