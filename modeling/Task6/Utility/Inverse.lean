import Task6.Utility.PathMatches

/-!
# Setting a program to run on startup, and back

`runProgramOnStartup` stores a value, and `stopRunningProgramOnStartup` restores
the registry. `inverse_iff` says for which registries the two behave as they
should: where a value is there already, asking about its path may throw.
-/

namespace Task6

open Win32 NulText WideText

namespace Utility

/-- `REG_SZ`, and the path with its terminator. -/
def pathValue (path : AppPath) : RegValue where
  type := regSz
  data := bytes (path.chars ++ [0])
  size_lt := by
    have hfits : path.chars.length + 1 ≤ 260 := path.fits
    rw [length_bytes, List.length_append, List.length_singleton]
    omega

/-- The byte count the program passes is that of the path and its terminator. -/
theorem valueOf_eq (path : AppPath) : valueOf path.toCString = pathValue path := by
  have hfits : path.chars.length + 1 ≤ 260 := path.fits
  simp only [valueOf, pathValue, RegValue.mk.injEq, true_and]
  rw [List.take_of_length_le]
  rw [length_bytes, List.length_append, List.length_singleton]
  omega

theorem charCount_pathValue (path : AppPath) :
    (pathValue path).charCount = path.chars.length + 1 := by
  rw [RegValue.charCount, pathValue, length_bytes, List.length_append, List.length_singleton]
  omega

/-- The reader accepts what the writer stores, up to the longest path. -/
theorem looked_pathValue (path : AppPath) : (pathValue path).Looked := by
  have hpos := List.length_pos_iff.mpr path.nonempty
  refine ⟨rfl, ?_, ?_⟩
  · rw [charCount_pathValue]
    omega
  · rw [charCount_pathValue]
    exact path.fits

theorem text_pathValue (path : AppPath) : (pathValue path).text = path.chars := by
  rw [RegValue.text, pathValue, units_bytes]
  exact text_append_zero path.noNul []

theorem existingPathMatches_pathValue (path : AppPath) :
    existingPathMatches errorSuccess (some (pathValue path)) (pathValue path).type
      (pathValue path).data.length path.toCString = .ok true := by
  have hterm : terminated (pathValue path).data = true := terminated_bytes path.chars
  rw [existingPathMatches_eq, if_neg (not_not.mpr (looked_pathValue path)), if_pos hterm,
    decide_eq_true (text_pathValue path)]

/-! ## Calls that throw -/

section Throws

variable {os : RegAnswers} {registry : Registry} {name : AppName} {path : AppPath}
  {currentUser once : Bool} {pathMatches : Option Bool} {ex : Exn}

/-- Only what stores the value changes the registry, and it does not throw. -/
theorem run_threw
    (h : (runProgramOnStartup os registry (some name.toCString) (some path.toCString) currentUser
      once pathMatches).1.outcome = .threw ex) :
    (runProgramOnStartup os registry (some name.toCString) (some path.toCString) currentUser
      once pathMatches).1.registry = registry := by
  by_cases hopen : os.openKey = errorSuccess
  · cases hquery : queryFails os.queryValue with
    | true => rw [run_eq, if_neg (not_not.mpr hopen), hquery, if_pos rfl]
    | false =>
      cases hv : registry (runKey currentUser once) name.chars with
      | none =>
        rw [run_absent name path hopen hquery hv] at h ⊢
        split
        · rfl
        · rename_i hset
          rw [if_neg hset] at h
          cases h
      | some v =>
        cases pathMatches with
        | none => rw [run_present_null name path hopen hquery hv]
        | some m =>
          rw [run_present name path hopen hquery hv]
          split <;> rfl
  · rw [run_eq, if_pos hopen]

/-- Only what deletes the value changes it. -/
theorem stop_threw {appPath : Option AppPath}
    (h : (stopRunningProgramOnStartup os registry (some name.toCString)
      (appPath.map AppPath.toCString) currentUser once).outcome = .threw ex) :
    (stopRunningProgramOnStartup os registry (some name.toCString)
      (appPath.map AppPath.toCString) currentUser once).registry = registry := by
  by_cases hopen : os.openKey = errorSuccess
  · cases hquery : queryFails os.queryValue with
    | true => rw [stop_eq, if_neg (not_not.mpr hopen), hquery, if_pos rfl]
    | false =>
      cases hv : registry (runKey currentUser once) name.chars with
      | none => rw [stop_absent name hopen hquery hv]
      | some v =>
        have hdelete : ∀ {r : StartupResult}, (r =
            if os.deleteValue ≠ errorSuccess then ⟨.threw (.system os.deleteValue), registry⟩
            else ⟨.returned true, registry.set (runKey currentUser once) name.chars none⟩) →
            r.outcome = .threw ex → r.registry = registry := by
          rintro r rfl hthrew
          split
          · rfl
          · rename_i hok
            rw [if_neg hok] at hthrew
            cases hthrew
        cases appPath with
        | none => exact hdelete (stop_present_null name hopen hquery hv) h
        | some path =>
          have hstop := stop_present name path hopen hquery hv
          cases hcheck : checkExistingPath os.getValue (some v) v.type v.data.length
            path.toCString with
          | error ex' =>
            rw [hcheck] at hstop
            exact congrArg StartupResult.registry hstop
          | ok _ =>
            rw [hcheck] at hstop
            exact hdelete hstop h
  · rw [stop_eq, if_pos hopen]

end Throws

/-! ## The sequence -/

/-- What the two functions are to do with a registry `registry`, a name and a
path; `pathMatches` is passed to the first call. -/
structure InverseOn (registry : Registry) (name : AppName) (path : AppPath)
    (currentUser once : Bool) (pathMatches : Option Bool) : Prop where
  /-- an absent name is mapped to the path, and nothing else changes -/
  adds : registry (runKey currentUser once) name.chars = none →
    runProgramOnStartup .ok registry (some name.toCString) (some path.toCString) currentUser once
      pathMatches =
        (⟨.returned true, registry.set (runKey currentUser once) name.chars
          (some (pathValue path))⟩, pathMatches)
  /-- a second call finds it there -/
  again : registry (runKey currentUser once) name.chars = none → ∀ again : Option Bool,
    runProgramOnStartup .ok
        (registry.set (runKey currentUser once) name.chars (some (pathValue path)))
        (some name.toCString) (some path.toCString) currentUser once again =
      (⟨.returned false, registry.set (runKey currentUser once) name.chars
        (some (pathValue path))⟩, again.map fun _ => true)
  /-- with the path or without, stopping it restores the registry -/
  stops : registry (runKey currentUser once) name.chars = none →
    ∀ appPath, appPath = none ∨ appPath = some path →
      stopRunningProgramOnStartup .ok
          (registry.set (runKey currentUser once) name.chars (some (pathValue path)))
          (some name.toCString) (appPath.map AppPath.toCString) currentUser once =
        ⟨.returned true, registry⟩
  /-- stopping it again does nothing -/
  stopsOnce : registry (runKey currentUser once) name.chars = none →
    ∀ appPath : Option AppPath,
      stopRunningProgramOnStartup .ok registry (some name.toCString)
        (appPath.map AppPath.toCString) currentUser once = ⟨.returned false, registry⟩
  /-- a name that is there is left alone -/
  present : registry (runKey currentUser once) name.chars ≠ none →
    (runProgramOnStartup .ok registry (some name.toCString) (some path.toCString) currentUser once
      pathMatches).1 = ⟨.returned false, registry⟩
  /-- whatever Windows answers, a call that throws changes nothing -/
  runThrows : ∀ os ex,
    (runProgramOnStartup os registry (some name.toCString) (some path.toCString) currentUser once
      pathMatches).1.outcome = .threw ex →
    (runProgramOnStartup os registry (some name.toCString) (some path.toCString) currentUser once
      pathMatches).1.registry = registry
  stopThrows : ∀ os (appPath : Option AppPath) ex,
    (stopRunningProgramOnStartup os registry (some name.toCString)
      (appPath.map AppPath.toCString) currentUser once).outcome = .threw ex →
    (stopRunningProgramOnStartup os registry (some name.toCString)
      (appPath.map AppPath.toCString) currentUser once).registry = registry

/-- If `pathMatches` is given and a value is there that is looked at, it has its
terminator. -/
def Answerable (registry : Registry) (name : AppName) (currentUser once : Bool)
    (pathMatches : Option Bool) : Prop :=
  pathMatches ≠ none → ∀ v, registry (runKey currentUser once) name.chars = some v →
    v.Looked → terminated v.data = true

section Sequence

variable (registry : Registry) (name : AppName) (path : AppPath) (currentUser once : Bool)

theorem run_again (pathMatches : Option Bool) :
    runProgramOnStartup .ok
        (registry.set (runKey currentUser once) name.chars (some (pathValue path)))
        (some name.toCString) (some path.toCString) currentUser once pathMatches =
      (⟨.returned false, registry.set (runKey currentUser once) name.chars
        (some (pathValue path))⟩, pathMatches.map fun _ => true) := by
  have hv := registry.set_self (runKey currentUser once) name.chars (some (pathValue path))
  cases pathMatches with
  | none => exact run_present_null name path rfl rfl hv
  | some m =>
    have hmatch : existingPathMatches RegAnswers.ok.getValue (some (pathValue path))
        (pathValue path).type (pathValue path).data.length path.toCString = .ok true :=
      existingPathMatches_pathValue path
    rw [run_present name path rfl rfl hv, hmatch]
    rfl

theorem stop_stored (hnone : registry (runKey currentUser once) name.chars = none)
    {appPath : Option AppPath} (hpath : appPath = none ∨ appPath = some path) :
    stopRunningProgramOnStartup .ok
        (registry.set (runKey currentUser once) name.chars (some (pathValue path)))
        (some name.toCString) (appPath.map AppPath.toCString) currentUser once =
      ⟨.returned true, registry⟩ := by
  have hv := registry.set_self (runKey currentUser once) name.chars (some (pathValue path))
  have hrestored : (registry.set (runKey currentUser once) name.chars
      (some (pathValue path))).set (runKey currentUser once) name.chars none = registry := by
    rw [Registry.set_set, Registry.set_eq_self _ _ _ hnone]
  rcases hpath with rfl | rfl
  · refine (stop_present_null name rfl rfl hv).trans ?_
    rw [hrestored]
    rfl
  · have hcheck : checkExistingPath RegAnswers.ok.getValue (some (pathValue path))
        (pathValue path).type (pathValue path).data.length path.toCString = .ok () :=
      (checks_agree ..).mpr (existingPathMatches_pathValue path)
    refine (stop_present name path rfl rfl hv).trans ?_
    rw [hcheck, hrestored]
    rfl

theorem present_iff (pathMatches : Option Bool) :
    (registry (runKey currentUser once) name.chars ≠ none →
        (runProgramOnStartup .ok registry (some name.toCString) (some path.toCString) currentUser
          once pathMatches).1 = ⟨.returned false, registry⟩) ↔
      Answerable registry name currentUser once pathMatches := by
  cases hv : registry (runKey currentUser once) name.chars with
  | none =>
    refine iff_of_true (fun hne => absurd rfl hne) fun _ v hsome => ?_
    rw [hv] at hsome
    cases hsome
  | some v =>
    cases pathMatches with
    | none =>
      refine iff_of_true (fun _ => ?_) fun hne => absurd rfl hne
      rw [run_present_null name path rfl rfl hv]
    | some m =>
      have hanswer : Answerable registry name currentUser once (some m) ↔
          (v.Looked → terminated v.data = true) := by
        constructor
        · intro h
          exact h (Option.some_ne_none m) v hv
        · intro h _ v' hv'
          cases hv.symm.trans hv'
          exact h
      have hmatch : existingPathMatches RegAnswers.ok.getValue (some v) v.type v.data.length
          path.toCString = _ := existingPathMatches_eq v path.toCString
      rw [hanswer, run_present name path rfl rfl hv, hmatch]
      by_cases hlooked : v.Looked
      · rw [if_neg (not_not.mpr hlooked)]
        cases hterm : terminated v.data with
        | true => exact iff_of_true (fun _ => rfl) fun _ => rfl
        | false =>
          refine iff_of_false (fun h => ?_) fun h => ?_
          · cases h (Option.some_ne_none v)
          · cases h hlooked
      · rw [if_pos hlooked]
        exact iff_of_true (fun _ => rfl) fun hl => absurd hl hlooked

end Sequence

/-- **Startup entries, exactly**: for any registry, name, path, root and key, the
two functions are inverse, leave what is there alone and change nothing when they
throw, if and only if `runProgramOnStartup` is not asked to compare with a string
of an acceptable length that has no terminator. -/
theorem inverse_iff (registry : Registry) (name : AppName) (path : AppPath)
    (currentUser once : Bool) (pathMatches : Option Bool) :
    InverseOn registry name path currentUser once pathMatches ↔
      Answerable registry name currentUser once pathMatches := by
  rw [← present_iff registry name path currentUser once pathMatches]
  refine ⟨fun h => h.present, fun hpresent => ?_⟩
  exact
    { adds := fun hnone => by
        rw [run_absent name path rfl rfl hnone, valueOf_eq]
        rfl
      again := fun _ => run_again registry name path currentUser once
      stops := fun hnone _ => stop_stored registry name path currentUser once hnone
      stopsOnce := fun hnone => stop_absent name rfl rfl hnone
      present := hpresent
      runThrows := fun _ _ => run_threw
      stopThrows := fun _ _ _ => stop_threw }

/-- The characters `C:`, stored as a string without a terminator. -/
def unterminatedString : RegValue := ⟨regSz, [67, 0, 58, 0], by decide⟩

/-- The name is there, and instead of returning false the function throws. -/
theorem inverse_broken :
    ¬ InverseOn (Registry.set (fun _ _ => none) (runKey true false) task6Name.chars
      (some unterminatedString)) task6Name task6Path true false (some false) := by
  intro h
  have hreturned := h.present (by decide)
  exact absurd (congrArg StartupResult.outcome hreturned) (by decide)

end Utility

end Task6
