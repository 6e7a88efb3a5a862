import Task6.Utility.RunOnStartup

/-!
# The check of an existing value

What `runProgramOnStartup` says about a value that is there (`*pathMatches`), and
what `stopRunningProgramOnStartup` makes of it.

- `checks_agree`: the two copies of the check are one function.
- `pathMatchesRight_iff`: for which values `*pathMatches` is right. The length is
  computed from a size that may be 0 or 1, nothing makes room for a missing
  terminator, and what has one `wchar_t` or too many is never compared.
- `stop_iff_pathMatches`: a value is deleted for a given path exactly when
  `*pathMatches` says that it has it.
-/

namespace Task6

open Win32 NulText WideText

namespace RegValue

/-- How many `wchar_t`s the data are, a last odd byte not counted. -/
def charCount (v : RegValue) : Nat := v.data.length / 2

/-- The data up to their first NUL or their end. -/
def text (v : RegValue) : List WCHAR := NulText.text (units v.data)

/-- The value is a string with this text. -/
def HasText (v : RegValue) (path : List WCHAR) : Prop := v.type = regSz ∧ v.text = path

/-- A string whose length the functions accept: `RegGetValueW` is called. -/
def Looked (v : RegValue) : Prop :=
  v.type = regSz ∧ v.charCount ≠ 1 ∧ v.charCount ≤ Utility.maxCommandLen

instance (v : RegValue) (path : List WCHAR) : Decidable (v.HasText path) :=
  inferInstanceAs (Decidable (v.type = regSz ∧ v.text = path))

instance (v : RegValue) : Decidable v.Looked :=
  inferInstanceAs (Decidable (v.type = regSz ∧ v.charCount ≠ 1 ∧ v.charCount ≤ _))

end RegValue

namespace Utility

/-! ## Lengths -/

/-- Adding one again undoes the subtraction, wrapped or not. -/
theorem dataRoom_eq (v : RegValue) : dataRoom v.data.length = v.charCount := by
  have hlt := v.size_lt
  simp only [dataRoom, dataLen, RegValue.charCount]
  omega

theorem dataLen_lt_one_iff (v : RegValue) : dataLen v.data.length < 1 ↔ v.charCount = 1 := by
  have hlt := v.size_lt
  simp only [dataLen, RegValue.charCount]
  omega

/-- One whole `wchar_t` is enough for the subtraction. -/
theorem noWrap_iff (v : RegValue) :
    dataLen v.data.length + 1 = v.data.length / 2 ↔ 1 ≤ v.charCount := by
  have hlt := v.size_lt
  simp only [dataLen, RegValue.charCount]
  omega

/-- The condition under which a value is not looked at. -/
theorem rejected_iff (v : RegValue) :
    (v.type ≠ regSz ∨ dataLen v.data.length < 1 ∨ maxCommandLen < dataRoom v.data.length) ↔
      ¬ v.Looked := by
  rw [dataLen_lt_one_iff, dataRoom_eq, RegValue.Looked, not_and_or, not_and_or, not_not, not_le]

/-! ## The check -/

/-- With room for the data and no more, `RegGetValueW` needs a terminator in
them. -/
theorem regGetValue_eq {v : RegValue} (h : v.type = regSz) :
    regGetValue errorSuccess (some v) v.data.length =
      if terminated v.data then .ok (v.type, v.data) else .error errorMoreData := by
  simp only [regGetValue, ne_eq, not_true_eq_false, if_false, h]
  cases terminated v.data with
  | true => simp
  | false => simp

theorem existingPathMatches_eq (v : RegValue) (path : CString) :
    existingPathMatches errorSuccess (some v) v.type v.data.length path =
      if ¬ v.Looked then .ok false
      else if terminated v.data then .ok (decide (v.text = path.chars))
      else .error (.system errorMoreData) := by
  unfold existingPathMatches
  simp only [rejected_iff]
  by_cases hlooked : v.Looked
  · rw [if_neg (not_not.mpr hlooked), if_neg (not_not.mpr hlooked), regGetValue_eq hlooked.1]
    cases terminated v.data with
    | false => rfl
    | true =>
      by_cases htext : v.text = path.chars
      · have hsame : path.chars = NulText.text (units v.data) := htext.symm
        simp [hlooked.1, hsame, RegValue.text]
      · have hdiff : path.chars ≠ NulText.text (units v.data) := fun heq => htext heq.symm
        simp [hdiff, htext]
  · rw [if_pos hlooked, if_pos hlooked]

/-- The two copies of the check. -/
theorem checks_agree (status : DWORD) (value : Option RegValue) (dwType dwDataSize : DWORD)
    (path : CString) :
    checkExistingPath status value dwType dwDataSize path = .ok () ↔
      existingPathMatches status value dwType dwDataSize path = .ok true := by
  unfold checkExistingPath existingPathMatches
  split
  · simp
  · cases regGetValue status value dwDataSize with
    | error lStatus => simp
    | ok read =>
      obtain ⟨dwType', data⟩ := read
      dsimp only
      split <;> simp

/-! ## `*pathMatches` -/

/-- `runProgramOnStartup` has answered about `v`: it returned false, with
`*pathMatches` as it should be, the subtraction in the length did not wrap, and
`RegGetValueW`, if it was called, wrote no more than there was room for. -/
structure PathMatchesRight (v : RegValue) (path : AppPath) (r : StartupResult × Option Bool) :
    Prop where
  returnsFalse : r.1.outcome = .returned false
  pathMatches : r.2 = some (decide (v.HasText path.chars))
  noWrap : dataLen v.data.length + 1 = v.data.length / 2
  room : v.Looked → ∀ dwType data,
    regGetValue errorSuccess (some v) v.data.length = .ok (dwType, data) →
      data.length ≤ 2 * dataRoom v.data.length

/-- The value has a whole `wchar_t`; if it is looked at, it has no odd byte and a
terminator, and if a string is not, it does not have the text of `path`. -/
structure Regular (v : RegValue) (path : AppPath) : Prop where
  nonempty : 1 ≤ v.charCount
  even : v.Looked → v.data.length % 2 = 0
  terminated : v.Looked → terminated v.data = true
  other : v.type = regSz → ¬ v.Looked → v.text ≠ path.chars

/-- `runProgramOnStartup` where `v` is stored under the name. -/
theorem run_stored (registry : Registry) (name : AppName) (path : AppPath)
    (currentUser onlyOnce m : Bool) (v : RegValue) :
    runProgramOnStartup .ok (registry.set (runKey currentUser onlyOnce) name.chars (some v))
        (some name.toCString) (some path.toCString) currentUser onlyOnce (some m) =
      match existingPathMatches errorSuccess (some v) v.type v.data.length path.toCString with
      | .error ex =>
        (⟨.threw ex, registry.set (runKey currentUser onlyOnce) name.chars (some v)⟩, some m)
      | .ok same =>
        (⟨.returned false, registry.set (runKey currentUser onlyOnce) name.chars (some v)⟩,
          some same) := by
  rw [run_eq, Registry.set_self]
  rfl

/-- What `RegGetValueW` writes of a value that is looked at. -/
theorem written_le_iff {v : RegValue} (hlooked : v.Looked) (hterm : terminated v.data = true) :
    (∀ dwType data, regGetValue errorSuccess (some v) v.data.length = .ok (dwType, data) →
        data.length ≤ 2 * dataRoom v.data.length) ↔ v.data.length % 2 = 0 := by
  rw [regGetValue_eq hlooked.1, if_pos hterm, dataRoom_eq, RegValue.charCount]
  constructor
  · intro h
    have hle := h _ _ rfl
    omega
  · rintro heven dwType data heq
    cases heq
    omega

/-- **`*pathMatches`, exactly**: for any registry, name, path and keys, and any
value stored under the name, `runProgramOnStartup` returns false with
`*pathMatches` right, no wrapping and no overrun, if and only if the value is
regular. -/
theorem pathMatchesRight_iff (registry : Registry) (name : AppName) (path : AppPath)
    (currentUser onlyOnce m : Bool) (v : RegValue) :
    PathMatchesRight v path
        (runProgramOnStartup .ok (registry.set (runKey currentUser onlyOnce) name.chars (some v))
          (some name.toCString) (some path.toCString) currentUser onlyOnce (some m)) ↔
      Regular v path := by
  rw [run_stored, existingPathMatches_eq]
  by_cases hlooked : v.Looked
  · rw [if_neg (not_not.mpr hlooked)]
    cases hterm : terminated v.data with
    | false =>
      -- the call throws
      refine iff_of_false (fun h => ?_) fun h => ?_
      · have hret := h.returnsFalse
        cases hret
      · have htrue := h.terminated hlooked
        rw [hterm] at htrue
        cases htrue
    | true =>
      have hroom := written_le_iff hlooked hterm
      have htext : decide (v.text = path.chars) = decide (v.HasText path.chars) := by
        simp [RegValue.HasText, hlooked.1]
      constructor
      · intro h
        exact ⟨(noWrap_iff v).mp h.noWrap, fun _ => hroom.mp (h.room hlooked), fun _ => hterm,
          fun _ hnot => absurd hlooked hnot⟩
      · intro h
        have heven := h.even hlooked
        exact ⟨rfl, congrArg some htext, (noWrap_iff v).mpr h.nonempty, fun _ => hroom.mpr heven⟩
  · rw [if_pos hlooked]
    constructor
    · intro h
      refine ⟨(noWrap_iff v).mp h.noWrap, fun hl => absurd hl hlooked,
        fun hl => absurd hl hlooked, ?_⟩
      intro htype _ htext
      have hfalse := of_decide_eq_false (Option.some.inj h.pathMatches).symm
      exact hfalse ⟨htype, htext⟩
    · intro h
      refine ⟨rfl, ?_, (noWrap_iff v).mpr h.nonempty, fun hl => absurd hl hlooked⟩
      have hnot : ¬ v.HasText path.chars := fun htext => h.other htext.1 hlooked htext.2
      exact congrArg some (decide_eq_false hnot).symm

/-- A string without any data, as another program may have stored it. -/
def emptyString : RegValue := ⟨regSz, [], by decide⟩

/-- The name `Task6` and a path. -/
def task6Name : AppName := ⟨⟨[84, 97, 115, 107, 54], by decide⟩, by decide⟩

def task6Path : AppPath := ⟨⟨[67, 58, 92, 97], by decide⟩, by decide, by decide⟩

/-- The length wraps, and the function throws `ERROR_MORE_DATA`. -/
theorem pathMatchesRight_broken :
    ¬ PathMatchesRight emptyString task6Path
      (runProgramOnStartup .ok
        (Registry.set (fun _ _ => none) (runKey true false) task6Name.chars (some emptyString))
        (some task6Name.toCString) (some task6Path.toCString) true false (some false)) := by
  intro h
  exact absurd h.returnsFalse (by decide)

/-! ## Deleting a value for a path -/

/-- Both functions run on the same registry with the same answers of Windows, and
`RegDeleteValueW` succeeds if it is called. -/
structure Twice where
  os : RegAnswers
  registry : Registry
  name : AppName
  path : AppPath
  currentUser : Bool
  once : Bool
  pathMatches : Bool

namespace Twice

variable (t : Twice)

def answers : RegAnswers := { t.os with deleteValue := errorSuccess }

def key : RunKey := runKey t.currentUser t.once

def stop : StartupResult :=
  stopRunningProgramOnStartup t.answers t.registry (some t.name.toCString) (some t.path.toCString)
    t.currentUser t.once

def run : StartupResult × Option Bool :=
  runProgramOnStartup t.answers t.registry (some t.name.toCString) (some t.path.toCString)
    t.currentUser t.once (some t.pathMatches)

/-- `stopRunningProgramOnStartup` deletes the value and returns true. -/
def Deletes : Prop :=
  t.stop.outcome = .returned true ∧ t.stop.registry = t.registry.set t.key t.name.chars none

/-- `runProgramOnStartup` returns false with `*pathMatches` true. -/
def Matches : Prop := t.run.1.outcome = .returned false ∧ t.run.2 = some true

/-- `stopRunningProgramOnStartup` throws and changes nothing. -/
def Refuses : Prop := (∃ ex, t.stop.outcome = .threw ex) ∧ t.stop.registry = t.registry

/-- What the two calls can come to. -/
inductive Cases : Prop where
  | deleted (hstop : t.stop = ⟨.returned true, t.registry.set t.key t.name.chars none⟩)
      (hrun : t.run = (⟨.returned false, t.registry⟩, some true)) : Cases
  | refused (ex : Exn) (hstop : t.stop = ⟨.threw ex, t.registry⟩)
      (hrun : t.run.1.registry = t.registry) (hdiffer : ¬ t.Matches) : Cases
  | absent (hnone : t.registry t.key t.name.chars = none)
      (hstop : t.stop = ⟨.returned false, t.registry⟩) (value : Option RegValue)
      (hrun : t.run.1.registry = t.registry.set t.key t.name.chars value)
      (hdiffer : ¬ t.Matches) : Cases

/-- A run that did not return false has not found the path. -/
theorem not_matches {out : Outcome Bool} {registry : Registry} {m : Option Bool}
    (h : t.run = (⟨out, registry⟩, m)) (hout : out ≠ .returned false) : ¬ t.Matches := by
  rintro ⟨hret, -⟩
  rw [h] at hret
  exact hout hret

theorem not_deletes {out : Outcome Bool} {registry : Registry} (h : t.stop = ⟨out, registry⟩)
    (hout : out ≠ .returned true) : ¬ t.Deletes := by
  rintro ⟨hret, -⟩
  rw [h] at hret
  exact hout hret

/-- The calls go the same way as far as the query. -/
theorem cases_of_twice : t.Cases := by
  have hrun : t.run = _ := run_eq t.name t.path
  have hstop : t.stop = _ := stop_eq t.name (some t.path)
  by_cases hopen : t.answers.openKey = errorSuccess
  · rw [if_neg (not_not.mpr hopen)] at hrun hstop
    cases hq : queryFails t.answers.queryValue with
    | true =>
      rw [hq] at hrun hstop
      exact .refused _ hstop (congrArg (fun r => r.1.registry) hrun) (t.not_matches hrun (by simp))
    | false =>
      rw [hq, if_neg (by decide)] at hrun hstop
      cases hv : t.registry (runKey t.currentUser t.once) t.name.chars with
      | none =>
        rw [hv] at hrun hstop
        dsimp only at hrun hstop
        by_cases hset : t.answers.setValue = errorSuccess
        · rw [if_neg (not_not.mpr hset)] at hrun
          exact .absent hv hstop _ (congrArg (fun r => r.1.registry) hrun)
            (t.not_matches hrun (by simp))
        · rw [if_pos hset] at hrun
          refine .absent hv hstop none ?_ (t.not_matches hrun (by simp))
          rw [hrun]
          exact (Registry.set_eq_self _ _ _ hv).symm
      | some v =>
        rw [hv] at hrun hstop
        dsimp only at hrun hstop
        cases hcheck : checkExistingPath t.answers.getValue (some v) v.type v.data.length
          t.path.toCString with
        | ok _ =>
          rw [(checks_agree ..).mp hcheck] at hrun
          rw [hcheck] at hstop
          dsimp only at hstop
          rw [deleteExisting_eq t.name hv] at hstop
          exact .deleted hstop hrun
        | error ex =>
          rw [hcheck] at hstop
          refine .refused ex hstop ?_ ?_
          · rw [hrun]
            split <;> rfl
          · -- a match would have passed the other check
            rintro ⟨hret, hmatch⟩
            rw [hrun] at hret hmatch
            cases hm : existingPathMatches t.answers.getValue (some v) v.type v.data.length
              t.path.toCString with
            | error ex' =>
              rw [hm] at hret
              cases hret
            | ok same =>
              rw [hm] at hmatch
              cases hmatch
              rw [(checks_agree ..).mpr hm] at hcheck
              cases hcheck
  · rw [if_pos hopen] at hrun hstop
    exact .refused _ hstop (congrArg (fun r => r.1.registry) hrun) (t.not_matches hrun (by simp))

/-- Values under other names and keys stay. -/
def Framed : Prop :=
  ∀ key name, key ≠ t.key ∨ name ≠ t.name.chars →
    t.stop.registry key name = t.registry key name ∧
      t.run.1.registry key name = t.registry key name

end Twice

/-- **The two checks agree, and no foreign value is deleted**: whatever the
registry holds and Windows answers, `stopRunningProgramOnStartup` deletes the
value and returns true exactly when `runProgramOnStartup` would return false with
`*pathMatches` true; otherwise, if there is a value, it throws and changes
nothing; and no other value is touched. -/
theorem stop_iff_pathMatches (t : Twice) :
    (t.Deletes ↔ t.Matches) ∧
      (t.registry t.key t.name.chars ≠ none → ¬ t.Deletes → t.Refuses) ∧ t.Framed := by
  cases t.cases_of_twice with
  | deleted hstop hrun =>
    have hdeletes : t.Deletes := by
      rw [Twice.Deletes, hstop]
      exact ⟨rfl, rfl⟩
    have hmatches : t.Matches := by
      rw [Twice.Matches, hrun]
      exact ⟨rfl, rfl⟩
    refine ⟨iff_of_true hdeletes hmatches, fun _ hnot => absurd hdeletes hnot, ?_⟩
    intro key name hother
    rw [hstop, hrun]
    exact ⟨Registry.set_other _ _ _ hother none, rfl⟩
  | refused ex hstop hrun hdiffer =>
    have hkept : ¬ t.Deletes := t.not_deletes hstop (by simp)
    refine ⟨iff_of_false hkept hdiffer, fun _ _ => ?_, fun key name _ => ?_⟩
    · rw [Twice.Refuses, hstop]
      exact ⟨⟨ex, rfl⟩, rfl⟩
    · rw [hstop, hrun]
      exact ⟨rfl, rfl⟩
  | absent hnone hstop value hrun hdiffer =>
    have hkept : ¬ t.Deletes := t.not_deletes hstop (by simp)
    refine ⟨iff_of_false hkept hdiffer, fun hsome => absurd hnone hsome, ?_⟩
    intro key name hother
    rw [hstop, hrun]
    exact ⟨rfl, Registry.set_other _ _ _ hother value⟩

end Utility

end Task6
