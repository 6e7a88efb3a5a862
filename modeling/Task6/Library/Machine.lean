import Mathlib.Data.List.Basic
import Mathlib.Tactic.ByContra

/-!
# Machines and the schedules they execute

A machine is a partial step function: an event names everything that is
nondeterministic about a step (who moves, what the environment answers), so a
*schedule* (a list of events) determines a run. "Every run, any interleaving"
is a quantifier over schedules.

- `Machine.exec` runs a schedule.
- `Machine.Always P` and `Machine.EachStep Q` speak about a whole run: `P` in
  every state visited, `Q` of every (state, event) pair taken.
- The induction rules: `exec_invariant` and `always_of_invariant` (what a step
  invariant says of the end of a run, and of all of it) and
  `always_iff_eachStep` (exactness: a property holds along a run exactly when
  every step of the run meets a condition).
- `Machine.observed`: a machine with a history variable beside its state.
- `Machine.trace`: what a run shows, and the rule that shows two states to be
  indistinguishable (`trace_eq_of_bisim`).
-/

universe u v w

/-- States, events and a partial step function; `none` is "not enabled". -/
structure Machine (S : Type u) (E : Type v) where
  init : S
  step : S → E → Option S

namespace Machine

variable {S : Type u} {E : Type v} (M : Machine S E)

/-- Execute the events of a schedule in order. -/
def exec : S → List E → Option S
  | s, [] => some s
  | s, e :: es => (M.step s e).bind fun s' => exec s' es

/-- `P` holds in every state the schedule visits, the first and the last
included. -/
def Always (P : S → Prop) : S → List E → Prop
  | s, [] => P s
  | s, e :: es => P s ∧ ∀ s', M.step s e = some s' → Always P s' es

/-- Every step the schedule takes meets `Q`. -/
def EachStep (Q : S → E → Prop) : S → List E → Prop
  | _, [] => True
  | s, e :: es => ∀ s', M.step s e = some s' → Q s e ∧ EachStep Q s' es

variable {M}

@[simp] theorem exec_nil (s : S) : M.exec s [] = some s := rfl

@[simp] theorem exec_cons (s : S) (e : E) (es : List E) :
    M.exec s (e :: es) = (M.step s e).bind fun s' => M.exec s' es := rfl

theorem exec_cons_some {s t : S} {e : E} {es : List E} :
    M.exec s (e :: es) = some t ↔ ∃ s', M.step s e = some s' ∧ M.exec s' es = some t := by
  simp [Option.bind_eq_some_iff]

theorem exec_append (s : S) (es fs : List E) :
    M.exec s (es ++ fs) = (M.exec s es).bind fun t => M.exec t fs := by
  induction es generalizing s with
  | nil => rfl
  | cons e es ih =>
    rw [List.cons_append, exec_cons, exec_cons, Option.bind_assoc]
    exact congrArg _ (funext fun s' => ih s')

/-- Two schedules one after the other. -/
theorem exec_trans {s t r : S} {es fs : List E} (h₁ : M.exec s es = some t)
    (h₂ : M.exec t fs = some r) : M.exec s (es ++ fs) = some r := by
  rw [exec_append, h₁]
  exact h₂

theorem exec_append_some {s r : S} {es fs : List E} :
    M.exec s (es ++ fs) = some r ↔ ∃ t, M.exec s es = some t ∧ M.exec t fs = some r := by
  rw [exec_append, Option.bind_eq_some_iff]

/-! ## Invariants -/

/-- A step invariant holds at the end of every schedule. -/
theorem exec_invariant {I : S → Prop} (hstep : ∀ s e s', I s → M.step s e = some s' → I s')
    {s t : S} {es : List E} (hs : I s) (h : M.exec s es = some t) : I t := by
  induction es generalizing s with
  | nil =>
    cases h
    exact hs
  | cons e es ih =>
    obtain ⟨s', he, hes⟩ := exec_cons_some.mp h
    exact ih (hstep s e s' hs he) hes

/-! ## Whole runs -/

theorem Always.head {P : S → Prop} {s : S} {es : List E} (h : M.Always P s es) : P s := by
  cases es with
  | nil => exact h
  | cons e es => exact h.1

/-- `Always` in terms of the states that the initial parts of the schedule
reach. -/
theorem always_iff {P : S → Prop} {s : S} {es : List E} :
    M.Always P s es ↔ ∀ fs t, fs <+: es → M.exec s fs = some t → P t := by
  -- the state is general: the rest of the schedule runs from another one
  induction es generalizing s with
  | nil =>
    constructor
    · intro h fs t hfs ht
      rw [List.prefix_nil.mp hfs] at ht
      cases ht
      exact h
    · intro h
      exact h [] s (List.prefix_refl _) rfl
  | cons e es ih =>
    constructor
    · rintro ⟨hP, hrest⟩ fs t hfs ht
      cases fs with
      | nil =>
        cases ht
        exact hP
      | cons f fs =>
        obtain ⟨rfl, hfs'⟩ := List.cons_prefix_cons.mp hfs
        obtain ⟨s', hs', hst⟩ := exec_cons_some.mp ht
        exact ih.mp (hrest s' hs') fs t hfs' hst
    · intro h
      refine ⟨h [] s (List.nil_prefix) rfl, fun s' hs' => ih.mpr fun fs t hfs ht => ?_⟩
      exact h (e :: fs) t (List.cons_prefix_cons.mpr ⟨rfl, hfs⟩)
        (exec_cons_some.mpr ⟨s', hs', ht⟩)

theorem Always.mono {P Q : S → Prop} {s : S} {es : List E} (h : M.Always P s es)
    (hPQ : ∀ s, P s → Q s) : M.Always Q s es :=
  always_iff.mpr fun fs t hfs ht => hPQ t (always_iff.mp h fs t hfs ht)

theorem Always.and {P Q : S → Prop} {s : S} {es : List E} (hP : M.Always P s es)
    (hQ : M.Always Q s es) : M.Always (fun s => P s ∧ Q s) s es :=
  always_iff.mpr fun fs t hfs ht =>
    ⟨always_iff.mp hP fs t hfs ht, always_iff.mp hQ fs t hfs ht⟩

/-- A run that ends without `P` does not have it throughout. -/
theorem not_always_of_exec {P : S → Prop} {s t : S} {es : List E} (h : M.exec s es = some t)
    (ht : ¬ P t) : ¬ M.Always P s es := by
  intro halways
  exact ht (always_iff.mp halways es t (List.prefix_refl _) h)

/-- **The invariant rule**: what a step invariant entails holds throughout every
run. -/
theorem always_of_invariant {I P : S → Prop} (hP : ∀ s, I s → P s)
    (hstep : ∀ s e s', I s → M.step s e = some s' → I s') {s : S} (hs : I s) (es : List E) :
    M.Always P s es := by
  rw [always_iff]
  intro fs t _ ht
  exact hP t (exec_invariant hstep hs ht)

/-- The invariant rule for runs each of whose steps meets `Q`. -/
theorem always_of_eachStep {I P : S → Prop} {Q : S → E → Prop} (hP : ∀ s, I s → P s)
    (hkeep : ∀ s e s', I s → M.step s e = some s' → Q s e → I s')
    {s : S} (hI : I s) {es : List E} (h : M.EachStep Q s es) : M.Always P s es := by
  induction es generalizing s with
  | nil => exact hP s hI
  | cons e es ih =>
    refine ⟨hP s hI, fun s' hs' => ?_⟩
    obtain ⟨hQ, hrest⟩ := h s' hs'
    exact ih (hkeep s e s' hI hs' hQ) hrest

/-- What holds in every state of a run holds before each of its steps. -/
theorem eachStep_of_always {A : S → Prop} {s : S} {es : List E} (h : M.Always A s es) :
    M.EachStep (fun s _ => A s) s es := by
  induction es generalizing s with
  | nil => trivial
  | cons e es ih =>
    intro s' hs'
    exact ⟨h.1, ih (h.2 s' hs')⟩

/-- **Exactness along a run**: let the invariant `I` entail `P`, be kept by the
steps that meet `Q`, and let `P` fail after any step that does not. Then a run
has `P` throughout exactly when each of its steps meets `Q`. -/
theorem always_iff_eachStep {I P : S → Prop} {Q : S → E → Prop}
    (hP : ∀ s, I s → P s)
    (hkeep : ∀ s e s', I s → M.step s e = some s' → Q s e → I s')
    (hbreak : ∀ s e s', I s → M.step s e = some s' → ¬ Q s e → ¬ P s')
    {s : S} (hI : I s) (es : List E) :
    M.Always P s es ↔ M.EachStep Q s es := by
  refine ⟨fun h => ?_, always_of_eachStep hP hkeep hI⟩
  induction es generalizing s with
  | nil => trivial
  | cons e es ih =>
    obtain ⟨-, hrest⟩ := h
    intro s' hs'
    -- the state behind the step has `P`, so the step was not a breaking one
    have hQ : Q s e := by
      by_contra hQ
      exact hbreak s e s' hI hs' hQ (hrest s' hs').head
    exact ⟨hQ, ih (hkeep s e s' hI hs' hQ) (hrest s' hs')⟩

/-! ## Conditions on the steps of a run -/

/-- Two conditions that agree wherever the invariant holds agree along a run. -/
theorem eachStep_congr {I : S → Prop} {Q R : S → E → Prop}
    (hstep : ∀ s e s', I s → M.step s e = some s' → I s')
    (h : ∀ s e s', I s → M.step s e = some s' → (Q s e ↔ R s e))
    {s : S} (hs : I s) (es : List E) : M.EachStep Q s es ↔ M.EachStep R s es := by
  induction es generalizing s with
  | nil => exact Iff.rfl
  | cons e es ih =>
    refine forall_congr' fun s' => forall_congr' fun hs' => ?_
    exact and_congr (h s e s' hs hs') (ih (hstep s e s' hs hs'))

/-- The invariant rule for the steps of a run. -/
theorem eachStep_of_invariant {I : S → Prop} {Q : S → E → Prop}
    (hstep : ∀ s e s', I s → M.step s e = some s' → I s')
    (hQ : ∀ s e s', I s → M.step s e = some s' → Q s e)
    {s : S} (hs : I s) (es : List E) : M.EachStep Q s es := by
  induction es generalizing s with
  | nil => trivial
  | cons e es ih =>
    intro s' hs'
    exact ⟨hQ s e s' hs hs', ih (hstep s e s' hs hs')⟩

/-- The invariant rule for the steps of a run each of which meets `Q`. -/
theorem eachStep_of_eachStep {I : S → Prop} {Q R : S → E → Prop}
    (hkeep : ∀ s e s', I s → M.step s e = some s' → Q s e → I s')
    (hR : ∀ s e s', I s → M.step s e = some s' → Q s e → R s e)
    {s : S} (hI : I s) {es : List E} (h : M.EachStep Q s es) : M.EachStep R s es := by
  induction es generalizing s with
  | nil => trivial
  | cons e es ih =>
    intro s' hs'
    obtain ⟨hQ, hrest⟩ := h s' hs'
    exact ⟨hR s e s' hI hs' hQ, ih (hkeep s e s' hI hs' hQ) hrest⟩

/-- A condition on the events alone. -/
theorem eachStep_of_forall_mem {R : E → Prop} {s : S} {es : List E} (h : ∀ e ∈ es, R e) :
    M.EachStep (fun _ e => R e) s es := by
  induction es generalizing s with
  | nil => trivial
  | cons e es ih =>
    intro s' _
    exact ⟨h e (List.mem_cons_self ..), ih fun f hf => h f (List.mem_cons_of_mem _ hf)⟩

theorem eachStep_and {Q R : S → E → Prop} {s : S} {es : List E} :
    M.EachStep (fun s e => Q s e ∧ R s e) s es ↔ M.EachStep Q s es ∧ M.EachStep R s es := by
  induction es generalizing s with
  | nil => exact ⟨fun _ => ⟨trivial, trivial⟩, fun _ => trivial⟩
  | cons e es ih =>
    constructor
    · intro h
      refine ⟨fun s' hs' => ?_, fun s' hs' => ?_⟩
      · exact ⟨(h s' hs').1.1, (ih.mp (h s' hs').2).1⟩
      · exact ⟨(h s' hs').1.2, (ih.mp (h s' hs').2).2⟩
    · rintro ⟨hQ, hR⟩ s' hs'
      exact ⟨⟨(hQ s' hs').1, (hR s' hs').1⟩, ih.mpr ⟨(hQ s' hs').2, (hR s' hs').2⟩⟩

/-- Two conditions that agree wherever the invariant holds and `G` is met agree
along a run each of whose steps meets `G`. -/
theorem eachStep_congr_of_eachStep {I : S → Prop} {G Q R : S → E → Prop}
    (hkeep : ∀ s e s', I s → M.step s e = some s' → G s e → I s')
    (h : ∀ s e s', I s → M.step s e = some s' → G s e → (Q s e ↔ R s e))
    {s : S} (hs : I s) {es : List E} (hG : M.EachStep G s es) :
    M.EachStep Q s es ↔ M.EachStep R s es := by
  constructor
  · intro hQ
    refine eachStep_of_eachStep (Q := fun s e => G s e ∧ Q s e) ?_ ?_ hs
      (eachStep_and.mpr ⟨hG, hQ⟩)
    · rintro s e s' hI hstep ⟨hG, -⟩
      exact hkeep s e s' hI hstep hG
    · rintro s e s' hI hstep ⟨hG, hQ⟩
      exact (h s e s' hI hstep hG).mp hQ
  · intro hR
    refine eachStep_of_eachStep (Q := fun s e => G s e ∧ R s e) ?_ ?_ hs
      (eachStep_and.mpr ⟨hG, hR⟩)
    · rintro s e s' hI hstep ⟨hG, -⟩
      exact hkeep s e s' hI hstep hG
    · rintro s e s' hI hstep ⟨hG, hR⟩
      exact (h s e s' hI hstep hG).mpr hR

/-! ## History variables -/

section Observed

variable {G : Type w}

/-- The machine with a history variable, which `record` brings up to date at
each step and which no step reads. -/
def observed (M : Machine S E) (g : G) (record : S → E → G → G) : Machine (S × G) E where
  init := (M.init, g)
  step := fun s e => (M.step s.1 e).map fun s' => (s', record s.1 e s.2)

theorem observed_step {g : G} {record : S → E → G → G} {s s' : S × G} {e : E} :
    (M.observed g record).step s e = some s' ↔
      M.step s.1 e = some s'.1 ∧ s'.2 = record s.1 e s.2 := by
  obtain ⟨t', g'⟩ := s'
  constructor
  · intro h
    obtain ⟨t, ht, heq⟩ := Option.map_eq_some_iff.mp h
    cases heq
    exact ⟨ht, rfl⟩
  · rintro ⟨ht, rfl⟩
    exact Option.map_eq_some_iff.mpr ⟨t', ht, rfl⟩

end Observed

/-! ## What a run shows -/

section Trace

variable {O : Type w} {view : S → E → O}

/-- What the steps of a schedule show, in order; the schedule ends at an event
that is not enabled. -/
def trace (M : Machine S E) (view : S → E → O) : S → List E → List O
  | _, [] => []
  | s, e :: es =>
    match M.step s e with
    | none => []
    | some s' => view s e :: trace M view s' es

theorem trace_cons_none {s : S} {e : E} (h : M.step s e = none) (es : List E) :
    M.trace view s (e :: es) = [] := by
  rw [trace, h]

theorem trace_cons_some {s s' : S} {e : E} (h : M.step s e = some s') (es : List E) :
    M.trace view s (e :: es) = view s e :: M.trace view s' es := by
  rw [trace, h]

/-- **The bisimulation rule**: states related by `R`, of which every event shows
the same and which every event leads to related states, show the same along every
schedule. -/
theorem trace_eq_of_bisim {R : S → S → Prop} (hview : ∀ s t e, R s t → view s e = view t e)
    (hstep : ∀ s t e, R s t → Option.Rel R (M.step s e) (M.step t e))
    {s t : S} (h : R s t) (es : List E) : M.trace view s es = M.trace view t es := by
  induction es generalizing s t with
  | nil => rfl
  | cons e es ih =>
    have hrel := hstep s t e h
    cases hs : M.step s e with
    | none =>
      rw [hs] at hrel
      cases ht : M.step t e with
      | none => rw [trace_cons_none hs, trace_cons_none ht]
      | some t' =>
        rw [ht] at hrel
        cases hrel
    | some s' =>
      rw [hs] at hrel
      cases ht : M.step t e with
      | none =>
        rw [ht] at hrel
        cases hrel
      | some t' =>
        rw [ht] at hrel
        cases hrel with
        | some hR => rw [trace_cons_some hs, trace_cons_some ht, hview s t e h, ih hR]

end Trace

end Machine
