import Task6.Library.Machine

/-!
# Refinement

A machine simulates another one along a relation when each of its steps is
matched by some steps of the other, none included. Every run is then matched by a
run, and what holds throughout the runs of the abstract machine holds, seen
through the relation, throughout those of the concrete one
(`Simulates.always`). `B` singles out the abstract events that are needed, for
results about the runs made of these.
-/

universe u v w x

namespace Machine

variable {S : Type u} {E : Type v} {T : Type w} {F : Type x}

/-- Each step of `M` is matched by steps of `N` whose events meet `B`. -/
structure Simulates (M : Machine S E) (N : Machine T F) (R : S → T → Prop) (B : F → Prop) :
    Prop where
  init : R M.init N.init
  step : ∀ s t e s', R s t → M.step s e = some s' →
    ∃ fs t', N.exec t fs = some t' ∧ R s' t' ∧ ∀ f ∈ fs, B f

variable {M : Machine S E} {N : Machine T F} {R : S → T → Prop} {B : F → Prop}

/-- A step that the abstract machine does not see. -/
theorem matched_stutter {t : T} {s' : S} (h : R s' t) :
    ∃ fs t', N.exec t fs = some t' ∧ R s' t' ∧ ∀ f ∈ fs, B f :=
  ⟨[], t, rfl, h, fun _ hf => absurd hf List.not_mem_nil⟩

/-- A step that is one of the abstract machine. -/
theorem matched_step {t t' : T} {s' : S} {f : F} (hf : N.step t f = some t') (h : R s' t')
    (hB : B f) : ∃ fs t', N.exec t fs = some t' ∧ R s' t' ∧ ∀ f ∈ fs, B f := by
  refine ⟨[f], t', exec_cons_some.mpr ⟨t', hf, rfl⟩, h, fun g hg => ?_⟩
  rw [List.mem_singleton.mp hg]
  exact hB

namespace Simulates

/-- Every run is matched by a run. -/
theorem exec (h : M.Simulates N R B) {es : List E} {s : S} (hs : M.exec M.init es = some s) :
    ∃ fs t, N.exec N.init fs = some t ∧ R s t ∧ ∀ f ∈ fs, B f := by
  -- from any pair of related states
  have hrun : ∀ s₀ t₀, R s₀ t₀ → M.exec s₀ es = some s →
      ∃ fs t, N.exec t₀ fs = some t ∧ R s t ∧ ∀ f ∈ fs, B f := by
    clear hs
    induction es with
    | nil =>
      intro s₀ t₀ hR hs
      cases hs
      exact matched_stutter hR
    | cons e es ih =>
      intro s₀ t₀ hR hs
      obtain ⟨s₁, he, hes⟩ := exec_cons_some.mp hs
      obtain ⟨fs, t₁, hfs, hR₁, hB⟩ := h.step s₀ t₀ e s₁ hR he
      obtain ⟨gs, t, hgs, hRt, hB'⟩ := ih s₁ t₁ hR₁ hes
      refine ⟨fs ++ gs, t, exec_trans hfs hgs, hRt, fun f hf => ?_⟩
      exact (List.mem_append.mp hf).elim (hB f) (hB' f)
  exact hrun _ _ h.init hs

/-- An invariant of the abstract machine, held along the relation. -/
theorem keeps (h : M.Simulates N R B) {P : T → Prop}
    (hP : ∀ t f t', P t → B f → N.step t f = some t' → P t') {s s' : S} {e : E}
    (hs : ∃ t, R s t ∧ P t) (he : M.step s e = some s') : ∃ t, R s' t ∧ P t := by
  obtain ⟨t, hR, ht⟩ := hs
  obtain ⟨fs, t', hexec, hR', hB⟩ := h.step s t e s' hR he
  refine ⟨t', hR', ?_⟩
  -- along the steps that match
  clear hR hR' he
  induction fs generalizing t with
  | nil =>
    cases hexec
    exact ht
  | cons f fs ih =>
    obtain ⟨t₁, hf, hfs⟩ := exec_cons_some.mp hexec
    obtain ⟨hBf, hBfs⟩ := List.forall_mem_cons.mp hB
    exact ih t₁ (hP t f t₁ ht hBf hf) hfs hBfs

/-- **The refinement rule**: what the abstract machine has throughout its runs
the concrete machine has, as the relation shows it. -/
theorem always (h : M.Simulates N R B) {P : T → Prop} {Q : S → Prop}
    (hP : ∀ fs, (∀ f ∈ fs, B f) → N.Always P N.init fs) (hQ : ∀ s t, R s t → P t → Q s)
    (es : List E) : M.Always Q M.init es := by
  rw [always_iff]
  intro fs s _ hs
  obtain ⟨gs, t, ht, hR, hB⟩ := h.exec hs
  exact hQ s t hR (always_iff.mp (hP gs hB) gs t (List.prefix_refl _) ht)

end Simulates

end Machine
