import Mathlib.Tactic.TypeStar

/-!
# Functions that throw, and constructors

A `Prog` changes a state, which it leaves behind also when it throws; `none` is the
end of the process. `Triple P c Q` is total up to that end: `Q` says when the
process may end, and what holds behind a return and behind an exception.

- `Prog.constructing`: the body of a constructor fills in the members of an object
  that is not one yet. An exception that leaves it destroys the members, and only
  these: the destructor of the class has no object to run on.
- `Prog.withObject`: an object is used and then destroyed, whichever way its use ends.
-/

universe u

/-- A function on the state `σ` with result `α` and exceptions `ε`. -/
abbrev Prog (σ ε α : Type u) : Type u := ExceptT ε (StateT σ Option) α

namespace Prog

variable {σ ε α β S W : Type u}

def exec (c : Prog σ ε α) (s : σ) : Option (Except ε α × σ) := (ExceptT.run c).run s

/-- The process ends. -/
def died : Prog σ ε α := ExceptT.mk fun _ => none

/-- `assert(b);` -/
def assert (b : Bool) : Prog σ ε PUnit := if b then pure ⟨⟩ else died

/-- A function of the world, called on the way. -/
def onWorld (c : Prog W ε α) : Prog (S × W) ε α :=
  ExceptT.mk fun s => (exec c s.2).map fun out => (out.1, s.1, out.2)

/-- A constructor. -/
def constructing (init : S) (destroyMembers : S → W → Option W) (body : Prog (S × W) ε PUnit) :
    Prog W ε S :=
  ExceptT.mk fun w =>
    match exec body (init, w) with
    | none => none
    | some (.ok _, this, w) => some (.ok this, w)
    | some (.error ex, this, w) => (destroyMembers this w).map fun w => (.error ex, w)

/-- What is done with an object, and its destructor. -/
def withObject (object : S) (destroy : S → W → Option W) (body : Prog (S × W) ε α) : Prog W ε α :=
  ExceptT.mk fun w =>
    match exec body (object, w) with
    | none => none
    | some (r, this, w) => (destroy this w).map fun w => (r, w)

/-! ## What runs do -/

@[simp] theorem exec_pure (a : α) (s : σ) : exec (pure a : Prog σ ε α) s = some (.ok a, s) := rfl

@[simp] theorem exec_throw (ex : ε) (s : σ) :
    exec (throw ex : Prog σ ε α) s = some (.error ex, s) := rfl

@[simp] theorem exec_died (s : σ) : exec (died : Prog σ ε α) s = none := rfl

@[simp] theorem exec_modify (f : σ → σ) (s : σ) :
    exec (modify f : Prog σ ε PUnit) s = some (.ok ⟨⟩, f s) := rfl

@[simp] theorem exec_get (s : σ) : exec (get : Prog σ ε σ) s = some (.ok s, s) := rfl

theorem exec_bind (c : Prog σ ε α) (f : α → Prog σ ε β) (s : σ) :
    exec (c >>= f) s = match exec c s with
      | none => none
      | some (.ok a, s) => exec (f a) s
      | some (.error ex, s) => some (.error ex, s) := by
  show ((ExceptT.run c) s).bind _ = _
  unfold exec
  show _ = match (ExceptT.run c) s with
    | none => none
    | some (.ok a, s) => _
    | some (.error ex, s) => _
  cases (ExceptT.run c) s with
  | none => rfl
  | some out =>
    obtain ⟨r, s⟩ := out
    cases r with
    | ok => rfl
    | error => rfl

theorem exec_onWorld (c : Prog W ε α) (this : S) (w : W) :
    exec (onWorld c) (this, w) = (exec c w).map fun out => (out.1, this, out.2) := rfl

theorem exec_constructing (init : S) (destroyMembers : S → W → Option W)
    (body : Prog (S × W) ε PUnit) (w : W) :
    exec (constructing init destroyMembers body) w = match exec body (init, w) with
      | none => none
      | some (.ok _, this, w) => some (.ok this, w)
      | some (.error ex, this, w) => (destroyMembers this w).map fun w => (.error ex, w) := rfl

theorem exec_withObject (object : S) (destroy : S → W → Option W) (body : Prog (S × W) ε α)
    (w : W) :
    exec (withObject object destroy body) w = match exec body (object, w) with
      | none => none
      | some (r, this, w) => (destroy this w).map fun w => (r, w) := rfl

/-! ## Triples -/

/-- What holds behind a function: when it has returned, when it has thrown, and
when the process has ended. -/
structure Post (σ ε α : Type u) where
  returned : α → σ → Prop
  thrown : ε → σ → Prop
  died : Prop

def Post.Ends (Q : Post σ ε α) : Except ε α → σ → Prop
  | .ok a => Q.returned a
  | .error ex => Q.thrown ex

def Post.Holds (Q : Post σ ε α) : Option (Except ε α × σ) → Prop
  | none => Q.died
  | some (r, s) => Q.Ends r s

def Triple (P : σ → Prop) (c : Prog σ ε α) (Q : Post σ ε α) : Prop :=
  ∀ s, P s → Q.Holds (exec c s)

namespace Triple

variable {P P' : σ → Prop} {Q Q' : α → σ → Prop} {E E' : ε → σ → Prop} {D D' : Prop}

theorem ret {a : α} (h : ∀ s, P s → Q a s) : Triple P (pure a) ⟨Q, E, D⟩ := h

theorem throws {ex : ε} (h : ∀ s, P s → E ex s) : Triple P (throw ex) ⟨Q, E, D⟩ := h

theorem modifies {Q : PUnit → σ → Prop} {f : σ → σ} (h : ∀ s, P s → Q ⟨⟩ (f s)) :
    Triple P (modify f) ⟨Q, E, D⟩ :=
  h

theorem asserts {Q : PUnit → σ → Prop} {b : Bool} (h : ∀ s, P s → b = true → Q ⟨⟩ s)
    (hD : b = false → D) : Triple P (Prog.assert b) ⟨Q, E, D⟩ := by
  intro s hs
  cases b with
  | true => exact h s hs rfl
  | false => exact hD rfl

theorem conseq {c : Prog σ ε α} (h : Triple P' c ⟨Q', E', D'⟩) (hP : ∀ s, P s → P' s)
    (hQ : ∀ a s, Q' a s → Q a s) (hE : ∀ ex s, E' ex s → E ex s) (hD : D' → D) :
    Triple P c ⟨Q, E, D⟩ := by
  intro s hs
  have hout := h s (hP s hs)
  cases hc : exec c s with
  | none =>
    rw [hc] at hout
    exact hD hout
  | some out =>
    obtain ⟨r, s'⟩ := out
    rw [hc] at hout
    cases r with
    | ok a => exact hQ a s' hout
    | error ex => exact hE ex s' hout

theorem pre {c : Prog σ ε α} {Q : Post σ ε α} (h : Triple P' c Q) (hP : ∀ s, P s → P' s) :
    Triple P c Q :=
  fun s hs => h s (hP s hs)

/-- A fact about the state in front may be used. -/
theorem of_state {c : Prog σ ε α} {Q : Post σ ε α}
    (h : ∀ s₀, P s₀ → Triple (fun s => s = s₀) c Q) : Triple P c Q :=
  fun s hs => h s hs s rfl

theorem bind {c : Prog σ ε α} {f : α → Prog σ ε β} {R : α → σ → Prop} {Q : β → σ → Prop}
    (hc : Triple P c ⟨R, E, D⟩) (hf : ∀ a, Triple (R a) (f a) ⟨Q, E, D⟩) :
    Triple P (c >>= f) ⟨Q, E, D⟩ := by
  intro s hs
  have hout := hc s hs
  rw [exec_bind]
  cases hc : exec c s with
  | none =>
    rw [hc] at hout
    exact hout
  | some out =>
    obtain ⟨r, s'⟩ := out
    rw [hc] at hout
    cases r with
    | ok a => exact hf a s' hout
    | error ex => exact hout

/-- Reading the state. -/
theorem gets {f : σ → Prog σ ε α} {Q : Post σ ε α}
    (h : ∀ s₀, P s₀ → Triple (fun s => s = s₀) (f s₀) Q) : Triple P (get >>= f) Q := by
  intro s hs
  rw [exec_bind, exec_get]
  exact h s hs s rfl

/-- A loop: the invariant is about the part of the list that is done. -/
theorem forM {l : List β} {f : β → Prog σ ε PUnit} {I : List β → σ → Prop}
    (h : ∀ before x after, l = before ++ x :: after →
      Triple (I before) (f x) ⟨fun _ => I (before ++ [x]), E, D⟩) :
    Triple (I []) (l.forM f) ⟨fun _ => I l, E, D⟩ := by
  -- what is left of the list, behind any part of it that is done
  have hrest : ∀ before after, l = before ++ after →
      Triple (I before) (after.forM f) ⟨fun _ => I l, E, D⟩ := by
    intro before after
    induction after generalizing before with
    | nil =>
      intro hl
      rw [List.append_nil] at hl
      subst hl
      exact ret fun _ hs => hs
    | cons x after ih =>
      intro hl
      refine bind (h before x after hl) fun _ => ih (before ++ [x]) ?_
      rw [hl, List.append_assoc]
      rfl
  exact hrest [] l rfl

/-- A call on the world keeps the object. -/
theorem onWorld {P : W → Prop} {c : Prog W ε α} {Q : α → W → Prop} {E : ε → W → Prop}
    (h : Triple P c ⟨Q, E, D⟩) (this : S) :
    Triple (fun s => s.1 = this ∧ P s.2) (Prog.onWorld c)
      ⟨fun a s => s.1 = this ∧ Q a s.2, fun ex s => s.1 = this ∧ E ex s.2, D⟩ := by
  rintro ⟨_, w⟩ ⟨rfl, hw⟩
  have hout := h w hw
  rw [exec_onWorld]
  cases hc : exec c w with
  | none =>
    rw [hc] at hout
    exact hout
  | some out =>
    obtain ⟨r, w'⟩ := out
    rw [hc] at hout
    cases r with
    | ok a => exact ⟨rfl, hout⟩
    | error ex => exact ⟨rfl, hout⟩

end Triple

/-! ## Objects -/

/-- A destructor: what holds behind it, and when the process may end in it. -/
def Destroys (destroy : S → W → Option W) (P : S → W → Prop) (Q : W → Prop) (D : Prop) : Prop :=
  ∀ this w, P this w → match destroy this w with
    | none => D
    | some w => Q w

/-- What was returned or thrown is kept over a destructor. -/
theorem Destroys.holds {destroy : S → W → Option W} {P : S → W → Prop} {Q : Post W ε α}
    {r : Except ε α} (h : Destroys destroy P (Q.Ends r) Q.died) {this : S} {w : W}
    (hw : P this w) : Q.Holds ((destroy this w).map fun w => (r, w)) := by
  have hdone := h this w hw
  cases hd : destroy this w with
  | none =>
    rw [hd] at hdone
    exact hdone
  | some w' =>
    rw [hd] at hdone
    exact hdone

namespace Triple

variable {P : W → Prop} {E : ε → W → Prop} {D : Prop} {E' : ε → S → W → Prop}

theorem constructing {init : S} {destroyMembers : S → W → Option W}
    {body : Prog (S × W) ε PUnit} {Q : S → W → Prop}
    (hbody : Triple (fun s => s.1 = init ∧ P s.2) body
      ⟨fun _ s => Q s.1 s.2, fun ex s => E' ex s.1 s.2, D⟩)
    (hthrown : ∀ ex, Destroys destroyMembers (E' ex) (E ex) D) :
    Triple P (Prog.constructing init destroyMembers body) ⟨Q, E, D⟩ := by
  intro w hw
  have hout := hbody (init, w) ⟨rfl, hw⟩
  rw [exec_constructing]
  cases hc : exec body (init, w) with
  | none =>
    rw [hc] at hout
    exact hout
  | some out =>
    obtain ⟨r, this, w'⟩ := out
    rw [hc] at hout
    cases r with
    | ok => exact hout
    | error ex => exact Destroys.holds (hthrown ex) hout

theorem withObject {object : S} {destroy : S → W → Option W} {body : Prog (S × W) ε α}
    {Q : α → W → Prop} {Q' : α → S → W → Prop}
    (hbody : Triple (fun s => s.1 = object ∧ P s.2) body
      ⟨fun a s => Q' a s.1 s.2, fun ex s => E' ex s.1 s.2, D⟩)
    (hreturned : ∀ a, Destroys destroy (Q' a) (Q a) D)
    (hthrown : ∀ ex, Destroys destroy (E' ex) (E ex) D) :
    Triple P (Prog.withObject object destroy body) ⟨Q, E, D⟩ := by
  intro w hw
  have hout := hbody (object, w) ⟨rfl, hw⟩
  rw [exec_withObject]
  cases hc : exec body (object, w) with
  | none =>
    rw [hc] at hout
    exact hout
  | some out =>
    obtain ⟨r, this, w'⟩ := out
    rw [hc] at hout
    cases r with
    | ok a => exact Destroys.holds (hreturned a) hout
    | error ex => exact Destroys.holds (hthrown ex) hout

end Triple

end Prog
