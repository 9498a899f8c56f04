import Mathlib.Order.Defs.Unbundled
import Pipewright.World

set_option autoImplicit false

/-! # Running actions

`Action.runOn` is what an action gives on a state, together with the state it leaves.
`Action.Answers P action result` says that on every state with the property `P` the action gives
`result` and leaves a state that has `P` again: loading a document answers so as long as the disk
stays as it is. Answers compose along `>>=`, so a workflow of looking steps is a pure function of
the property. `Action.Moves R action` says only that the action leaves each state for one that comes
after it by the preorder `R`, whatever it gives. -/

namespace Pipewright

namespace Action

variable {σ α β : Type}

/-- What an action gives on a state, and the state that it leaves. -/
def runOn (action : Action σ α) (s : σ) : Except Failure α × σ := action.run.run s

@[simp] theorem runOn_pure (a : α) (s : σ) : runOn (pure a) s = (.ok a, s) := rfl

@[simp] theorem runOn_throw (failure : Failure) (s : σ) :
    runOn (throw failure : Action σ α) s = (.error failure, s) := rfl

@[simp] theorem runOn_get (s : σ) : runOn (get : Action σ σ) s = (.ok s, s) := rfl

@[simp] theorem runOn_set (s s' : σ) : runOn (set s' : Action σ PUnit) s = (.ok ⟨⟩, s') := rfl

@[simp] theorem runOn_mk_pure (result : Except Failure α) (s : σ) :
    runOn (ExceptT.mk (pure result) : Action σ α) s = (result, s) := rfl

theorem runOn_bind (action : Action σ α) (next : α → Action σ β) (s : σ) :
    (action >>= next).runOn s =
      match action.runOn s with
      | (.ok a, s') => (next a).runOn s'
      | (.error failure, s') => (.error failure, s') := by
  unfold runOn
  simp only [ExceptT.run_bind, StateT.run_bind]
  rcases h : action.run.run s with ⟨_ | a, s'⟩ <;> simp <;> rfl

theorem runOn_bind_ok {action : Action σ α} {next : α → Action σ β} {s s' : σ} {a : α}
    (h : action.runOn s = (.ok a, s')) : (action >>= next).runOn s = (next a).runOn s' := by
  rw [runOn_bind, h]

theorem runOn_bind_error {action : Action σ α} {next : α → Action σ β} {s s' : σ}
    {failure : Failure} (h : action.runOn s = (.error failure, s')) :
    (action >>= next).runOn s = (.error failure, s') := by
  rw [runOn_bind, h]

/-- A sequence that succeeds is taken apart: what comes first has succeeded too. -/
theorem runOn_bind_eq_ok {action : Action σ α} {next : α → Action σ β} {s s' : σ} {b : β}
    (h : (action >>= next).runOn s = (.ok b, s')) :
    ∃ a middle, action.runOn s = (.ok a, middle) ∧ (next a).runOn middle = (.ok b, s') := by
  rcases hrun : action.runOn s with ⟨failure | a, middle⟩
  · rw [runOn_bind_error hrun] at h
    cases h
  · rw [runOn_bind_ok hrun] at h
    exact ⟨a, middle, rfl, h⟩

/-- Sequences do the same on a state when their parts do. -/
theorem runOn_bind_congr {action other : Action σ α} {next later : α → Action σ β} {s : σ}
    (h : action.runOn s = other.runOn s)
    (hnext : ∀ a s', other.runOn s = (.ok a, s') → (next a).runOn s' = (later a).runOn s') :
    (action >>= next).runOn s = (other >>= later).runOn s := by
  rw [runOn_bind, runOn_bind, h]
  rcases hrun : other.runOn s with ⟨failure | a, s'⟩
  · rfl
  · exact hnext a s' hrun

/-! ## Actions that answer -/

section Answers

/-- On every state with a property, the action gives this result and keeps the property. -/
def Answers (P : σ → Prop) (action : Action σ α) (result : Except Failure α) : Prop :=
  ∀ s, P s → (action.runOn s).1 = result ∧ P (action.runOn s).2

variable {P : σ → Prop}

theorem Answers.pure (a : α) : Answers P (Pure.pure a) (.ok a) := fun _ hs => ⟨rfl, hs⟩

theorem Answers.throw (failure : Failure) :
    Answers P (MonadExcept.throw failure : Action σ α) (.error failure) := fun _ hs => ⟨rfl, hs⟩

theorem Answers.bind_ok {action : Action σ α} {next : α → Action σ β} {a : α}
    {result : Except Failure β} (h : action.Answers P (.ok a)) (hnext : (next a).Answers P result) :
    (action >>= next).Answers P result := by
  intro s hs
  obtain ⟨ha, hkept⟩ := h s hs
  rw [runOn_bind_ok (Prod.ext ha rfl)]
  exact hnext _ hkept

theorem Answers.bind {action : Action σ α} {next : α → Action σ β} {result : Except Failure α}
    {results : α → Except Failure β} (h : action.Answers P result)
    (hnext : ∀ a, result = .ok a → (next a).Answers P (results a)) :
    (action >>= next).Answers P (result >>= results) := by
  intro s hs
  obtain ⟨hresult, hkept⟩ := h s hs
  rcases hrun : action.runOn s with ⟨_ | a, s'⟩
  · rw [hrun] at hresult hkept
    rw [runOn_bind_error hrun, ← hresult]
    exact ⟨rfl, hkept⟩
  · rw [hrun] at hresult hkept
    rw [runOn_bind_ok hrun, ← hresult]
    exact hnext a hresult.symm s' hkept

end Answers

/-! ## Actions that move a state -/

section Moves

/-- The state that the action leaves comes after the one that it is run on. -/
def Moves (R : σ → σ → Prop) (action : Action σ α) : Prop := ∀ s, R s (action.runOn s).2

variable {R : σ → σ → Prop} [IsPreorder σ R]

theorem Moves.pure (a : α) : Moves R (Pure.pure a : Action σ α) := fun s => refl_of R s

theorem Moves.throw (failure : Failure) :
    Moves R (MonadExcept.throw failure : Action σ α) := fun s => refl_of R s

theorem Moves.mk_pure (result : Except Failure α) :
    Moves R (ExceptT.mk (Pure.pure result) : Action σ α) := fun s => refl_of R s

omit [IsPreorder σ R] in
/-- What comes first in a sequence fails, or hands a later state on. -/
theorem Moves.fails_or_goes_on {action : Action σ α} (h : action.Moves R) (next : α → Action σ β)
    (s : σ) :
    (∃ failure, ((action >>= next).runOn s).1 = .error failure ∧
      R s ((action >>= next).runOn s).2) ∨
    ∃ a s', action.runOn s = (.ok a, s') ∧ R s s' ∧
      (action >>= next).runOn s = (next a).runOn s' := by
  have hfirst := h s
  rcases hrun : action.runOn s with ⟨failure | a, s'⟩
  · rw [hrun] at hfirst
    rw [runOn_bind_error hrun]
    exact .inl ⟨failure, rfl, hfirst⟩
  · rw [hrun] at hfirst
    exact .inr ⟨a, s', rfl, hfirst, runOn_bind_ok hrun⟩

theorem Moves.bind {action : Action σ α} {next : α → Action σ β} (h : action.Moves R)
    (hnext : ∀ a, (next a).Moves R) : (action >>= next).Moves R := by
  intro s
  rcases h.fails_or_goes_on next s with ⟨failure, -, hfirst⟩ | ⟨a, s', -, hfirst, hrun⟩
  · exact hfirst
  · rw [hrun]
    exact trans_of R hfirst (hnext a s')

end Moves

/-! ## Actions that fail in one way -/

/-- Every failure of the action has this property. -/
def FailsWith (P : Failure → Prop) (action : Action σ α) : Prop :=
  ∀ s failure, (action.runOn s).1 = .error failure → P failure

variable {P : Failure → Prop}

theorem FailsWith.throw {failure : Failure} (h : P failure) :
    FailsWith P (MonadExcept.throw failure : Action σ α) := by
  intro s other herror
  cases herror
  exact h

/-- An action that gives a value on every state has no failures. -/
theorem FailsWith.of_ok {action : Action σ α} (h : ∀ s, ∃ a, (action.runOn s).1 = .ok a) :
    action.FailsWith P := by
  intro s failure herror
  obtain ⟨a, hok⟩ := h s
  rw [hok] at herror
  cases herror

theorem FailsWith.pure (a : α) : FailsWith P (Pure.pure a : Action σ α) :=
  .of_ok fun _ => ⟨a, rfl⟩

theorem FailsWith.mk_pure {result : Except Failure α}
    (h : ∀ failure, result = .error failure → P failure) :
    FailsWith P (ExceptT.mk (Pure.pure result) : Action σ α) :=
  fun _ => h

theorem FailsWith.imp {Q : Failure → Prop} {action : Action σ α} (h : action.FailsWith P)
    (himp : ∀ failure, P failure → Q failure) : action.FailsWith Q :=
  fun s failure herror => himp failure (h s failure herror)

theorem FailsWith.bind {action : Action σ α} {next : α → Action σ β} (h : action.FailsWith P)
    (hnext : ∀ a, (next a).FailsWith P) : (action >>= next).FailsWith P := by
  intro s failure herror
  rcases hrun : action.runOn s with ⟨first | a, s'⟩
  · rw [runOn_bind_error hrun] at herror
    cases herror
    exact h s failure (by rw [hrun])
  · rw [runOn_bind_ok hrun] at herror
    exact hnext a s' failure herror

end Action

end Pipewright
