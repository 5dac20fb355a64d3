/-
  Two programs side by side.

  `Similar R V m m'`: from states related by `R` both actions end alike, and in related states.  If
  they return values, `V` relates those; if they fail, each has an error of its own.  So one
  program may take another way to a failure than the other, as long as both fail.

  * `Res.Similar V` — two endings of the same kind.
  * One rule for each form of program, in the order of `Iso14443.Lib.Act`; `Act.Alike` is the case
    of equal values and equal errors.

  It is no `Relator` (`Iso14443.Lib.Relator`): there the two programs have one shape and one error
  type, and the relation is free; here the errors differ, and the relation on values is a
  parameter.
-/
import Iso14443.Lib.Act

namespace Res

variable {ε ε' α α' β β' : Type}

/-- Two endings of the same kind, with values related by `V`. -/
def Similar (V : α → α' → Prop) : Res ε α → Res ε' α' → Prop
  | ok a, ok a' => V a a'
  | err _, err _ => True
  | panic, panic => True
  | outOfFuel, outOfFuel => True
  | _, _ => False

/-- An ending is similar to itself, where its values are. -/
theorem Similar.refl {V : α → α → Prop} (hV : ∀ a, V a a) (x : Res ε α) : Similar V x x := by
  cases x with
  | ok a => exact hV a
  | _ => trivial

/-- The value, if there is one, and how the code ended otherwise. -/
def erase (x : Res ε α) : Res Unit α := x.mapErr fun _ => ()

/-- Endings with equal values are the same but for the error. -/
theorem Similar.erase {x : Res ε α} {x' : Res ε' α} (h : Similar Eq x x') : x.erase = x'.erase := by
  cases x <;> cases x' <;> first | exact h.elim | (cases h; rfl)

end Res

namespace Act

variable {σ σ' ε ε' ε₁ ε₁' α α' β β' : Type} {R : σ → σ' → Prop} {V : α → α' → Prop}
  {W : β → β' → Prop}

/-- The two actions end alike. -/
def Similar (R : σ → σ' → Prop) (V : α → α' → Prop) (m : Act σ ε α) (m' : Act σ' ε' α') : Prop :=
  ∀ s s', R s s' → Res.Similar V (m.run s).1 (m'.run s').1 ∧ R (m.run s).2 (m'.run s').2

/-- Two values that are related. -/
theorem Similar.pure {a : α} {a' : α'} (h : V a a') :
    Similar R V (Pure.pure a : Act σ ε α) (Pure.pure a' : Act σ' ε' α') := fun _ _ hs => ⟨h, hs⟩

/-- Two errors, whichever they are: the errors are free. -/
theorem Similar.throw (e : ε) (e' : ε') :
    Similar R V (throw e : Act σ ε α) (throw e' : Act σ' ε' α') := fun _ _ hs => ⟨trivial, hs⟩

/-- Two loops without fuel. -/
theorem Similar.outOfFuel :
    Similar R V (outOfFuel : Act σ ε α) (outOfFuel : Act σ' ε' α') := fun _ _ hs => ⟨trivial, hs⟩

/-- Two updates that keep the relation of the states. -/
theorem Similar.modify {V : Unit → Unit → Prop} {f : σ → σ} {f' : σ' → σ'} (hV : V () ())
    (h : ∀ s s', R s s' → R (f s) (f' s')) :
    Similar R V (modify f : Act σ ε Unit) (modify f' : Act σ' ε' Unit) :=
  fun s s' hs => ⟨hV, h s s' hs⟩

/-- Two pure computations with similar endings. -/
theorem Similar.lift {g : ε → ε₁} {g' : ε' → ε₁'} {x : Res ε α} {x' : Res ε' α'}
    (h : Res.Similar V x x') :
    Similar R V (lift g x : Act σ ε₁ α) (lift g' x' : Act σ' ε₁' α') := by
  intro s s' hs
  refine ⟨?_, hs⟩
  rw [run_lift, run_lift]
  cases x <;> cases x' <;> first | exact h.elim | exact h

/-- **Sequences of similar parts are similar.** The second parts are compared on all values that are
    related, since the first ones need not give the same. -/
theorem Similar.bind {m : Act σ ε α} {m' : Act σ' ε' α'} {f : α → Act σ ε β}
    {f' : α' → Act σ' ε' β'} (hm : Similar R V m m')
    (hf : ∀ a a', V a a' → Similar R W (f a) (f' a')) : Similar R W (m >>= f) (m' >>= f') := by
  intro s s' hs
  obtain ⟨hres, hstate⟩ := hm s s' hs
  rw [run_bind, run_bind]
  generalize m.run s = p at hres hstate ⊢
  generalize m'.run s' = p' at hres hstate ⊢
  obtain ⟨r, t⟩ := p
  obtain ⟨r', t'⟩ := p'
  cases r <;> cases r' <;> first | exact hres.elim | exact ⟨trivial, hstate⟩ | skip
  exact hf _ _ hres t t' hstate

/-- Sequences of actions that return the same value. -/
theorem Similar.bind_eq {m : Act σ ε α} {m' : Act σ' ε' α} {f : α → Act σ ε β}
    {f' : α → Act σ' ε' β'} (hm : Similar R Eq m m') (hf : ∀ a, Similar R W (f a) (f' a)) :
    Similar R W (m >>= f) (m' >>= f') :=
  hm.bind fun a a' ha => by
    subst ha
    exact hf a

/-- What follows may look at the states. -/
theorem Similar.get_bind {f : σ → Act σ ε β} {f' : σ' → Act σ' ε' β'}
    (hf : ∀ s s', R s s' → Similar R W (f s) (f' s')) : Similar R W (get >>= f) (get >>= f') :=
  fun s s' hs => hf s s' hs s s' hs

/-- Two conditions that say the same, each deciding on its side. -/
theorem Similar.ite {c c' : Prop} [Decidable c] [Decidable c'] {m n : Act σ ε α}
    {m' n' : Act σ' ε' α'} (hc : c ↔ c') (hm : c → Similar R V m m') (hn : ¬ c → Similar R V n n') :
    Similar R V (if c then m else n) (if c' then m' else n') := by
  by_cases h : c
  · rw [if_pos h, if_pos (hc.mp h)]
    exact hm h
  · rw [if_neg h, if_neg fun h' => h (hc.mpr h')]
    exact hn h

/-- An error on one side is one on the other. -/
theorem Similar.attempt {m : Act σ ε α} {m' : Act σ' ε' α'} (hm : Similar R V m m') :
    Similar R (fun (x : Except ε α) (x' : Except ε' α') => match x, x' with
        | .ok a, .ok a' => V a a'
        | .error _, .error _ => True
        | _, _ => False)
      (attempt m : Act σ ε₁ (Except ε α)) (attempt m' : Act σ' ε₁' (Except ε' α')) := by
  intro s s' hs
  obtain ⟨hres, hstate⟩ := hm s s' hs
  simp only [Act.attempt]
  generalize m.run s = p at hres hstate ⊢
  generalize m'.run s' = p' at hres hstate ⊢
  obtain ⟨r, t⟩ := p
  obtain ⟨r', t'⟩ := p'
  cases r <;> cases r' <;> first | exact hres.elim | exact ⟨trivial, hstate⟩ | exact ⟨hres, hstate⟩

/-- After an attempt, both sides go on with a value or both with an error. -/
theorem Similar.attempt_bind {m : Act σ ε α} {m' : Act σ' ε' α'} {f : Except ε α → Act σ ε₁ β}
    {f' : Except ε' α' → Act σ' ε₁' β'} (hm : Similar R V m m')
    (hok : ∀ a a', V a a' → Similar R W (f (.ok a)) (f' (.ok a')))
    (herr : ∀ e e', Similar R W (f (.error e)) (f' (.error e'))) :
    Similar R W (Act.attempt m >>= f) (Act.attempt m' >>= f') := by
  refine hm.attempt.bind fun x x' hx => ?_
  cases x with
  | ok a =>
    cases x' with
    | ok a' => exact hok a a' hx
    | error e' => exact hx.elim
  | error e =>
    cases x' with
    | ok a' => exact hx.elim
    | error e' => exact herr e e'

end Act
