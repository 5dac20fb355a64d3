/-
  Hoare triples for fallible stateful code.

  `Triple P m Q F`: from a state with `P` the action does not panic; `Q` holds of a value it
  returns and the state then, and `F` holds of the state if it returns an error, or runs out of
  fuel.  An error is no dead end in such code: the state it leaves is what the caller goes on with,
  so it has a postcondition of its own.

  * `Safe I m` — the action does not panic, and keeps `I` however it ends.
  * `Keeps I m` — the action keeps `I`, and may panic.
  * One rule for each form of program, in the order of `Iso14443.Lib.Act`.  The rule for `>>=`
    chains two triples through a middle condition; `attempt`, which turns an error into a value, is
    where the two postconditions meet.
-/
import Iso14443.Lib.Act

namespace Act

variable {σ τ ε ε' α β : Type} {P : σ → Prop} {Q : α → σ → Prop} {F I : σ → Prop}

/-- The triple.  Both the value and the error have a postcondition on the state that is left, and
    running out of fuel counts as an error, since it is the model that gave up. -/
def Triple (P : σ → Prop) (m : Act σ ε α) (Q : α → σ → Prop) (F : σ → Prop) : Prop :=
  ∀ s, P s → match m.run s with
    | (.ok a, s') => Q a s'
    | (.err _, s') => F s'
    | (.panic, _) => False
    | (.outOfFuel, s') => F s'

/-- The action keeps `I`, and does not panic where it holds. -/
abbrev Safe (I : σ → Prop) (m : Act σ ε α) : Prop := Triple I m (fun _ s => I s) I

/-- No state makes the action panic. -/
def NeverPanics (m : Act σ ε α) : Prop := ∀ s, (m.run s).1 ≠ .panic

/-! ## What a triple says

  Weakening, and what follows for one run. -/

/-- **The rule of consequence**, with the precondition made stronger and both postconditions
    weaker. -/
theorem Triple.conseq {P' : σ → Prop} {Q' : α → σ → Prop} {F' : σ → Prop} {m : Act σ ε α}
    (h : Triple P m Q F) (hP : ∀ s, P' s → P s) (hQ : ∀ a s, Q a s → Q' a s)
    (hF : ∀ s, F s → F' s) : Triple P' m Q' F' := by
  intro s hs
  have h := h s (hP s hs)
  rcases hrun : m.run s with ⟨a | e | _ | _, s'⟩ <;> rw [hrun] at h
  · exact hQ a s' h
  · exact hF s' h
  · exact h
  · exact hF s' h

/-- What is known besides of a value that is returned. -/
theorem Triple.and_value {R : α → σ → Prop} {m : Act σ ε α} (h : Triple P m Q F)
    (hR : ∀ s a t, P s → m.run s = (.ok a, t) → R a t) :
    Triple P m (fun a t => Q a t ∧ R a t) F := by
  intro s hs
  have hrun := h s hs
  have hvalue := fun a t => hR s a t hs
  rcases hp : m.run s with ⟨a | e | _ | _, t⟩ <;> rw [hp] at hrun
  · exact ⟨hrun, hvalue a t hp⟩
  all_goals exact hrun

/-- What has a triple does not panic where the precondition holds: that is what a triple is for
    here. -/
theorem Triple.ne_panic {m : Act σ ε α} (h : Triple P m Q F) {s : σ} (hs : P s) :
    (m.run s).1 ≠ .panic := by
  have h := h s hs
  intro hp
  rcases hrun : m.run s with ⟨a | e | _ | _, s'⟩ <;> rw [hrun] at h hp
  · cases hp
  · cases hp
  · exact h
  · cases hp

/-- Nothing is assumed, and nothing is kept. -/
theorem Triple.ne_panic_anywhere {m : Act σ ε α} (h : Triple (fun _ => True) m Q F) : NeverPanics m :=
  fun _ => h.ne_panic trivial

/-! ## The rules

  One for each form of program. -/

/-- A value needs its own postcondition. -/
theorem Triple.pure {a : α} (h : ∀ s, P s → Q a s) : Triple P (pure a : Act σ ε α) Q F :=
  fun s hs => h s hs

/-- An error needs the one of the failures. -/
theorem Triple.throw {e : ε} (h : ∀ s, P s → F s) : Triple P (throw e : Act σ ε α) Q F :=
  fun s hs => h s hs

/-- So does a loop that has no fuel left: it has not returned, but what it did so far counts. -/
theorem Triple.outOfFuel (h : ∀ s, P s → F s) : Triple P (outOfFuel : Act σ ε α) Q F :=
  fun s hs => h s hs

/-- An update needs the postcondition of the state it makes. -/
theorem Triple.modify {f : σ → σ} {Q : Unit → σ → Prop} (h : ∀ s, P s → Q () (f s)) :
    Triple P (modify f : Act σ ε Unit) Q F := fun s hs => h s hs

/-- A pure computation must return; a value needs the postcondition, an error the one of the
    failures. -/
theorem Triple.lift {g : ε → ε'} {x : Res ε α} (hx : x.Returns)
    (hQ : ∀ a, x = .ok a → ∀ s, P s → Q a s) (hF : ∀ s, P s → F s) :
    Triple P (lift g x : Act σ ε' α) Q F := by
  intro s hs
  rw [run_lift]
  cases x with
  | ok a => exact hQ a rfl s hs
  | err e => exact hF s hs
  | panic => exact hx
  | outOfFuel => exact hx.elim

/-- **The rule of sequence.** Both parts share the postcondition of the failures, since either may
    be the one that fails. -/
theorem Triple.bind {m : Act σ ε α} {f : α → Act σ ε β} {R : α → σ → Prop} {Q : β → σ → Prop}
    (hm : Triple P m R F) (hf : ∀ a, Triple (R a) (f a) Q F) : Triple P (m >>= f) Q F := by
  intro s hs
  have h := hm s hs
  rw [run_bind]
  rcases hrun : m.run s with ⟨a | e | _ | _, s'⟩ <;> rw [hrun] at h
  · exact hf a s' h
  all_goals exact h

/-- What follows may look at the state. -/
theorem Triple.get_bind {f : σ → Act σ ε β} {Q : β → σ → Prop}
    (hf : ∀ s, P s → Triple P (f s) Q F) : Triple P (get >>= f) Q F :=
  fun s hs => hf s hs s hs

/-- Each branch under its condition. -/
theorem Triple.ite {c : Prop} [Decidable c] {m n : Act σ ε α} (hm : c → Triple P m Q F)
    (hn : ¬ c → Triple P n Q F) : Triple P (if c then m else n) Q F := by
  split
  · next h => exact hm h
  · next h => exact hn h

/-- An error is a value here. -/
theorem Triple.attempt {m : Act σ ε α} {R : α → σ → Prop} {Q : Except ε α → σ → Prop}
    (hm : Triple P m R F) (hok : ∀ a s, R a s → Q (.ok a) s)
    (herr : ∀ e s, F s → Q (.error e) s) : Triple P (attempt m : Act σ ε' (Except ε α)) Q F := by
  intro s hs
  have h := hm s hs
  simp only [Act.attempt]
  rcases hrun : m.run s with ⟨a | e | _ | _, s'⟩ <;> rw [hrun] at h
  · exact hok a s' h
  · exact herr e s' h
  all_goals exact h

/-- A call on a field that the precondition does not speak of. -/
theorem Triple.zoom {view : σ → τ} {update : τ → σ → σ} {g : ε → ε'} {m : Act τ ε α}
    (hm : ∀ t, (m.run t).1.Returns) (hQ : ∀ a t s, P s → Q a (update t s))
    (hF : ∀ t s, P s → F (update t s)) : Triple P (zoom view update g m) Q F := by
  intro s hs
  have h := hm (view s)
  rw [run_zoom]
  cases hr : (m.run (view s)).1 with
  | ok a => exact hQ a _ s hs
  | err e => exact hF _ s hs
  | panic => rw [hr] at h; exact h
  | outOfFuel => rw [hr] at h; exact h.elim

/-! ### Where `I` is kept all along

  The triples of one invariant, which need no postconditions of their own. -/

/-- A pure computation that returns is safe. -/
theorem Safe.lift {g : ε → ε'} {x : Res ε α} (hx : x.Returns) :
    Safe I (lift g x : Act σ ε' α) := Triple.lift hx (fun _ _ _ hs => hs) fun _ hs => hs

/-- So is a value. -/
theorem Safe.pure {a : α} : Safe I (Pure.pure a : Act σ ε α) := Triple.pure fun _ hs => hs

/-- An error is safe as well. -/
theorem Safe.throw {e : ε} : Safe I (Act.throw e : Act σ ε α) := Triple.throw fun _ hs => hs

/-- An action that returns, in a state with `I`. -/
theorem Safe.of_run {m : Act σ ε α} (h : ∀ s, I s → (m.run s).1.Returns ∧ I (m.run s).2) :
    Safe I m := by
  intro s hs
  obtain ⟨hret, hI⟩ := h s hs
  rcases hrun : m.run s with ⟨a | e | _ | _, s'⟩ <;> rw [hrun] at hret hI
  · exact hI
  · exact hI
  · exact hret
  · exact hret.elim

/-! ## Where panics do not matter

  The same without a statement about panics, so that every program has a rule, `panic` included. -/

/-- `I` holds at the end, whatever the ending is. -/
def Keeps (I : σ → Prop) (m : Act σ ε α) : Prop := ∀ s, I s → I (m.run s).2

/-- A value keeps any invariant. -/
theorem Keeps.pure (a : α) : Keeps I (Pure.pure a : Act σ ε α) := fun _ hs => hs

/-- An error does. -/
theorem Keeps.throw (e : ε) : Keeps I (Act.throw e : Act σ ε α) := fun _ hs => hs

/-- A panic does. -/
theorem Keeps.panic : Keeps I (Act.panic : Act σ ε α) := fun _ hs => hs

/-- A pure computation does, whatever it comes to. -/
theorem Keeps.lift (g : ε → ε') (x : Res ε α) : Keeps I (lift g x : Act σ ε' α) := fun _ hs => hs

/-- An update keeps the invariant if the function does. -/
theorem Keeps.modify {f : σ → σ} (h : ∀ s, I s → I (f s)) : Keeps I (modify f : Act σ ε Unit) :=
  fun s hs => h s hs

/-- A sequence keeps what its parts keep. -/
theorem Keeps.bind {m : Act σ ε α} {f : α → Act σ ε β} (hm : Keeps I m) (hf : ∀ a, Keeps I (f a)) :
    Keeps I (m >>= f) := fun s hs => run_bind_state (hm s hs) fun a s' hs' => hf a s' hs'

/-- After `get`, for every state that it may give. -/
theorem Keeps.get_bind {f : σ → Act σ ε β} (hf : ∀ s, Keeps I (f s)) : Keeps I (get >>= f) :=
  fun s hs => hf s s hs

/-- Both branches keep it. -/
theorem Keeps.ite {c : Prop} [Decidable c] {m n : Act σ ε α} (hm : Keeps I m) (hn : Keeps I n) :
    Keeps I (if c then m else n) := by
  split
  · exact hm
  · exact hn

/-- An attempt keeps it whether it succeeds or not. -/
theorem Keeps.attempt {m : Act σ ε α} (hm : Keeps I m) :
    Keeps I (attempt m : Act σ ε' (Except ε α)) := by
  intro s hs
  have h := hm s hs
  simp only [Act.attempt]
  rcases hrun : m.run s with ⟨_ | _ | _ | _, s'⟩ <;> rw [hrun] at h <;> exact h

/-- A computation on a part of the state keeps what does not depend on that part. -/
theorem Keeps.zoom {view : σ → τ} {update : τ → σ → σ} (g : ε → ε') (m : Act τ ε α)
    (h : ∀ t s, I s → I (update t s)) : Keeps I (zoom view update g m) := fun s hs => h _ s hs

end Act
