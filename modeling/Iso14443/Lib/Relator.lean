/-
  Two programs of one shape, under any relation that the forms of programs keep.

  A program is put together from a few forms: `pure`, `throw`, `>>=`, a look at the state.  A
  `Relator` is a relation between the actions on two state types that each of these forms keeps, so
  that two programs of one shape are related as soon as their steps are, whatever the relation says.
  The walk through a program is then made once, for every relator, and read off for each of them:

  * `Act.Alike R`         — both programs end alike, in states that `R` relates.
  * `Act.Follows R gives` — the second program does what the first one does, unless the first one
    fails with an error that `gives` names.
  * `relator_keeps`       — one program, and what its steps keep.
  * `Act.Tracks R Lost`   — the second program does what the first one does, until the first one is
    `Lost`, which it stays.

  A `Graded` relation counts besides: the grade of a program bounds what its steps may cost, and the
  grades of two programs in a row add up.  It need not know of panics, so that freedom from panics
  is one of these relations: `graded_safe`.  A `Relator` is one that counts nothing, and
  `Relator.graded` makes it one, so a walk that is made over graded relations serves all of them.

  What a program returns is followed apart from its states, by `Act.Yields`.
-/
import Iso14443.Lib.Hoare

namespace Act

variable {σ σ' ε α β : Type}

/-! ## Relators

  The forms of programs, and what follows for the derived ones: conditionals, matches on an
  error. -/

/-- A value the action can return. -/
def Gives (m : Act σ ε α) (a : α) : Prop := ∃ s t, m.run s = (.ok a, t)

/-- What follows keeps `I` on the values there can be. -/
theorem Keeps.bind_gives {I : σ → Prop} {m : Act σ ε α} {f : α → Act σ ε β} (hm : Keeps I m)
    (hf : ∀ a, m.Gives a → Keeps I (f a)) : Keeps I (m >>= f) := by
  intro s hs
  have hkept := hm s hs
  rw [run_bind]
  rcases hp : m.run s with ⟨r, t⟩
  rw [hp] at hkept
  cases r with
  | ok a => exact hf a ⟨s, t, hp⟩ t hkept
  | err e => exact hkept
  | panic => exact hkept
  | outOfFuel => exact hkept

/-- **A relation that every form of program keeps.**  `View` is what is known of two states that are
    looked at together. -/
structure Relator (View : σ → σ' → Prop) (P : ∀ α : Type, Act σ ε α → Act σ' ε α → Prop) : Prop where
  pure : ∀ {α : Type} (a : α), P α (Pure.pure a) (Pure.pure a)
  throw : ∀ {α : Type} (e : ε), P α (Act.throw e) (Act.throw e)
  panic : ∀ {α : Type}, P α Act.panic Act.panic
  outOfFuel : ∀ {α : Type}, P α Act.outOfFuel Act.outOfFuel
  bind : ∀ {α β : Type} {m : Act σ ε α} {m' : Act σ' ε α} {f : α → Act σ ε β}
    {f' : α → Act σ' ε β}, P α m m' → (∀ a, m.Gives a → P β (f a) (f' a)) →
    P β (m >>= f) (m' >>= f')
  get_bind : ∀ {β : Type} {f : σ → Act σ ε β} {f' : σ' → Act σ' ε β},
    (∀ s s', View s s' → P β (f s) (f' s')) → P β (get >>= f) (get >>= f')

namespace Relator

variable {View : σ → σ' → Prop} {P : ∀ α : Type, Act σ ε α → Act σ' ε α → Prop}

/-- A computation that does not touch the state. -/
theorem lift {ε₁ : Type} (h : Relator View P) (g : ε₁ → ε) (x : Res ε₁ α) :
    P α (Act.lift g x) (Act.lift g x) := by
  cases x with
  | ok a => exact h.pure a
  | err e => exact h.throw (g e)
  | panic => exact h.panic
  | outOfFuel => exact h.outOfFuel

/-- One condition decides on both sides. -/
theorem ite {c : Prop} [Decidable c] {m n : Act σ ε α} {m' n' : Act σ' ε α}
    (_ : Relator View P) (hm : c → P α m m') (hn : ¬ c → P α n n') :
    P α (if c then m else n) (if c then m' else n') := by
  by_cases h : c
  · rw [if_pos h, if_pos h]
    exact hm h
  · rw [if_neg h, if_neg h]
    exact hn h

/-- A computation that gives the same value on both sides. -/
theorem lift_bind {ε₁ : Type} {g : ε₁ → ε} {x x' : Res ε₁ α} {f : α → Act σ ε β}
    {f' : α → Act σ' ε β} (h : Relator View P) {a : α} (hx : x = .ok a) (hx' : x' = .ok a)
    (hf : P β (f a) (f' a)) : P β (Act.lift g x >>= f) (Act.lift g x' >>= f') := by
  subst hx hx'
  refine h.bind (h.pure a) fun b hb => ?_
  obtain ⟨s, t, hrun⟩ := hb
  obtain rfl : a = b := Res.ok.inj (congrArg Prod.fst hrun)
  exact hf

end Relator

/-- What a computation under `?` gives is its value. -/
theorem gives_lift {ε₁ : Type} {g : ε₁ → ε} {x : Res ε₁ α} {a : α}
    (h : (lift g x : Act σ ε α).Gives a) : x = .ok a := by
  obtain ⟨s, t, h⟩ := h
  exact Res.mapErr_eq_ok.mp (congrArg Prod.fst h)

/-! ## Relations that count

  A grade on each program, added up by `>>=`; a conditional costs what its dearer branch costs. -/

/-- **A relation that the forms of programs keep, with a bound on the cost.** The costs add up along
    `>>=`, and only there, so a bound for a whole program is the sum of those of its steps.  `View`
    is what a look at the state may rely on. -/
structure Graded (View : σ → σ' → Prop) (P : Nat → ∀ α : Type, Act σ ε α → Act σ' ε α → Prop) :
    Prop where
  pure : ∀ {α : Type} (a : α), P 0 α (Pure.pure a) (Pure.pure a)
  throw : ∀ {α : Type} (e : ε), P 0 α (Act.throw e) (Act.throw e)
  bind : ∀ {α β : Type} {k n : Nat} {m : Act σ ε α} {m' : Act σ' ε α} {f : α → Act σ ε β}
    {f' : α → Act σ' ε β}, P k α m m' → (∀ a, m.Gives a → P n β (f a) (f' a)) →
    P (k + n) β (m >>= f) (m' >>= f')
  get_bind : ∀ {β : Type} {n : Nat} {f : σ → Act σ ε β} {f' : σ' → Act σ' ε β},
    (∀ s s', View s s' → P n β (f s) (f' s')) → P n β (get >>= f) (get >>= f')
  /-- A bound may be given away. -/
  mono : ∀ {α : Type} {k n : Nat} {m : Act σ ε α} {m' : Act σ' ε α}, P k α m m' → k ≤ n → P n α m m'

/-- A relator counts nothing. -/
theorem Relator.graded {View : σ → σ' → Prop} {P : ∀ α : Type, Act σ ε α → Act σ' ε α → Prop}
    (h : Relator View P) : Graded View (fun _ => P) where
  pure := h.pure
  throw := h.throw
  bind := h.bind
  get_bind := h.get_bind
  mono hm _ := hm

namespace Graded

variable {View : σ → σ' → Prop} {P : Nat → ∀ α : Type, Act σ ε α → Act σ' ε α → Prop} {k n : Nat}

/-- A step that costs nothing. -/
theorem bind_free {m : Act σ ε α} {m' : Act σ' ε α} {f : α → Act σ ε β} {f' : α → Act σ' ε β}
    (h : Graded View P) (hm : P 0 α m m') (hf : ∀ a, m.Gives a → P n β (f a) (f' a)) :
    P n β (m >>= f) (m' >>= f') :=
  h.mono (h.bind hm hf) (by omega)

/-- A step that pays for all that follows. -/
theorem bind_all {m : Act σ ε α} {m' : Act σ' ε α} {f : α → Act σ ε β} {f' : α → Act σ' ε β}
    (h : Graded View P) (hm : P n α m m') (hf : ∀ a, m.Gives a → P 0 β (f a) (f' a)) :
    P n β (m >>= f) (m' >>= f') :=
  h.bind hm hf

/-- A value fits any grade. -/
theorem pure_le (h : Graded View P) (a : α) : P n α (Pure.pure a) (Pure.pure a) :=
  h.mono (h.pure a) (Nat.zero_le n)

/-- So does an error. -/
theorem throw_le (h : Graded View P) (e : ε) : P n α (Act.throw e) (Act.throw e) :=
  h.mono (h.throw e) (Nat.zero_le n)

/-- A computation that returns costs nothing, and the rest may use what it gives. -/
theorem lift_bind {ε₁ : Type} {g : ε₁ → ε} {x : Res ε₁ α} {f : α → Act σ ε β} {f' : α → Act σ' ε β}
    (h : Graded View P) (hx : x.Returns) (hf : ∀ a, x = .ok a → P n β (f a) (f' a)) :
    P n β (Act.lift g x >>= f) (Act.lift g x >>= f') := by
  have hlift : P 0 α (Act.lift g x) (Act.lift g x) := by
    cases x with
    | ok a => exact h.pure a
    | err e => exact h.throw (g e)
    | panic => exact hx.elim
    | outOfFuel => exact hx.elim
  refine h.bind_free hlift fun a ha => hf a ?_
  obtain ⟨s, t, hrun⟩ := ha
  exact Res.mapErr_eq_ok.mp (congrArg Prod.fst hrun)

/-- Both branches within the grade. -/
theorem ite {c : Prop} [Decidable c] {m m₁ : Act σ ε α} {m' m₁' : Act σ' ε α} (_ : Graded View P)
    (hm : c → P n α m m') (hn : ¬ c → P n α m₁ m₁') :
    P n α (if c then m else m₁) (if c then m' else m₁') := by
  by_cases hc : c
  · rw [if_pos hc, if_pos hc]
    exact hm hc
  · rw [if_neg hc, if_neg hc]
    exact hn hc

end Graded

/-- What is safe is so step by step. -/
theorem graded_safe (I : σ → Prop) :
    Graded (ε := ε) (fun s s' => s = s' ∧ I s) (fun _ _ m _ => Safe I m) where
  pure _ := Safe.pure
  throw _ := Safe.throw
  bind := by
    intro α β _ _ m _ f _ hm hf s hs
    have h := hm s hs
    rw [run_bind]
    rcases hrun : m.run s with ⟨a | e | _ | _, t⟩ <;> rw [hrun] at h
    · exact hf a ⟨s, t, hrun⟩ t h
    all_goals exact h
  get_bind hf := Triple.get_bind fun s hs => hf s s ⟨rfl, hs⟩
  mono hm _ := hm

/-! ## What is returned

  Only values are followed: a program that fails yields nothing. -/

/-- Where the action succeeds, its value is a `Q`. -/
def Yields (Q : α → Prop) (m : Act σ ε α) : Prop := ∀ a, m.Gives a → Q a

section Yields

variable {Q : β → Prop}

/-- A value is what a computation yields. -/
theorem Yields.pure {b : β} (h : Q b) : Yields Q (Pure.pure b : Act σ ε β) := by
  rintro _ ⟨_, _, ⟨⟩⟩
  exact h

/-- An error yields nothing. -/
theorem Yields.throw (e : ε) : Yields Q (Act.throw e : Act σ ε β) := by
  rintro _ ⟨_, _, ⟨⟩⟩

/-- A sequence yields what its second part does. -/
theorem Yields.bind {m : Act σ ε α} {f : α → Act σ ε β} (hf : ∀ a, Yields Q (f a)) :
    Yields Q (m >>= f) := by
  rintro b ⟨s, t, hrun⟩
  obtain ⟨a, s', -, hok⟩ := run_bind_eq_ok.mp hrun
  exact hf a b ⟨s', t, hok⟩

/-- Either branch. -/
theorem Yields.ite {c : Prop} [Decidable c] {m m' : Act σ ε β} (h : Yields Q m) (h' : Yields Q m') :
    Yields Q (if c then m else m') := by
  split
  · exact h
  · exact h'

/-- A weaker postcondition. -/
theorem Yields.mono {R : β → Prop} {m : Act σ ε β} (h : Yields Q m) (hQ : ∀ b, Q b → R b) :
    Yields R m := fun b hb => hQ b (h b hb)

end Yields

/-! ## Two programs alike

  The strictest relator: equal endings, related states. -/

/-- **`Alike` is a relator**, for any relation of the states. -/
theorem relator_alike (R : σ → σ' → Prop) : Relator (ε := ε) R (fun _ => Alike R) where
  pure := Alike.pure
  throw := Alike.throw
  panic := Alike.panic
  outOfFuel := fun _ _ h => ⟨rfl, h⟩
  bind hm hf := fun s s' hs => alike_bind_at (hm s s' hs) fun a t t' hrun ht =>
    hf a ⟨s, t, hrun⟩ t t' ht
  get_bind := Alike.get_bind

/-! ## One program

  A property of states, as a relator of a program with itself. -/

/-- What every step keeps, the program keeps.  The second program is not looked at. -/
theorem relator_keeps (I : σ → Prop) :
    Relator (ε := ε) (Eq (α := σ)) (fun _ m _ => Keeps I m) where
  pure a := Keeps.pure a
  throw e := Keeps.throw e
  panic := Keeps.panic
  outOfFuel := fun _ h => h
  bind := Keeps.bind_gives
  get_bind hf := .get_bind fun s => hf s s rfl

/-! ## The second program follows the first

  Nothing is asked of the second program once the first one has given up. -/

/-- From related states the second action ends as the first one does, in a related state; or the
    first one fails with an error that `gives` names. -/
def Follows (R : σ → σ' → Prop) (gives : ε → Prop) (α : Type) (m : Act σ ε α) (m' : Act σ' ε α) :
    Prop :=
  ∀ s s', R s s' → (∃ e, gives e ∧ (m.run s).1 = .err e) ∨
    ((m.run s).1 = (m'.run s').1 ∧ R (m.run s).2 (m'.run s').2)

section Follows

variable {R : σ → σ' → Prop} {gives : ε → Prop}

/-- **`Follows` is one**, for any set of errors that may end the run that follows. -/
theorem relator_follows (R : σ → σ' → Prop) (gives : ε → Prop) : Relator R (Follows R gives) where
  pure _ := fun _ _ h => Or.inr ⟨rfl, h⟩
  throw _ := fun _ _ h => Or.inr ⟨rfl, h⟩
  panic := fun _ _ h => Or.inr ⟨rfl, h⟩
  outOfFuel := fun _ _ h => Or.inr ⟨rfl, h⟩
  bind := by
    intro α β m m' f f' hm hf s s' h
    rw [run_bind, run_bind]
    rcases hm s s' h with ⟨e, he, hrun⟩ | ⟨hres, hrel⟩
    · left
      refine ⟨e, he, ?_⟩
      rcases hp : m.run s with ⟨r, t⟩
      rw [hp] at hrun
      rw [show r = .err e from hrun]
    · rcases hp : m.run s with ⟨r, t⟩
      rcases hp' : m'.run s' with ⟨r', t'⟩
      rw [hp, hp'] at hres hrel
      obtain rfl : r = r' := hres
      cases r with
      | ok a => exact hf a ⟨s, t, hp⟩ t t' hrel
      | err e => exact Or.inr ⟨rfl, hrel⟩
      | panic => exact Or.inr ⟨rfl, hrel⟩
      | outOfFuel => exact Or.inr ⟨rfl, hrel⟩
  get_bind hf := fun s s' h => hf s s' h s s' h

/-- Two actions that end alike do so wherever the first one may give up. -/
theorem Follows.of_alike {m : Act σ ε α} {m' : Act σ' ε α} (h : Alike R m m') :
    Follows R gives α m m' := fun s s' hs => Or.inr (h s s' hs)

/-- A method on a field of the state. -/
theorem Follows.zoom {τ τ' ε₁ : Type} {R₁ : τ → τ' → Prop} {gives₁ : ε₁ → Prop}
    {m : Act τ ε₁ α} {m' : Act τ' ε₁ α} (hm : Follows R₁ gives₁ α m m') {view : σ → τ}
    {view' : σ' → τ'} {update : τ → σ → σ} {update' : τ' → σ' → σ'} {g : ε₁ → ε}
    (hview : ∀ s s', R s s' → R₁ (view s) (view' s'))
    (hupdate : ∀ s s', R s s' → R₁ (m.run (view s)).2 (m'.run (view' s')).2 →
      R (update (m.run (view s)).2 s) (update' (m'.run (view' s')).2 s'))
    (hgives : ∀ e, gives₁ e → gives (g e)) :
    Follows R gives α (Act.zoom view update g m) (Act.zoom view' update' g m') := by
  intro s s' hs
  rw [run_zoom, run_zoom]
  rcases hm _ _ (hview s s' hs) with ⟨e, he, hrun⟩ | ⟨hres, hrel⟩
  · exact Or.inl ⟨g e, hgives e he, by rw [hrun]; rfl⟩
  · exact Or.inr ⟨by rw [hres], hupdate s s' hs hrel⟩

end Follows

/-! ## The second program follows until the first one is lost

  Here the first program goes on; but what it does when it is lost is its own business. -/

/-- The first action stays lost, if it is.  From related states the second one ends as it does, in a
    related state; or the first one is lost by then. -/
def Tracks (R : σ → σ' → Prop) (Lost : σ → Prop) (α : Type) (m : Act σ ε α) (m' : Act σ' ε α) :
    Prop :=
  Keeps Lost m ∧ ∀ s s', R s s' →
    Lost (m.run s).2 ∨ ((m.run s).1 = (m'.run s').1 ∧ R (m.run s).2 (m'.run s').2)

section Tracks

variable {R View : σ → σ' → Prop} {Lost : σ → Prop}

/-- Every state of the first program must be a view of some state of the second: a lost program goes
    on, and the walk goes on with it. -/
theorem relator_tracks (hview : ∀ s s', R s s' → View s s') (htotal : ∀ s, ∃ s', View s s') :
    Relator (ε := ε) View (Tracks R Lost) where
  pure a := ⟨Keeps.pure a, fun _ _ h => Or.inr ⟨rfl, h⟩⟩
  throw e := ⟨Keeps.throw e, fun _ _ h => Or.inr ⟨rfl, h⟩⟩
  panic := ⟨Keeps.panic, fun _ _ h => Or.inr ⟨rfl, h⟩⟩
  outOfFuel := ⟨fun _ h => h, fun _ _ h => Or.inr ⟨rfl, h⟩⟩
  bind := by
    intro α β m m' f f' hm hf
    constructor
    · exact hm.1.bind_gives fun a ha => (hf a ha).1
    · intro s s' h
      rw [run_bind, run_bind]
      have hrun := hm.2 s s' h
      rcases hp : m.run s with ⟨r, t⟩
      rcases hp' : m'.run s' with ⟨r', t'⟩
      rw [hp, hp'] at hrun
      -- the first program is lost already, or both are at the same value
      rcases hrun with hlost | ⟨hres, hrel⟩
      · left
        cases r with
        | ok a => exact (hf a ⟨s, t, hp⟩).1 t hlost
        | err e => exact hlost
        | panic => exact hlost
        | outOfFuel => exact hlost
      · obtain rfl : r = r' := hres
        cases r with
        | ok a => exact (hf a ⟨s, t, hp⟩).2 t t' hrel
        | err e => exact Or.inr ⟨rfl, hrel⟩
        | panic => exact Or.inr ⟨rfl, hrel⟩
        | outOfFuel => exact Or.inr ⟨rfl, hrel⟩
  get_bind := by
    intro β f f' hf
    constructor
    · intro s hs
      obtain ⟨s', hv⟩ := htotal s
      exact (hf s s' hv).1 s hs
    · exact fun s s' h => (hf s s' (hview s s' h)).2 s s' h

/-- What keeps a loss, and is alike without one, tracks. -/
theorem Tracks.of_alike {m : Act σ ε α} {m' : Act σ' ε α} (hkeeps : Keeps Lost m)
    (h : Alike R m m') : Tracks R Lost α m m' := ⟨hkeeps, fun s s' hs => Or.inr (h s s' hs)⟩

/-- An error is a value here. -/
theorem Tracks.attempt {ε' : Type} {m : Act σ ε α} {m' : Act σ' ε α} (h : Tracks R Lost α m m') :
    Tracks R Lost (Except ε α) (Act.attempt m : Act σ ε' (Except ε α)) (Act.attempt m') := by
  have hstate : ∀ {τ : Type} (n : Act τ ε α) (t : τ),
      ((Act.attempt n : Act τ ε' (Except ε α)).run t).2 = (n.run t).2 := by
    intro τ n t
    simp only [Act.attempt]
    rcases n.run t with ⟨_ | _ | _ | _, t'⟩ <;> rfl
  constructor
  · exact Keeps.attempt h.1
  · intro s s' hs
    rw [hstate, hstate]
    rcases h.2 s s' hs with hlost | ⟨hres, hrel⟩
    · exact Or.inl hlost
    refine Or.inr ⟨?_, hrel⟩
    simp only [Act.attempt]
    generalize m.run s = p at hres ⊢
    generalize m'.run s' = p' at hres ⊢
    obtain ⟨r, t⟩ := p
    obtain ⟨r', t'⟩ := p'
    obtain rfl : r = r' := hres
    cases r <;> rfl

end Tracks

/-- Where both programs end alike, they do so under `attempt`, too. -/
theorem Alike.attempt {ε' : Type} {R : σ → σ' → Prop} {m : Act σ ε α} {m' : Act σ' ε α}
    (h : Alike R m m') : Alike R (Act.attempt m : Act σ ε' (Except ε α)) (Act.attempt m') := by
  intro s s' hs
  obtain ⟨hres, hrel⟩ := h s s' hs
  simp only [Act.attempt]
  generalize m.run s = p at hres hrel ⊢
  generalize m'.run s' = p' at hres hrel ⊢
  obtain ⟨r, t⟩ := p
  obtain ⟨r', t'⟩ := p'
  obtain rfl : r = r' := hres
  cases r <;> exact ⟨rfl, hrel⟩

end Act
