/-
  Fallible stateful code, as Lean functions.

  A method `fn m(&mut self, ..) -> Result<A, E>` of an imperative language is read as a function
  `σ → Res ε α × σ`, wrapped as an `Act σ ε α`: it gets the state, and gives back how it ended
  together with the state it leaves behind.  The state is there whatever the ending is, because an
  early `return Err(..)` does not undo the assignments made before it.

  * `Res ε α` — the four endings: a value, an error, a panic, and "the fuel of a loop ran out".
    The last one is no behaviour of the code: a loop that need not terminate is a recursion on a
    fuel argument, and a statement about such code says how much fuel is enough.
  * `Act σ ε α` — the actions, a monad, so that code is written in `do` notation and reads like
    its source.
  * `Act.zoom` — run an action on a field of a larger state, translating its errors.

  The rules used by the proofs are the `run_bind` lemmas: one for each ending of the first action.
-/
import Mathlib.Init

/-! ## Endings

  Four of them, and how they compose: after anything but a value nothing follows. -/

/-- How a piece of code ends. -/
inductive Res (ε α : Type) where
  /-- It returned a value. -/
  | ok (value : α)
  /-- It returned an error. -/
  | err (error : ε)
  /-- It panicked: an index out of bounds, a failed `unwrap`, an arithmetic overflow. -/
  | panic
  /-- A loop was cut off by the fuel of the model. -/
  | outOfFuel
deriving DecidableEq, Repr

namespace Res

variable {ε ε' α β : Type}

/-- Sequencing: anything but a value ends the whole computation. -/
def bind (x : Res ε α) (f : α → Res ε β) : Res ε β :=
  match x with
  | ok a => f a
  | err e => err e
  | panic => panic
  | outOfFuel => outOfFuel

/-- `Res` sequences as `?` does: the first ending other than `ok` is the ending of the whole. -/
instance : Monad (Res ε) where
  pure := ok
  bind := bind

/-- A value is an `ok`. -/
@[simp] theorem pure_eq (a : α) : (pure a : Res ε α) = ok a := rfl
/-- What follows an `ok` gets its value. -/
@[simp] theorem ok_bind (a : α) (f : α → Res ε β) : (ok a >>= f) = f a := rfl
/-- Nothing follows an error. -/
@[simp] theorem err_bind (e : ε) (f : α → Res ε β) : (err e >>= f) = err e := rfl
/-- Nothing follows a panic. -/
@[simp] theorem panic_bind (f : α → Res ε β) : ((panic : Res ε α) >>= f) = panic := rfl

/-- Translate the error. -/
def mapErr (g : ε → ε') : Res ε α → Res ε' α
  | ok a => ok a
  | err e => err (g e)
  | panic => panic
  | outOfFuel => outOfFuel

/-- `map_err` leaves a value alone. -/
@[simp] theorem mapErr_ok (g : ε → ε') (a : α) : (ok a : Res ε α).mapErr g = ok a := rfl
/-- `map_err` translates an error. -/
@[simp] theorem mapErr_err (g : ε → ε') (e : ε) : (err e : Res ε α).mapErr g = err (g e) := rfl
/-- `map_err` makes no error of a panic. -/
@[simp] theorem mapErr_panic (g : ε → ε') : (panic : Res ε α).mapErr g = panic := rfl

/-- So whoever gets a value through `map_err` got it before. -/
theorem mapErr_eq_ok {g : ε → ε'} {x : Res ε α} {a : α} : x.mapErr g = ok a ↔ x = ok a := by
  cases x <;> simp [mapErr]

/-- The inversion of a successful sequence. -/
theorem bind_eq_ok {x : Res ε α} {f : α → Res ε β} {b : β} :
    (x >>= f) = ok b ↔ ∃ a, x = ok a ∧ f a = ok b := by
  cases x <;> simp [Bind.bind, bind]

/-- Where the error of a sequence comes from. -/
theorem bind_eq_err {x : Res ε α} {f : α → Res ε β} {e : ε} (h : (x >>= f) = err e) :
    x = err e ∨ ∃ a, x = ok a ∧ f a = err e := by
  cases x with
  | ok a => exact Or.inr ⟨a, rfl, h⟩
  | err e' => exact Or.inl (by cases h; rfl)
  | panic => cases h
  | outOfFuel => cases h

/-- Did the code return a value? -/
def isOk : Res ε α → Bool
  | ok _ => true
  | _ => false

/-- The code came back to its caller, with a value or with an error. -/
def Returns : Res ε α → Prop
  | ok _ => True
  | err _ => True
  | panic => False
  | outOfFuel => False

/-- A value is returned. -/
@[simp] theorem returns_ok (a : α) : (ok a : Res ε α).Returns := trivial
/-- So is an error. -/
@[simp] theorem returns_err (e : ε) : (err e : Res ε α).Returns := trivial

/-- What returns is a value or an error: the two other endings are out. -/
theorem Returns.cases {x : Res ε α} (hx : x.Returns) : (∃ a, x = ok a) ∨ ∃ e, x = err e := by
  cases x with
  | ok a => exact Or.inl ⟨a, rfl⟩
  | err e => exact Or.inr ⟨e, rfl⟩
  | panic => exact hx.elim
  | outOfFuel => exact hx.elim

/-- A sequence returns where its parts do; the second part is only asked about the values that the
    first one can give. -/
theorem Returns.bind {x : Res ε α} {f : α → Res ε β} (hx : x.Returns)
    (hf : ∀ a, x = ok a → (f a).Returns) : (x >>= f).Returns := by
  cases x with
  | ok a => exact hf a rfl
  | err e => trivial
  | panic => exact hx.elim
  | outOfFuel => exact hx.elim

/-- `map_err` does not keep a call from returning. -/
theorem Returns.mapErr {g : ε → ε'} {x : Res ε α} (hx : x.Returns) : (x.mapErr g).Returns := by
  cases x <;> exact hx

/-! ## The partial operations of the language

  Indexing and slicing as the language has them, which panic, and their total variants. -/

/-- `o.unwrap()`. -/
def unwrap : Option α → Res ε α
  | some a => ok a
  | none => panic

/-- `o.ok_or(e)`. -/
def okOr (e : ε) : Option α → Res ε α
  | some a => ok a
  | none => err e

/-- `l[i]`. -/
def index (l : List α) (i : Nat) : Res ε α := unwrap l[i]?

/-- `&l[i..j]`. -/
def slice (l : List α) (i j : Nat) : Res ε (List α) :=
  if i ≤ j ∧ j ≤ l.length then ok ((l.take j).drop i) else panic

/-- `m - n` on unsigned integers. -/
def sub (m n : Nat) : Res ε Nat := if n ≤ m then ok (m - n) else panic

/-- `unwrap` on a `Some` does not panic. -/
@[simp] theorem unwrap_some (a : α) : (unwrap (some a) : Res ε α) = ok a := rfl
/-- `ok_or` on a `Some` is its value. -/
@[simp] theorem okOr_some (e : ε) (a : α) : okOr e (some a) = ok a := rfl
/-- `ok_or` on a `None` is the error given. -/
@[simp] theorem okOr_none (e : ε) : (okOr e none : Res ε α) = err e := rfl

/-- An index within the list is read, without a panic. -/
theorem index_of_lt {l : List α} {i : Nat} (h : i < l.length) :
    (index l i : Res ε α) = ok l[i] := by
  simp [index, h]

/-- The first entry of a list that has one. -/
@[simp] theorem index_zero_cons (a : α) (l : List α) : (index (a :: l) 0 : Res ε α) = ok a := rfl

/-- The second entry of a list that has two. -/
@[simp] theorem index_one_cons (a b : α) (l : List α) :
    (index (a :: b :: l) 1 : Res ε α) = ok b := rfl

/-- So indexing within the bounds returns. -/
theorem returns_index {l : List α} {i : Nat} (h : i < l.length) :
    (index l i : Res ε α).Returns := by
  rw [index_of_lt h]; trivial

/-- `ok_or` returns, with a value or with the error given. -/
theorem returns_okOr (e : ε) (o : Option α) : (okOr e o).Returns := by
  cases o <;> trivial

/-- A subtraction that does not go below zero is the one of the natural numbers. -/
theorem sub_of_le {m n : Nat} (h : n ≤ m) : (sub m n : Res ε Nat) = ok (m - n) := by
  simp [sub, h]

/-- A range within the bounds is cut out, without a panic. -/
theorem slice_of_le {l : List α} {i j : Nat} (h : i ≤ j) (h' : j ≤ l.length) :
    (slice l i j : Res ε (List α)) = ok ((l.take j).drop i) := by
  simp [slice, h, h']

end Res

/-! ## Actions

  A monad over a state that survives every ending. -/

/-- An action on a state `σ` that gives an `α` or fails with an `ε`. -/
structure Act (σ ε α : Type) where
  run : σ → Res ε α × σ

namespace Act

variable {σ τ ε ε' α β : Type}

/-- Sequencing: anything but a value ends the whole action, and the state stays as it is then. -/
def bind (m : Act σ ε α) (f : α → Act σ ε β) : Act σ ε β where
  run s := match m.run s with
    | (.ok a, s') => (f a).run s'
    | (.err e, s') => (.err e, s')
    | (.panic, s') => (.panic, s')
    | (.outOfFuel, s') => (.outOfFuel, s')

/-- `Act` threads the state through, and keeps the state reached where a step fails: Rust's `?`
    returns early from a method that has changed `self` already. -/
instance : Monad (Act σ ε) where
  pure a := ⟨fun s => (.ok a, s)⟩
  bind := bind

/-- The state itself. -/
def get : Act σ ε σ := ⟨fun s => (.ok s, s)⟩

/-- An assignment. -/
def modify (f : σ → σ) : Act σ ε Unit := ⟨fun s => (.ok (), f s)⟩

/-- `return Err(e)`. -/
def throw (e : ε) : Act σ ε α := ⟨fun s => (.err e, s)⟩

/-- An arm the source marks as unreachable. -/
def panic : Act σ ε α := ⟨fun s => (.panic, s)⟩

/-- A loop without fuel left. -/
def outOfFuel : Act σ ε α := ⟨fun s => (.outOfFuel, s)⟩

/-- A computation that does not touch the state, under `?`. -/
def lift (g : ε → ε') (x : Res ε α) : Act σ ε' α := ⟨fun s => (x.mapErr g, s)⟩

/-- A call on a field of the state, under `?`. -/
def zoom (view : σ → τ) (update : τ → σ → σ) (g : ε → ε') (m : Act τ ε α) : Act σ ε' α :=
  ⟨fun s => ((m.run (view s)).1.mapErr g, update (m.run (view s)).2 s)⟩

/-- `match m { Ok(a) => .., Err(e) => .. }`: go on after an error, in the state it left. -/
def attempt (m : Act σ ε α) : Act σ ε' (Except ε α) where
  run s := match m.run s with
    | (.ok a, s') => (.ok (.ok a), s')
    | (.err e, s') => (.ok (.error e), s')
    | (.panic, s') => (.panic, s')
    | (.outOfFuel, s') => (.outOfFuel, s')

/-! ## Rules: `bind` for each ending of the first action

  A program is computed from the left, one action at a time. -/

/-- **The run of a sequence**, by the ending of its first part. -/
theorem run_bind (m : Act σ ε α) (f : α → Act σ ε β) (s : σ) :
    (m >>= f).run s = match m.run s with
      | (.ok a, s') => (f a).run s'
      | (.err e, s') => (.err e, s')
      | (.panic, s') => (.panic, s')
      | (.outOfFuel, s') => (.outOfFuel, s') := rfl

/-- After a first part that gives a value, the second one goes on from the state reached. -/
theorem run_bind_ok {m : Act σ ε α} {s s' : σ} {a : α} (h : m.run s = (.ok a, s'))
    (f : α → Act σ ε β) : (m >>= f).run s = (f a).run s' := by
  rw [run_bind, h]

/-- After one that fails there is nothing more to run. -/
theorem run_bind_err {m : Act σ ε α} {s s' : σ} {e : ε} (h : m.run s = (.err e, s'))
    (f : α → Act σ ε β) : (m >>= f).run s = (.err e, s') := by
  rw [run_bind, h]

/-- Sequences can be regrouped. -/
theorem run_bind_assoc {γ : Type} (m : Act σ ε α) (f : α → Act σ ε β) (g : β → Act σ ε γ) (s : σ) :
    ((m >>= f) >>= g).run s = (m >>= fun a => f a >>= g).run s := by
  simp only [run_bind]
  rcases m.run s with ⟨_ | _ | _ | _, s'⟩ <;> rfl

/-- Sequences may be regrouped. -/
theorem bind_assoc {γ : Type} (m : Act σ ε α) (f : α → Act σ ε β) (g : β → Act σ ε γ) :
    (m >>= f) >>= g = m >>= fun a => f a >>= g :=
  congrArg mk (funext fun s => run_bind_assoc m f g s)

/-- The inversion of a successful sequence. -/
theorem run_bind_eq_ok {m : Act σ ε α} {f : α → Act σ ε β} {s s'' : σ} {b : β} :
    (m >>= f).run s = (.ok b, s'') ↔
      ∃ a s', m.run s = (.ok a, s') ∧ (f a).run s' = (.ok b, s'') := by
  rw [run_bind]
  rcases m.run s with ⟨_ | _ | _ | _, s'⟩ <;> simp only [Prod.mk.injEq]
  · constructor
    · intro h; exact ⟨_, _, ⟨rfl, rfl⟩, h⟩
    · rintro ⟨_, _, ⟨⟨rfl⟩, rfl⟩, h⟩; exact h
  all_goals simp

/-- A value changes nothing. -/
@[simp] theorem run_pure (a : α) (s : σ) : (pure a : Act σ ε α).run s = (.ok a, s) := rfl
/-- `get` gives the state. -/
@[simp] theorem run_get (s : σ) : (get : Act σ ε σ).run s = (.ok s, s) := rfl
/-- `modify` changes it. -/
@[simp] theorem run_modify (f : σ → σ) (s : σ) :
    (modify f : Act σ ε Unit).run s = (.ok (), f s) := rfl

/-- `throw` fails, and leaves the state as it is. -/
@[simp] theorem run_throw (e : ε) (s : σ) : (throw e : Act σ ε α).run s = (.err e, s) := rfl
/-- A panic leaves the state as it is. -/
@[simp] theorem run_panic (s : σ) : (panic : Act σ ε α).run s = (.panic, s) := rfl
/-- So does a loop that has no fuel left. -/
@[simp] theorem run_outOfFuel (s : σ) : (outOfFuel : Act σ ε α).run s = (.outOfFuel, s) := rfl
/-- A pure computation leaves the state as it is, and its errors are translated. -/
@[simp] theorem run_lift (g : ε → ε') (x : Res ε α) (s : σ) :
    (lift g x : Act σ ε' α).run s = (x.mapErr g, s) := rfl

/-- A computation on a part of the state: the rest stays, and the errors are translated. -/
@[simp] theorem run_zoom (view : σ → τ) (update : τ → σ → σ) (g : ε → ε') (m : Act τ ε α)
    (s : σ) : (zoom view update g m).run s =
      ((m.run (view s)).1.mapErr g, update (m.run (view s)).2 s) := rfl

/-- An attempt that succeeds gives the value. -/
theorem run_attempt_ok {m : Act σ ε α} {s s' : σ} {a : α} (h : m.run s = (.ok a, s')) :
    (attempt m : Act σ ε' (Except ε α)).run s = (.ok (.ok a), s') := by
  simp only [attempt, h]

/-- An attempt that fails gives the error, as a value. -/
theorem run_attempt_err {m : Act σ ε α} {s s' : σ} {e : ε} (h : m.run s = (.err e, s')) :
    (attempt m : Act σ ε' (Except ε α)).run s = (.ok (.error e), s') := by
  simp only [attempt, h]

/-- What follows `get` sees the state. -/
@[simp] theorem run_get_bind (f : σ → Act σ ε β) (s : σ) :
    ((get : Act σ ε σ) >>= f).run s = (f s).run s := rfl

/-- What follows a value gets it. -/
@[simp] theorem run_pure_bind (a : α) (f : α → Act σ ε β) (s : σ) :
    ((pure a : Act σ ε α) >>= f).run s = (f a).run s := rfl

/-- What follows `modify` starts from the state it made. -/
@[simp] theorem run_modify_bind (g : σ → σ) (f : Unit → Act σ ε β) (s : σ) :
    ((modify g : Act σ ε Unit) >>= f).run s = (f ()).run (g s) := rfl

/-- Nothing follows `throw`. -/
@[simp] theorem run_throw_bind (e : ε) (f : α → Act σ ε β) (s : σ) :
    ((throw e : Act σ ε α) >>= f).run s = (.err e, s) := rfl

/-- A branch is run where its condition holds. -/
theorem run_ite (c : Prop) [Decidable c] (m m' : Act σ ε α) (s : σ) :
    (if c then m else m').run s = if c then m.run s else m'.run s := by
  split <;> rfl

/-! ## A property of every ending

  Where the values do not matter: how an action ends. -/

/-- A property of the state that the first action establishes and every continuation keeps
    holds at the end, however the sequence ends. -/
theorem run_bind_state {m : Act σ ε α} {f : α → Act σ ε β} {s : σ} {P : σ → Prop}
    (hm : P (m.run s).2) (hf : ∀ a s', P s' → P ((f a).run s').2) : P ((m >>= f).run s).2 := by
  rw [run_bind]
  rcases h : m.run s with ⟨_ | _ | _ | _, s'⟩ <;> rw [h] at hm <;> simp only
  · exact hf _ _ hm
  all_goals exact hm

/-! ## Two runs

  `Alike R m m'`: from states related by `R` both actions end in the same way, and in related states.
  Two runs of one program go through it together, one rule for each form of the program. -/

section TwoRuns

variable {σ' : Type} {R : σ → σ' → Prop}

/-- From related states the same result, and related states. -/
def Alike (R : σ → σ' → Prop) (m : Act σ ε α) (m' : Act σ' ε α) : Prop :=
  ∀ s s', R s s' → (m.run s).1 = (m'.run s').1 ∧ R (m.run s).2 (m'.run s').2

/-- The same value on both sides. -/
theorem Alike.pure (a : α) : Alike R (pure a : Act σ ε α) (pure a) := fun _ _ h => ⟨rfl, h⟩

/-- The same error on both sides. -/
theorem Alike.throw (e : ε) : Alike R (throw e : Act σ ε α) (throw e) := fun _ _ h => ⟨rfl, h⟩

/-- A panic on both sides. -/
theorem Alike.panic : Alike R (panic : Act σ ε α) panic := fun _ _ h => ⟨rfl, h⟩

/-- The same pure computation on both sides. -/
theorem Alike.lift (g : ε → ε') (x : Res ε α) : Alike R (lift g x : Act σ ε' α) (lift g x) :=
  fun _ _ h => ⟨rfl, h⟩

/-- Two updates that keep the relation. -/
theorem Alike.modify {f : σ → σ} {f' : σ' → σ'} (h : ∀ s s', R s s' → R (f s) (f' s')) :
    Alike R (modify f : Act σ ε Unit) (modify f') := fun s s' hs => ⟨rfl, h s s' hs⟩

/-- Two runs of a sequence, from one pair of states. -/
theorem alike_bind_at {m : Act σ ε α} {m' : Act σ' ε α} {f : α → Act σ ε β}
    {f' : α → Act σ' ε β} {s : σ} {s' : σ'}
    (hm : (m.run s).1 = (m'.run s').1 ∧ R (m.run s).2 (m'.run s').2)
    (hf : ∀ a t t', m.run s = (.ok a, t) → R t t' →
      ((f a).run t).1 = ((f' a).run t').1 ∧ R ((f a).run t).2 ((f' a).run t').2) :
    ((m >>= f).run s).1 = ((m' >>= f').run s').1 ∧
      R ((m >>= f).run s).2 ((m' >>= f').run s').2 := by
  obtain ⟨hres, hrel⟩ := hm
  rw [run_bind, run_bind]
  generalize hp : m.run s = p at hres hrel ⊢
  generalize m'.run s' = p' at hres hrel ⊢
  obtain ⟨r, t⟩ := p
  obtain ⟨r', t'⟩ := p'
  obtain rfl : r = r' := hres
  cases r with
  | ok a => exact hf a t t' hp hrel
  | err e => exact ⟨rfl, hrel⟩
  | panic => exact ⟨rfl, hrel⟩
  | outOfFuel => exact ⟨rfl, hrel⟩

/-- **Sequences of alike parts are alike.** The second parts are compared on one value, since the
    first ones give the same. -/
theorem Alike.bind {m : Act σ ε α} {m' : Act σ' ε α} {f : α → Act σ ε β} {f' : α → Act σ' ε β}
    (hm : Alike R m m') (hf : ∀ a, Alike R (f a) (f' a)) : Alike R (m >>= f) (m' >>= f') :=
  fun s s' hs => alike_bind_at (hm s s' hs) fun a t t' _ ht => hf a t t' ht

/-- What follows may look at the state. -/
theorem Alike.get_bind {f : σ → Act σ ε β} {f' : σ' → Act σ' ε β}
    (hf : ∀ s s', R s s' → Alike R (f s) (f' s')) : Alike R (get >>= f) (get >>= f') :=
  fun s s' hs => hf s s' hs s s' hs

/-- One condition, which decides on both sides. -/
theorem Alike.ite {c : Prop} [Decidable c] {m n : Act σ ε α} {m' n' : Act σ' ε α}
    (hm : Alike R m m') (hn : Alike R n n') :
    Alike R (if c then m else n) (if c then m' else n') := by
  split
  · exact hm
  · exact hn

end TwoRuns

end Act
