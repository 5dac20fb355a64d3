/-
  Runs of a deterministic machine that takes one input after another.

  A machine is a function `step : σ → ι → ω × σ`: what it gives out, and the state it is in next.

  * `after`  — the state a list of inputs leads to.
  * `trace`  — the run written down, one `Event` for each input: the state before, the input, the
               output, the state after.  What is said about runs is said about traces: how many
               events are of some kind, what holds of every event, what stands between two events.

  The induction over a run is packaged once, as `trace_induction`: an invariant may speak of the
  whole history so far, which is what budgets and "since the last .." need.
-/
import Mathlib.Data.List.Induction

namespace Run

variable {σ ι ω : Type}

/-- One step of a run: a run is written down as the list of these, so that a statement about it
    needs no access to the machine. -/
structure Event (σ ι ω : Type) where
  before : σ
  input : ι
  output : ω
  after : σ

/-- The event of one step. -/
def event (step : σ → ι → ω × σ) (s : σ) (i : ι) : Event σ ι ω :=
  ⟨s, i, (step s i).1, (step s i).2⟩

section Basics

variable (step : σ → ι → ω × σ)

/-- An event starts in the state given. -/
@[simp] theorem event_before (s : σ) (i : ι) : (event step s i).before = s := rfl
/-- It is about the input given. -/
@[simp] theorem event_input (s : σ) (i : ι) : (event step s i).input = i := rfl
/-- Its output is that of the step. -/
@[simp] theorem event_output (s : σ) (i : ι) : (event step s i).output = (step s i).1 := rfl
/-- It ends in the state the step leaves. -/
@[simp] theorem event_after (s : σ) (i : ι) : (event step s i).after = (step s i).2 := rfl

/-- The state after a list of inputs. -/
def after (s : σ) (is : List ι) : σ := is.foldl (fun s i => (step s i).2) s

/-- The run on a list of inputs. -/
def trace : σ → List ι → List (Event σ ι ω)
  | _, [] => []
  | s, i :: is => event step s i :: trace (step s i).2 is

/-- No input leaves the state as it is. -/
@[simp] theorem after_nil (s : σ) : after step s [] = s := rfl
/-- The first input is taken first. -/
@[simp] theorem after_cons (s : σ) (i : ι) (is : List ι) :
    after step s (i :: is) = after step (step s i).2 is := rfl

/-- No input, no event. -/
@[simp] theorem trace_nil (s : σ) : trace step s [] = [] := rfl
/-- A trace begins with the event of the first input, and goes on from the state after it. -/
@[simp] theorem trace_cons (s : σ) (i : ι) (is : List ι) :
    trace step s (i :: is) = event step s i :: trace step (step s i).2 is := rfl

/-- A run in two parts ends where the second part ends, from where the first one left off. -/
theorem after_append (s : σ) (is js : List ι) :
    after step s (is ++ js) = after step (after step s is) js := List.foldl_append

/-- So it is with the events of the two parts. -/
theorem trace_append (s : σ) (is js : List ι) :
    trace step s (is ++ js) = trace step s is ++ trace step (after step s is) js := by
  induction is generalizing s with
  | nil => rfl
  | cons i is ih => rw [List.cons_append, trace_cons, ih]; rfl

/-- The run grows at its end. -/
theorem trace_concat (s : σ) (is : List ι) (i : ι) :
    trace step s (is ++ [i]) = trace step s is ++ [event step (after step s is) i] :=
  trace_append step s is [i]

/-- A last input is taken in the state that the others lead to. -/
theorem after_concat (s : σ) (is : List ι) (i : ι) :
    after step s (is ++ [i]) = (step (after step s is) i).2 :=
  after_append step s is [i]

/-- As many events as inputs. -/
@[simp] theorem length_trace (s : σ) (is : List ι) : (trace step s is).length = is.length := by
  induction is generalizing s with
  | nil => rfl
  | cons i is ih => rw [trace_cons, List.length_cons, ih]; rfl

/-- **Two machines side by side.**  What relates their states and is kept by every step relates two
    runs on the same inputs, event by event. -/
theorem trace_side_by_side {σ' ω' : Type} {step' : σ' → ι → ω' × σ'} {R : σ → σ' → Prop}
    {W : ω → ω' → Prop} (hstep : ∀ s s' i, R s s' →
      W (step s i).1 (step' s' i).1 ∧ R (step s i).2 (step' s' i).2)
    {s : σ} {s' : σ'} (h : R s s') (is : List ι) :
    List.Forall₂ (fun e e' => W e.output e'.output ∧ R e.after e'.after)
      (trace step s is) (trace step' s' is) := by
  induction is generalizing s s' with
  | nil => exact .nil
  | cons i is ih =>
    have hnext := hstep s s' i h
    exact .cons hnext (ih hnext.2)

/-- **A machine that follows another one**, on inputs that `J` relates, until the other one stops at
    an event of the kind `stop`. -/
theorem trace_follows {σ' ι' ω' : Type} {step' : σ' → ι' → ω' × σ'} {R : σ → σ' → Prop}
    {J : ι → ι' → Prop} {W : ω → ω' → Prop} {stop : Event σ ι ω → Prop}
    (hstep : ∀ s s' i i', R s s' → J i i' → stop (event step s i) ∨
      (W (step s i).1 (step' s' i').1 ∧ R (step s i).2 (step' s' i').2))
    {s : σ} {s' : σ'} (h : R s s') {is : List ι} {is' : List ι'} (hin : List.Forall₂ J is is')
    (hgo : ∀ e ∈ trace step s is, ¬ stop e) :
    List.Forall₂ (fun e e' => W e.output e'.output ∧ R e.after e'.after)
      (trace step s is) (trace step' s' is') := by
  induction hin generalizing s s' with
  | nil => exact .nil
  | @cons i i' is is' hi _ ih =>
    rcases hstep s s' i i' h hi with hstop | hnext
    · exact absurd hstop (hgo _ (by simp))
    · exact .cons hnext (ih hnext.2 fun e he => hgo e (by simp [he]))

/-- The inputs of a run are what it was given. -/
@[simp] theorem map_input_trace (s : σ) (is : List ι) : (trace step s is).map Event.input = is := by
  induction is generalizing s with
  | nil => rfl
  | cons i is ih => rw [trace_cons, List.map_cons, ih]; rfl

end Basics

variable {step : σ → ι → ω × σ}

/-- **Induction over a run.**  What holds of the empty history, and is kept by one more event,
    holds at the end of every run; the step may use that its input is one of the run's. -/
theorem trace_induction {I : List (Event σ ι ω) → σ → Prop} {s : σ} {is : List ι} (h0 : I [] s)
    (hstep : ∀ l s i, i ∈ is → I l s → I (l ++ [event step s i]) (step s i).2) :
    I (trace step s is) (after step s is) := by
  induction is using List.reverseRecOn with
  | nil => exact h0
  | append_singleton is i ih =>
    rw [trace_concat, after_concat]
    refine hstep _ _ _ (by simp) (ih ?_)
    intro l s j hj
    exact hstep l s j (List.mem_append_left _ hj)

/-- **One input again and again.**  `G n` says that the input can be taken `n` times more. -/
theorem trace_replicate {G : Nat → σ → Prop} {p : Event σ ι ω → Prop} {i : ι}
    (hstep : ∀ n s, G (n + 1) s → G n (step s i).2 ∧ p (event step s i)) :
    ∀ n s, G n s → G 0 (after step s (List.replicate n i)) ∧
      ∀ e ∈ trace step s (List.replicate n i), p e := by
  intro n
  induction n with
  | zero => intro s hs; exact ⟨hs, by simp⟩
  | succ n ih =>
    intro s hs
    obtain ⟨hnext, he⟩ := hstep n s hs
    obtain ⟨hend, hrest⟩ := ih _ hnext
    refine ⟨hend, ?_⟩
    intro e hmem
    rcases List.mem_cons.mp hmem with rfl | hmem
    · exact he
    · exact hrest e hmem

/-- **A measure that goes down.**  An input of the kind `J` keeps `I`, and takes the measure down or
    to nothing: as many of them as the measure says, or more, take it to nothing. -/
theorem settles {I : σ → Prop} {J : ι → Prop} {μ : σ → Nat}
    (hstep : ∀ s i, I s → J i → I (step s i).2 ∧ (μ (step s i).2 < μ s ∨ μ (step s i).2 = 0))
    {s : σ} {is : List ι} (h : I s) (hin : ∀ i ∈ is, J i) (hlen : μ s ≤ is.length) :
    I (after step s is) ∧ μ (after step s is) = 0 := by
  induction is generalizing s with
  | nil => exact ⟨h, Nat.le_zero.mp hlen⟩
  | cons i is ih =>
    obtain ⟨hnext, hdown⟩ := hstep s i h (hin i (List.mem_cons_self ..))
    rw [List.length_cons] at hlen
    refine ih hnext (fun j hj => hin j (List.mem_cons_of_mem _ hj)) ?_
    show μ (step s i).2 ≤ is.length
    omega

/-- An event of a run is one of the machine's. -/
theorem event_eq_of_mem {s : σ} {is : List ι} {e : Event σ ι ω} (h : e ∈ trace step s is) :
    e.output = (step e.before e.input).1 ∧ e.after = (step e.before e.input).2 := by
  induction is generalizing s with
  | nil => cases h
  | cons i is ih =>
    rcases List.mem_cons.mp h with rfl | h
    · exact ⟨rfl, rfl⟩
    · exact ih h

/-- Where an event stands in a run: after a run on the inputs before it. -/
theorem trace_eq_append {s : σ} {is : List ι} {l r : List (Event σ ι ω)} {e : Event σ ι ω}
    (h : trace step s is = l ++ e :: r) :
    ∃ pre post, is = pre ++ e.input :: post ∧ l = trace step s pre ∧
      e = event step (after step s pre) e.input := by
  induction l generalizing s is with
  | nil =>
    cases is with
    | nil => cases h
    | cons i is =>
      obtain ⟨rfl, -⟩ := List.cons.inj h
      exact ⟨[], is, rfl, rfl, rfl⟩
  | cons a l ih =>
    cases is with
    | nil => cases h
    | cons i is =>
      rw [trace_cons, List.cons_append] at h
      obtain ⟨rfl, htail⟩ := List.cons.inj h
      obtain ⟨pre, post, rfl, rfl, he⟩ := ih htail
      exact ⟨i :: pre, post, rfl, rfl, he⟩

/-- What follows an event is a run of its own. -/
theorem trace_rest {s : σ} {is : List ι} {l r : List (Event σ ι ω)} {e : Event σ ι ω}
    (h : trace step s is = l ++ e :: r) : ∃ post, r = trace step e.after post := by
  induction l generalizing s is with
  | nil =>
    cases is with
    | nil => cases h
    | cons i is =>
      obtain ⟨rfl, rfl⟩ := List.cons.inj h
      exact ⟨is, rfl⟩
  | cons a l ih =>
    cases is with
    | nil => cases h
    | cons i is => exact ih (List.cons.inj h).2

/-- **Induction up to one event of a run**: the invariant is kept by the events that meet `c`, and
    all events before this one do. -/
theorem trace_before {I : List (Event σ ι ω) → σ → Prop} {c : Event σ ι ω → Prop} {s : σ}
    {is : List ι} {l r : List (Event σ ι ω)} {e : Event σ ι ω} (h0 : I [] s)
    (hstep : ∀ l s i, I l s → c (event step s i) → I (l ++ [event step s i]) (step s i).2)
    (h : trace step s is = l ++ e :: r) (hc : ∀ e ∈ l, c e) : I l e.before := by
  obtain ⟨pre, post, -, rfl, he⟩ := trace_eq_append h
  rw [he, event_before]
  have hI : (∀ e ∈ trace step s pre, c e) → I (trace step s pre) (after step s pre) := by
    refine trace_induction (I := fun l s => (∀ e ∈ l, c e) → I l s) (fun _ => h0) ?_
    intro l s i _ hl hall
    refine hstep l s i (hl fun e he => hall e (List.mem_append_left _ he)) ?_
    exact hall _ (by simp)
  exact hI hc

/-- A beginning of a run is a run on a beginning of the inputs. -/
theorem prefix_trace {s : σ} {is : List ι} {k : List (Event σ ι ω)} (h : k <+: trace step s is) :
    ∃ js, js <+: is ∧ k = trace step s js := by
  induction is generalizing s k with
  | nil => exact ⟨[], List.prefix_rfl, by simpa using h⟩
  | cons i is ih =>
    rcases List.prefix_cons_iff.mp h with rfl | ⟨k, rfl, hk⟩
    · exact ⟨[], List.nil_prefix, rfl⟩
    · obtain ⟨js, hjs, rfl⟩ := ih hk
      exact ⟨i :: js, (List.prefix_cons_inj i).mpr hjs, rfl⟩

/-! ## Stretches

  Between two events of a kind `p` stands a stretch free of them. -/

/-- Free of `p`. -/
def FreeOf {α : Type} (p : α → Prop) (s : List α) : Prop := ∀ e ∈ s, ¬ p e

/-- The empty stretch is free of anything. -/
theorem FreeOf.nil {α : Type} {p : α → Prop} : FreeOf p [] := by simp [FreeOf]

/-- The stretches that end at the end of a longer history. -/
theorem suffix_concat_freeOf {α : Type} {p : α → Prop} {l s : List α} {a : α}
    (h : s <:+ l ++ [a]) (hs : FreeOf p s) :
    s = [] ∨ ∃ t, s = t ++ [a] ∧ t <:+ l ∧ FreeOf p t ∧ ¬ p a := by
  rcases List.suffix_concat_iff.mp h with rfl | ⟨t, rfl, ht⟩
  · exact Or.inl rfl
  · refine Or.inr ⟨t, rfl, ht, fun e he => hs e (by simp [he]), hs a (by simp)⟩

/-- What holds of the stretches that end each run on a beginning of the inputs holds of all
    stretches. -/
theorem stretches {p : Event σ ι ω → Prop} {q : List (Event σ ι ω) → Prop} {s : σ} {is : List ι}
    (h : ∀ js, js <+: is → ∀ u, u <:+ trace step s js → FreeOf p u → q u) :
    ∀ u, u <:+: trace step s is → FreeOf p u → q u := by
  rintro u ⟨t, r, htrace⟩ hu
  obtain ⟨js, hjs, hk⟩ := prefix_trace (k := t ++ u) ⟨r, htrace⟩
  exact h js hjs u ⟨t, hk⟩ hu

/-- What came after the last element of a kind. -/
def sinceLast {α : Type} (p : α → Bool) (l : List α) : List α :=
  (l.reverse.takeWhile fun a => !p a).reverse

/-- No event, nothing since the last one. -/
@[simp] theorem sinceLast_nil {α : Type} (p : α → Bool) : sinceLast p [] = [] := rfl

/-- Another event either starts the stretch over, or comes to its end. -/
theorem sinceLast_concat {α : Type} (p : α → Bool) (l : List α) (a : α) :
    sinceLast p (l ++ [a]) = if p a then [] else sinceLast p l ++ [a] := by
  rw [sinceLast, List.reverse_concat, List.takeWhile_cons]
  cases p a with
  | true => rfl
  | false =>
    rw [Bool.not_false, if_pos rfl, if_neg Bool.false_ne_true, List.reverse_cons]
    rfl

end Run
