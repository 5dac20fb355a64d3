/-
  How the work limits are enforced (`limits.rs`, `protocol.rs`).

  A run starts with `begin_exchange` and takes any blocks but S(DESELECT), which starts the
  counting over.  What is to be shown has two directions: no more is granted than a limit says, and
  no exchange fails on a limit that has not been reached.  Both are about counters and what they
  have counted.

  * **The invariant of every run** (`General`): the frame counter counts the blocks, up to the end
    of its type, and the chain is within its limit.  `exchange_induction` is the induction over a
    run that hands it to every other invariant.
  * **The two totals**, frames and S(WTX) in all, never start over, so what was granted is what the
    counter says, short of the end of its type (`totals_run`).
  * **The two run budgets** start over on every step forward.  The bound is therefore on stretches:
    `Drawn` says that every stretch at the end of the history that is free of steps forward was
    granted at most `n`, and `drawn_run` keeps it, for either budget at once (`RunBudget`).
  * **The other direction** (`Covered`): the counter is covered by such a stretch, so no counter
    runs ahead of what was granted, and a failure on a limit is called for (`covered_run`).

  Two things can go wrong, and are the hypotheses here: a counter that saturates below its limit,
  and a chain buffer that overflows, which starts a run budget over although nothing was taken in
  (`NoDetour`).  `Iso14443.LimitsExact` shows that both do.
-/
import Iso14443.ProtocolRun

namespace Iso14443.ProtocolHandler

open Run

/-! ## What a stretch between two steps forward was granted

  A stretch is a suffix of the history without a step forward, so it ends now and may begin
  anywhere since the last one. -/

/-- Every stretch at the end of the history was granted at most `n`. -/
def Drawn (B : RunBudget) (l : List Event) (n : Nat) : Prop :=
  ∀ s, s <:+ l → FreeOf (fun e => Event.forward e = true) s → s.countP B.grants ≤ n

/-- What was granted at most `m` times was granted at most `n` times. -/
theorem Drawn.mono {B : RunBudget} {l : List Event} {m n : Nat} (h : Drawn B l m) (hmn : m ≤ n) :
    Drawn B l n := fun s hs hf => Nat.le_trans (h s hs hf) hmn

/-- A stretch with nothing in it was granted nothing. -/
theorem drawn_nil (B : RunBudget) (n : Nat) : Drawn B [] n := by
  intro s hs _
  rw [List.suffix_nil.mp hs]
  exact Nat.zero_le _

/-- After a step forward every stretch starts over. -/
theorem drawn_forward {B : RunBudget} {l : List Event} {e : Event} (he : e.forward = true)
    (n : Nat) : Drawn B (l ++ [e]) n := by
  intro s hs hf
  rcases suffix_concat_freeOf hs hf with rfl | ⟨t, rfl, -, -, hne⟩
  · exact Nat.zero_le _
  · exact absurd he hne

/-- One event more. -/
theorem Drawn.concat {B : RunBudget} {l : List Event} {m n : Nat} (h : Drawn B l m) {e : Event}
    (hyes : B.grants e = true → m + 1 ≤ n) (hno : B.grants e = false → m ≤ n) :
    Drawn B (l ++ [e]) n := by
  intro s hs hf
  rcases suffix_concat_freeOf hs hf with rfl | ⟨t, rfl, ht, htf, -⟩
  · exact Nat.zero_le _
  · have hcount := h t ht htf
    rw [List.countP_append, List.countP_singleton]
    cases hg : B.grants e with
    | true => have := hyes hg; simp only [if_true]; omega
    | false => have := hno hg; simp only [Bool.false_eq_true, if_false]; omega

/-- A stretch and the steps forward before it share no event. -/
theorem drawn_add_takesIn (B : RunBudget) (l : List Event) :
    Drawn B l (l.length - l.countP Event.takesIn) := by
  rintro s ⟨t, rfl⟩ hf
  have hs : s.countP Event.takesIn = 0 := by
    rw [List.countP_eq_zero]
    intro e he hti
    exact hf e he (by simp [Event.forward, hti])
  have h1 : t.countP Event.takesIn ≤ t.length := List.countP_le_length
  have h2 : s.countP B.grants ≤ s.length := List.countP_le_length
  rw [List.countP_append, hs, List.length_append]
  omega

/-- No failure on a limit so far. -/
def Clean (l : List Event) : Prop := ∀ e ∈ l, ∀ limit, Event.exceeds e limit = false

/-- A clean history is clean up to its last step, and the last step failed on no limit. -/
theorem Clean.of_concat {l : List Event} {e : Event} (h : Clean (l ++ [e])) :
    Clean l ∧ ∀ limit, e.exceeds limit = false :=
  ⟨fun x hx => h x (by simp [hx]), h e (by simp)⟩

/-- The counter of a budget is covered by a stretch. -/
def Covered (B : RunBudget) (l : List Event) (n : Nat) : Prop :=
  ∃ s, s <:+ l ∧ FreeOf (fun e => Event.forward e = true) s ∧ n ≤ s.countP B.grants

/-- One step keeps a counter covered: a step forward starts the counter and the stretch over, any
    other adds the same to both. -/
theorem Covered.concat {B : RunBudget} {l : List Event} {e : Event} (hs : B.Step e)
    (hx : ∀ limit, e.exceeds limit = false) (h : Covered B l (B.counter e.before.counters)) :
    Covered B (l ++ [e]) (B.counter e.after.counters) := by
  obtain ⟨s, hsl, hsf, hle⟩ := h
  cases hf : e.forward with
  | true => exact ⟨[], List.nil_suffix, FreeOf.nil, by rw [hs.restarts hf]; exact Nat.zero_le _⟩
  | false =>
    refine ⟨s ++ [e], ?_, ?_, ?_⟩
    · obtain ⟨t, rfl⟩ := hsl
      exact ⟨t, (List.append_assoc t s [e]).symm⟩
    · intro x hx
      rcases List.mem_append.mp hx with hx | hx
      · exact hsf x hx
      · rw [List.mem_singleton.mp hx]; simp [hf]
    · rw [List.countP_append, List.countP_singleton]
      cases hg : B.grants e with
      | true =>
        obtain ⟨-, hctr, -⟩ := hs.granted hg
        unfold saturatingIncr at hctr
        simp only [if_true]
        omega
      | false =>
        have hno := hs.notRaised hg hx
        simp only [Bool.false_eq_true, if_false]
        omega

variable [Build]

/-! ## The invariant of every run

  What holds whatever the limits are; it is handed to every other invariant of this file. -/

/-- What a peer can send to a run: blocks that a value of the type can hold, and no S(DESELECT). -/
def Admissible (bs : List Block) : Prop := ∀ b ∈ bs, b.Held ∧ b.isDeselect = false

/-- What holds after every history `l`: the frames are counted up to the end of the counter, and
    the chain keeps within its limit, and, without `alloc`, within what the I-Blocks can have
    brought. -/
structure General (L : Limits) (l : List Event) (h : ProtocolHandler) : Prop where
  limits : h.limits = L
  frames : h.counters.frames = min l.length u16Max
  chain : h.chain.length ≤ L.maxChainLen
  taken : Build.alloc = false → h.chain.length ≤ 256 * l.countP Event.takesIn

/-- The general invariant, one block further. -/
theorem General.step {L : Limits} {l : List Event} {e : Event} (hg : General L l e.before)
    (hr : e.Real) (hheld : e.input.Held) (hd : e.input.isDeselect = false) :
    General L (l ++ [e]) e.after where
  limits := by rw [Event.limits_eq hr, hg.limits]
  frames := by
    rw [Event.frames_eq hr hd, hg.frames, saturatingIncr, List.length_append, List.length_singleton]
    omega
  chain := by
    have hl := hg.limits
    have hc := hg.chain
    rcases Event.chain_cases hr with h | ⟨-, happ, hle⟩
    · omega
    · rw [happ, List.length_append, ← hl]; exact hle
  taken := by
    intro hal
    have ht := hg.taken hal
    rw [List.countP_append]
    rcases Event.chain_cases hr with h | ⟨hti, happ, -⟩
    · omega
    · have hp : e.input.payload.length ≤ 256 := hheld 256 (by simp [frameCap, hal])
      rw [happ, List.length_append, List.countP_singleton, if_pos hti]
      omega

section Rules

variable {L : Limits} {h : ProtocolHandler} {bs : List Block}

/-- **Induction over an exchange.**  An invariant of histories is kept by one event more, given all
    that `General` says of the history before it. -/
theorem exchange_induction {J : List Event → ProtocolHandler → Prop} (hL : h.limits = L)
    (hbs : Admissible bs) (h0 : J [] h.beginExchange)
    (hstep : ∀ l (e : Event), e.Real → e.input.isDeselect = false → e.input ∈ bs →
      General L l e.before → J l e.before → J (l ++ [e]) e.after) :
    General L (trace receive h.beginExchange bs) (after receive h.beginExchange bs) ∧
      J (trace receive h.beginExchange bs) (after receive h.beginExchange bs) := by
  refine trace_induction (I := fun l s => General L l s ∧ J l s) ⟨⟨hL, rfl, ?_, ?_⟩, h0⟩ ?_
  · exact Nat.zero_le _
  · intro _; exact Nat.zero_le _
  · rintro l s b hb ⟨hg, hj⟩
    have hr := real_event s b
    obtain ⟨hheld, hd⟩ := hbs b hb
    exact ⟨General.step (e := event receive s b) hg hr hheld hd, hstep l _ hr hd hb hg hj⟩

/-- The general invariant holds over a whole exchange. -/
theorem general_run (hL : h.limits = L) (hbs : Admissible bs) :
    General L (trace receive h.beginExchange bs) (after receive h.beginExchange bs) :=
  (exchange_induction (J := fun _ _ => True) hL hbs trivial fun _ _ _ _ _ _ _ => trivial).1

/-- An accepted block is counted, and the count is within the budget. -/
theorem General.length_lt {l : List Event} {e : Event} (hg : General L l e.before) (hr : e.Real)
    (hL : L.maxFrames < u16Max) (ha : e.accepted = true) : l.length + 1 ≤ L.maxFrames := by
  have hle := Event.frames_le hr ha
  rw [hg.limits, hg.frames, saturatingIncr] at hle
  omega

/-- An I-Block overflows the chain buffer only after four others were taken in. -/
theorem General.overflow {l : List Event} {e : Event} (hg : General L l e.before) (hr : e.Real)
    (hheld : e.input.Held) (ho : e.overflow = true) :
    Build.alloc = false ∧ 1024 < L.maxChainLen ∧ 4 ≤ l.countP Event.takesIn := by
  obtain ⟨hal, hlt, hle⟩ := Event.overflow_cases hr ho
  have ht := hg.taken hal
  have hp : e.input.payload.length ≤ 256 := hheld 256 (by simp [frameCap, hal])
  have hlim := hg.limits
  refine ⟨hal, ?_, ?_⟩
  · rw [← hlim]; omega
  · omega

/-! ## The frame budget and the S(WTX) total

  Both are counted over the whole exchange, and neither starts over. -/

/-- What the two budgets of a whole exchange granted, and how far their counters are: no more was
    granted than was counted, and no more counted than there were blocks. -/
structure Totals (L : Limits) (l : List Event) (h : ProtocolHandler) : Prop where
  accepted_le : l.countP Event.accepted ≤ L.maxFrames
  waits_le : l.countP Event.waits ≤ L.maxTotalWtx
  waits_counted : l.countP Event.waits ≤ h.counters.totalWtx
  total_le : h.counters.totalWtx ≤ l.length

/-- **Short of the end of its type, the frame counter enforces both totals**: a run that is granted
    more would have to count past it. -/
theorem totals_run (hfr : L.maxFrames < u16Max) (hL : h.limits = L) (hbs : Admissible bs) :
    Totals L (trace receive h.beginExchange bs) (after receive h.beginExchange bs) := by
  refine (exchange_induction (J := Totals L) hL hbs ⟨?_, ?_, ?_, ?_⟩ ?_).2
  all_goals try exact Nat.zero_le _
  intro l e hr hd _ hg hj
  obtain ⟨h1, h2, h3, h4⟩ := hj
  have hlen : l.countP Event.accepted ≤ l.length := List.countP_le_length
  have hmono := Event.totalWtx_bounds hr hd
  -- an accepted block leaves no room for saturation
  have hroom : e.accepted = true → l.length + 1 ≤ L.maxFrames := hg.length_lt hr hfr
  have hwait : e.waits = true → e.accepted = true ∧
      e.after.counters.totalWtx = e.before.counters.totalWtx + 1 ∧
      e.before.counters.totalWtx + 1 ≤ L.maxTotalWtx := by
    intro hw
    have ha : e.accepted = true := by
      simp only [Event.waits, Bool.and_eq_true] at hw
      exact hw.1
    have hlt : e.before.counters.totalWtx < u16Max := by
      have := hroom ha
      omega
    have htot := Event.totalWtx_of_waits hr hw
    rw [saturatingIncr_of_lt hlt, hg.limits] at htot
    exact ⟨ha, htot⟩
  have hle : L.maxTotalWtx ≤ u16Max := L.totalWtx_le
  constructor <;>
    simp only [List.countP_append, List.countP_singleton, List.length_append, List.length_singleton]
  · by_cases ha : e.accepted = true
    · have := hroom ha
      rw [if_pos ha]; omega
    · rw [if_neg ha]; omega
  · by_cases hw : e.waits = true
    · have := hwait hw
      rw [if_pos hw]; omega
    · rw [if_neg hw]; omega
  · by_cases hw : e.waits = true
    · have := hwait hw
      rw [if_pos hw]; omega
    · rw [if_neg hw]; omega
  · omega

/-! ## The two run budgets

  For both at once, by what they have in common. -/

/-- The limits under which an overflow of the chain buffer cannot be used to start the budget over:
    there is none, there is nothing to grant, or the frames run out before. -/
def NoDetour (B : RunBudget) (L : Limits) : Prop :=
  Build.alloc = true ∨ L.maxChainLen ≤ 1024 ∨ B.bound L = 0 ∨ L.maxFrames < B.bound L + 6

/-- **A run budget is enforced**, short of the end of its counter and without the detour.  The
    invariant goes over the whole history: on every stretch that nothing carries forward the counter
    is ahead of what was granted. -/
theorem drawn_run {B : RunBudget} (hB : ∀ e : Event, e.Real → B.Step e)
    (hfr : L.maxFrames < u16Max) (hb : B.bound L < u8Max) (hroom : NoDetour B L)
    (hL : h.limits = L) (hbs : Admissible bs) :
    Drawn B (trace receive h.beginExchange bs) (B.bound L) := by
  -- either the counter still covers every stretch, or so many frames went into the detour that
  -- the frame budget does
  let J : List Event → ProtocolHandler → Prop := fun l h => Drawn B l (B.bound L) ∧
    (Drawn B l (B.counter h.counters) ∨
      Build.alloc = false ∧ 1024 < L.maxChainLen ∧ 5 ≤ l.length ∧ Drawn B l (l.length - 5))
  have hall : J (trace receive h.beginExchange bs) (after receive h.beginExchange bs) := by
    refine (exchange_induction (J := J) hL hbs ?_ ?_).2
    · exact ⟨drawn_nil B _, Or.inl (drawn_nil B _)⟩
    · rintro l e hr hd hin hg ⟨hbound, hcover⟩
      have hs := hB e hr
      have hlen : (l ++ [e]).length = l.length + 1 := by simp
      cases hf : e.forward with
      | true => exact ⟨drawn_forward hf _, Or.inl (drawn_forward hf _)⟩
      | false =>
        cases hgr : B.grants e with
        | true =>
          obtain ⟨-, hctr, hle⟩ := hs.granted hgr
          rw [hg.limits] at hle
          have hacc : e.accepted = true := by
            simp only [RunBudget.grants, Bool.and_eq_true] at hgr
            exact hgr.1
          have hframes := hg.length_lt hr hfr hacc
          have hsat : saturatingIncr u8Max (B.counter e.before.counters) =
              B.counter e.before.counters + 1 := by
            unfold saturatingIncr at hle ⊢; omega
          rcases hcover with hcover | ⟨hal, hch, h5, hcover⟩
          · refine ⟨hcover.concat (fun _ => by omega) (fun h => absurd hgr (by simp [h])),
              Or.inl (hcover.concat (fun _ => by omega) (fun h => absurd hgr (by simp [h])))⟩
          · have hfew : L.maxFrames < B.bound L + 6 := by
              rcases hroom with h | h | h | h
              · exact absurd h (by simp [hal])
              · omega
              · omega
              · exact h
            refine ⟨hcover.concat (fun _ => by omega) (fun h => absurd hgr (by simp [h])),
              Or.inr ⟨hal, hch, by omega, ?_⟩⟩
            exact hcover.concat (fun _ => by omega) (fun _ => by omega)
        | false =>
          refine ⟨hbound.concat (fun h => absurd hgr (by simp [h])) (fun _ => Nat.le_refl _), ?_⟩
          rcases hcover with hcover | ⟨hal, hch, h5, hcover⟩
          · cases ho : e.overflow with
            | true =>
              obtain ⟨hal, hch, h4⟩ := hg.overflow hr (hbs _ hin).1 ho
              have hti : l.countP Event.takesIn ≤ l.length := List.countP_le_length
              refine Or.inr ⟨hal, hch, by omega, ?_⟩
              exact (drawn_add_takesIn B l).concat (fun h => absurd hgr (by simp [h]))
                (fun _ => by omega)
            | false =>
              have hkept := hs.kept hgr hf ho hd
              apply Or.inl
              have hmin : Drawn B l (min (B.counter e.before.counters) u8Max) := by
                intro s hs hf
                have h1 := hcover s hs hf
                have h2 := hbound s hs hf
                omega
              exact hmin.concat (fun h => absurd hgr (by simp [h])) (fun _ => hkept)
          · refine Or.inr ⟨hal, hch, by omega, ?_⟩
            exact hcover.concat (fun _ => by omega) (fun _ => by omega)
  exact hall.1

/-- **No counter runs ahead of what was granted**, as long as the exchange has not failed. -/
theorem covered_run (hL : h.limits = L) (hbs : Admissible bs)
    (hc : Clean (trace receive h.beginExchange bs)) :
    let l := trace receive h.beginExchange bs
    let c := (after receive h.beginExchange bs).counters
    Covered retransmissionBudget l c.retransmissions ∧
      Covered consecutiveWtxBudget l c.consecutiveWtx ∧ c.totalWtx ≤ l.countP Event.waits := by
  let J : List Event → ProtocolHandler → Prop := fun l h => Clean l →
    Covered retransmissionBudget l h.counters.retransmissions ∧
      Covered consecutiveWtxBudget l h.counters.consecutiveWtx ∧
      h.counters.totalWtx ≤ l.countP Event.waits
  have hall : J (trace receive h.beginExchange bs) (after receive h.beginExchange bs) := by
    refine (exchange_induction (J := J) hL hbs ?_ ?_).2
    · intro _
      have hnil : ∀ B : RunBudget, Covered B [] 0 :=
        fun B => ⟨[], List.suffix_rfl, FreeOf.nil, Nat.zero_le _⟩
      exact ⟨hnil _, hnil _, Nat.zero_le _⟩
    · intro l e hr hd _ hg hj hclean
      obtain ⟨hl, hx⟩ := hclean.of_concat
      obtain ⟨h1, h2, h3⟩ := hj hl
      refine ⟨h1.concat (retransmission_step hr) hx, h2.concat (consecutiveWtx_step hr) hx, ?_⟩
      have hb := Event.totalWtx_bounds hr hd
      rw [List.countP_append, List.countP_singleton]
      cases hw : e.waits with
      | true => simp only [if_true]; omega
      | false =>
        have hno := Event.totalWtx_notRaised hr hw hx
        simp only [Bool.false_eq_true, if_false]
        omega
  exact hall hc

end Rules

end Iso14443.ProtocolHandler
