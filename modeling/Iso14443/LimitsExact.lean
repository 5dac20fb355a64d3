/-
  Exactly which limits are enforced.

  `Iso14443.WorkLimits` proves the law where counters do not saturate and the chain buffer does not
  overflow.  This file shows that where they may, the law fails, and closes it: `Exact` limits are
  enforced, and no others.

  1. **Saturation.**  The counters are one byte or two wide and saturate, so a limit at the end of
     its counter is no limit.  `flood` is the run that shows it: a request is granted as long as
     there is room in the other budgets, here 256 times in a row.  It is one induction for both
     kinds of requests, R(ACK) and S(WTX); what they have in common is `Draws`.
  2. **The detour.**  An I-Block that does not fit the fixed-size chain buffer starts the run
     counters over although it is not taken in.  Four chained blocks of 256 bytes fill the buffer
     (`Filled`), and from there a peer sends all the requests it may, a block that does not fit,
     and one request more (`overdrawn_of_detour`).
  3. **The law.**  `Enforces` is what the documentation promises: in every exchange, of either
     role, with any blocks but S(DESELECT), no more is granted than the limits allow (`Enforced`),
     and the first failure on a limit is called for (`Justified`).  The second half holds of all
     limits (`justified_run`), the first one exactly of the `Exact` ones.

  `enforces_iff` puts the pieces together, the runs of 1 and 2 for the one direction and the
  invariants of `Iso14443.WorkLimits` for the other.
-/
import Iso14443.WorkLimits

namespace Iso14443.ProtocolHandler

open Run

/-- What is granted is accepted, so the frame budget bounds it too. -/
theorem countP_grants_le (B : RunBudget) {s t : List Event} (h : s <:+: t) :
    s.countP B.grants ≤ t.countP Event.accepted := by
  refine Nat.le_trans (List.countP_mono_left ?_) (h.sublist.countP_le)
  intro e _ he
  simp only [RunBudget.grants, Bool.and_eq_true] at he
  exact he.1

variable [Build]

/-! ## Runs that are granted more than the limit

  A card that was just activated, without CID, at the limits `L`. -/

/-- The handler these runs start from; it carries number 1. -/
def card (L : Limits) : ProtocolHandler := withLimits .picc none L

/-- A block that a card with number 1 grants on the budget `B`, as long as there is room.  It leaves
    the chain and the number alone, so sent again and again it shows how far the budget goes. -/
structure Draws (B : RunBudget) (x : Block) : Prop where
  held : x.Held
  notDeselect : x.isDeselect = false
  granted : ∀ h : ProtocolHandler, h.role = .picc → h.blockNumber = 1 → h.FrameOk →
    saturatingIncr u8Max (B.counter h.counters) ≤ B.bound h.limits →
    (x.isWtx = true → h.TotalOk) →
    B.grants (event receive h x) = true ∧ (receive h x).2.blockNumber = 1 ∧
      (receive h x).2.chain = h.chain

/-- An R(ACK) with the card's own number draws on the retransmissions. -/
theorem draws_rack : Draws retransmissionBudget (rblock 1 .ack) where
  held := fits_frameCap (by decide)
  notDeselect := by decide
  granted h hrole hn hf ha _ := by
    have hm : h.rMeaning (rblock 1 .ack) = .repeatLast := by
      simp only [rMeaning, hrole]
      show (if (1 : Fin 2) = h.blockNumber then _ else _) = _
      rw [hn]; rfl
    have heq : receive h (rblock 1 .ack) = _ := Received.eq (.repeatLast hf rfl hm ha)
    have hasks : Event.asksAgain (event receive h (rblock 1 .ack)) = true := by
      simp only [Event.asksAgain, event_input, event_before, hm]; rfl
    refine ⟨?_, ?_, ?_⟩
    · rw [RunBudget.grants, Bool.and_eq_true]
      exact ⟨by rw [Event.accepted, event_output, heq]; rfl, hasks⟩
    · rw [heq]; exact hn
    · rw [heq]; rfl

/-- An S(WTX) draws on the extensions in a row. -/
theorem draws_wtx : Draws consecutiveWtxBudget (wtxBlock 1) where
  held := fits_frameCap (by decide)
  notDeselect := by decide
  granted h hrole hn hf hr hw := by
    have heq : receive h (wtxBlock 1) = _ :=
      Received.eq (.wtx hf rfl rfl (by decide) hr (hw (by decide)))
    refine ⟨?_, ?_, ?_⟩
    · rw [RunBudget.grants, Bool.and_eq_true]
      exact ⟨by rw [Event.accepted, event_output, heq]; rfl,
        show (wtxBlock 1).isWtx = true by decide⟩
    · rw [heq]; exact hn
    · rw [heq]; rfl

/-- Room for `n` more requests: within `frames` frames, and within `total` S(WTX) if they are.  Or
    the bound is the last value of its counter, which saturates there and is never exceeded
    (`counter`). -/
structure Room (B : RunBudget) (x : Block) (L : Limits) (chain : ChainVec) (frames total n : Nat)
    (h : ProtocolHandler) : Prop where
  role : h.role = .picc
  number : h.blockNumber = 1
  limits : h.limits = L
  chain : h.chain = chain
  frames : h.counters.frames + n ≤ frames
  counter : B.counter h.counters + n ≤ B.bound L ∨ B.bound L = u8Max
  total : x.isWtx = true → h.counters.totalWtx + n ≤ total

/-- **A flood is granted** as long as there is room.  The induction is on its length: every block
    takes one from each room, and leaves the rest as it was. -/
theorem flood {B : RunBudget} (hB : ∀ e : Event, e.Real → B.Step e) {x : Block} (hx : Draws B x)
    {L : Limits} {chain : ChainVec} {frames total : Nat} (hframes : frames ≤ L.maxFrames)
    (htotal : total ≤ L.maxTotalWtx) (n : Nat) {h : ProtocolHandler}
    (hroom : Room B x L chain frames total n h) :
    Room B x L chain frames total 0 (after receive h (List.replicate n x)) ∧
      ∀ e ∈ trace receive h (List.replicate n x), B.grants e = true ∧ Event.forward e = false := by
  refine trace_replicate (G := Room B x L chain frames total) ?_ n h hroom
  rintro n s ⟨hrole, hnum, hlim, hch, hfr, hctr, htot⟩
  have hL := L.frames_le
  have hT := L.totalWtx_le
  -- there is room for a frame, for a request, and for an S(WTX) if it is one
  have hfits : s.FrameOk := by
    show saturatingIncr u16Max s.counters.frames ≤ s.limits.maxFrames
    rw [hlim, saturatingIncr_of_lt (by omega)]
    omega
  have hcount : saturatingIncr u8Max (B.counter s.counters) ≤ B.bound s.limits := by
    unfold saturatingIncr
    rw [hlim]; omega
  have hwait : x.isWtx = true → s.TotalOk := by
    intro hw
    have := htot hw
    show saturatingIncr u16Max s.counters.totalWtx ≤ s.limits.maxTotalWtx
    rw [hlim, saturatingIncr_of_lt (by omega)]
    omega
  have hreal := real_event s x
  obtain ⟨hg, hnum', hch'⟩ := hx.granted s hrole hnum hfits hcount hwait
  obtain ⟨hfwd, hctr', -⟩ := (hB _ hreal).granted hg
  -- and the counters go up by one each at most
  have hfr' : (receive s x).2.counters.frames ≤ s.counters.frames + 1 := by
    rw [show (receive s x).2.counters.frames = _ from Event.frames_eq hreal hx.notDeselect]
    exact saturatingIncr_le _ _
  have htot' : (receive s x).2.counters.totalWtx ≤ s.counters.totalWtx + 1 :=
    (Event.totalWtx_bounds hreal hx.notDeselect).2
  replace hctr' : B.counter (receive s x).2.counters ≤ B.counter s.counters + 1 := by
    rw [show B.counter (receive s x).2.counters = _ from hctr']
    exact saturatingIncr_le _ _
  refine ⟨⟨?_, hnum', ?_, hch'.trans hch, ?_, ?_, ?_⟩, hg, hfwd⟩
  · exact (Event.role_eq hreal).trans hrole
  · exact (Event.limits_eq hreal).trans hlim
  · omega
  · omega
  · intro hw
    have := htot hw
    omega

/-- How many requests a flood was granted: all of them. -/
theorem countP_flood {B : RunBudget} {h : ProtocolHandler} {x : Block} {n : Nat}
    (hall : ∀ e ∈ trace receive h (List.replicate n x), B.grants e = true ∧ Event.forward e = false) :
    (trace receive h (List.replicate n x)).countP B.grants = n ∧
      FreeOf (fun e => Event.forward e = true) (trace receive h (List.replicate n x)) := by
  constructor
  · rw [List.countP_eq_length.mpr (fun e he => (hall e he).1), length_trace, List.length_replicate]
  · intro e he
    simp [(hall e he).2]

/-- A run whose last stretch is granted more than the budget. -/
def Overdrawn (B : RunBudget) (L : Limits) : Prop :=
  ∃ bs, Admissible bs ∧ ¬ Drawn B (trace receive (card L).beginExchange bs) (B.bound L)

/-- So many copies of such a block may arrive. -/
theorem Draws.admissible {B : RunBudget} {x : Block} (hx : Draws B x) (n : Nat) :
    Admissible (List.replicate n x) := by
  intro b hb
  rw [List.eq_of_mem_replicate hb]
  exact ⟨hx.held, hx.notDeselect⟩

/-- **One stretch is enough**: blocks at the end of a run that are granted more than the budget, and
    none of which carries the exchange forward. -/
theorem overdrawn_of_stretch {B : RunBudget} {L : Limits} {bs stretch : List Block}
    (hbs : Admissible bs) (hstretch : Admissible stretch)
    (hfree : FreeOf (fun e => Event.forward e = true)
      (trace receive (after receive (card L).beginExchange bs) stretch))
    (hmore : B.bound L < (trace receive (after receive (card L).beginExchange bs) stretch).countP
      B.grants) : Overdrawn B L := by
  refine ⟨bs ++ stretch, ?_, ?_⟩
  · intro b hb
    rcases List.mem_append.mp hb with hb | hb
    · exact hbs b hb
    · exact hstretch b hb
  · intro hdrawn
    rw [trace_append] at hdrawn
    exact absurd (hdrawn _ (List.suffix_append _ _) hfree) (Nat.not_le_of_lt hmore)

/-- **At the end of its counter a budget is no bound.** -/
theorem overdrawn_of_saturated {B : RunBudget} (hB : ∀ e : Event, e.Real → B.Step e) {x : Block}
    (hx : Draws B x) {L : Limits} (hbound : B.bound L = u8Max) (hframes : u8Max < L.maxFrames)
    (htotal : x.isWtx = true → u8Max < L.maxTotalWtx) : Overdrawn B L := by
  have hstart : Room B x L [] L.maxFrames L.maxTotalWtx (u8Max + 1) (card L).beginExchange := by
    refine ⟨rfl, rfl, rfl, rfl, ?_, Or.inr hbound, ?_⟩
    · show 0 + (u8Max + 1) ≤ _
      omega
    · intro hw
      have := htotal hw
      show 0 + (u8Max + 1) ≤ _
      omega
  obtain ⟨hcount, hfree⟩ := countP_flood (flood hB hx (Nat.le_refl _) (Nat.le_refl _) _ hstart).2
  have hnil : Admissible [] := by simp [Admissible]
  refine overdrawn_of_stretch hnil (hx.admissible (u8Max + 1)) hfree ?_
  rw [show after receive (card L).beginExchange [] = (card L).beginExchange from rfl, hcount, hbound]
  exact Nat.lt_succ_self _

/-- The card after `k` chained I-Blocks of 256 bytes: a chain can be made as long as the frame
    budget allows, and no request counts against it. -/
structure Filled (L : Limits) (k : Nat) (n : Fin 2) (h : ProtocolHandler) : Prop where
  role : h.role = .picc
  number : h.blockNumber = n
  limits : h.limits = L
  chain : h.chain.length = 256 * k
  counters : h.counters = { frames := k }

/-- Another 256 bytes: the I-Block is chained, so it is acknowledged and the other number is
    next. -/
theorem Filled.step {L : Limits} {k : Nat} {n : Fin 2} {h : ProtocolHandler} (hh : Filled L k n h)
    (hk : k < 4) (hframes : 4 ≤ L.maxFrames) (hchain : 1024 ≤ L.maxChainLen) :
    Filled L (k + 1) (1 - n)
      (receive h (iblock (1 - n) (List.replicate 256 0) true)).2 := by
  obtain ⟨hrole, hnum, hlim, hch, hctr⟩ := hh
  have hsat : saturatingIncr u16Max k = k + 1 := by
    unfold saturatingIncr u16Max; omega
  have hf : h.FrameOk := by
    show saturatingIncr u16Max h.counters.frames ≤ h.limits.maxFrames
    rw [hctr, hlim, hsat]; omega
  have hr : ¬ h.repeatsLastIblock (iblock (1 - n) (List.replicate 256 0) true) = true := by
    have hne : ∀ n : Fin 2, ¬ 1 - n = n := by decide
    simp only [repeatsLastIblock, hrole, hnum, decide_eq_true_eq]
    exact hne n
  have hpay : (iblock (1 - n) (List.replicate 256 0) true).payload.length = 256 :=
    List.length_replicate
  have hlen : h.chain.length + (iblock (1 - n) (List.replicate 256 0) true).payload.length ≤
      h.limits.maxChainLen := by
    rw [hlim, hpay]; omega
  have hfits : Fits chainCap
      (h.chain.length + (iblock (1 - n) (List.replicate 256 0) true).payload.length) :=
    fits_chainCap (by rw [hpay]; omega)
  have heq : receive h (iblock (1 - n) (List.replicate 256 0) true) = _ :=
    Received.eq (.chained hf rfl hr hlen hfits rfl)
  rw [heq]
  refine ⟨hrole, ?_, hlim, ?_, ?_⟩
  · show 1 - h.blockNumber = 1 - n
    rw [hnum]
  · show (h.chain ++ _).length = _
    rw [List.length_append, hpay]; omega
  · show (Counters.countFrame h.counters).noteProgress = _
    rw [hctr, Counters.countFrame, Counters.noteProgress, hsat]

/-- Four chained I-Blocks that fill the fixed-size chain buffer. -/
def opening : List Block :=
  [iblock 0 (List.replicate 256 0) true, iblock 1 (List.replicate 256 0) true,
    iblock 0 (List.replicate 256 0) true, iblock 1 (List.replicate 256 0) true]

/-- Four blocks fill the buffer. -/
theorem filled_opening {L : Limits} (hframes : 4 ≤ L.maxFrames) (hchain : 1024 ≤ L.maxChainLen) :
    Filled L 4 1 (after receive (card L).beginExchange opening) := by
  have h0 : Filled L 0 1 (card L).beginExchange := ⟨rfl, rfl, rfl, rfl, rfl⟩
  have h1 := h0.step (by decide) hframes hchain
  have h2 := h1.step (by decide) hframes hchain
  have h3 := h2.step (by decide) hframes hchain
  exact h3.step (by decide) hframes hchain

/-- The I-Block that does not fit any more. -/
def overflowing : Block := iblock 0 [0] true

/-- The next byte does not fit the buffer, though the limit would let it in. -/
theorem receive_overflowing {h : ProtocolHandler} (hal : Build.alloc = false)
    (hrole : h.role = .picc) (hnum : h.blockNumber = 1) (hch : h.chain.length = 1024)
    (hchain : 1024 < h.limits.maxChainLen) (hf : h.FrameOk) :
    receive h overflowing =
      (.err .bufferFull, { h.counted with counters := h.counted.counters.noteProgress }) := by
  refine Received.eq (.bufferFull hf rfl ?_ ?_ ?_)
  · simp only [repeatsLastIblock, hrole, hnum]; decide
  · rw [hch]; exact hchain
  · rw [hch]; simp [Fits, chainCap, hal, overflowing, iblock, Block.withPayload]

/-- **The detour**: a card with a full buffer, and two frames left, refuses the block, and has room for
    a request again. -/
theorem Room.detour {B : RunBudget} {x : Block} {L : Limits} {chain : ChainVec}
    {h : ProtocolHandler} (hroom : Room B x L chain (L.maxFrames - 2) (L.maxTotalWtx - 1) 0 h)
    (hzero : ∀ c : Counters, B.counter c.noteProgress = 0) (hal : Build.alloc = false)
    (hfull : chain.length = 1024) (hchain : 1024 < L.maxChainLen) (hpos : 0 < B.bound L)
    (hframes : 2 ≤ L.maxFrames) (htotal : x.isWtx = true → 1 ≤ L.maxTotalWtx) :
    Event.forward (event receive h overflowing) = false ∧
      Room B x L chain L.maxFrames L.maxTotalWtx 1 (receive h overflowing).2 := by
  obtain ⟨hrole, hnum, hlim, hch, hfr, -, htot⟩ := hroom
  have hsat := saturatingIncr_le u16Max h.counters.frames
  have hf : h.FrameOk := by
    show saturatingIncr u16Max h.counters.frames ≤ h.limits.maxFrames
    rw [hlim]
    omega
  have hover := receive_overflowing hal hrole hnum (by rw [hch, hfull])
    (by rw [hlim]; exact hchain) hf
  constructor
  · simp [Event.forward, Event.takesIn, Event.accepted, hover, Res.isOk]
  · rw [hover]
    refine ⟨hrole, hnum, hlim, hch, ?_, Or.inl ?_, ?_⟩
    · show saturatingIncr u16Max h.counters.frames + 1 ≤ _
      omega
    · -- the counter starts over
      show B.counter (Counters.noteProgress _) + 1 ≤ _
      rw [hzero]
      omega
    · intro hw
      have h1 := htotal hw
      have h2 := htot hw
      show h.counters.totalWtx + 1 ≤ _
      omega

/-- These four blocks may arrive. -/
theorem admissible_opening : Admissible opening := by
  have hopen : ∀ b ∈ opening, b.payload.length ≤ 256 ∧ b.isDeselect = false := by decide +kernel
  exact fun b hb => ⟨fits_frameCap (hopen b hb).1, (hopen b hb).2⟩

/-- **The last stretch of the run**: requests up to the limit, the detour, and one request more.  All
    of them are granted, and nothing is taken in. -/
theorem flood_detour {B : RunBudget} (hB : ∀ e : Event, e.Real → B.Step e) {x : Block}
    (hx : Draws B x) (hzero : ∀ c : Counters, B.counter c.noteProgress = 0) {L : Limits}
    {chain : ChainVec} {h : ProtocolHandler}
    (hroom : Room B x L chain (L.maxFrames - 2) (L.maxTotalWtx - 1) (B.bound L) h)
    (hal : Build.alloc = false) (hfull : chain.length = 1024) (hchain : 1024 < L.maxChainLen)
    (hpos : 0 < B.bound L) (hframes : 2 ≤ L.maxFrames)
    (htotal : x.isWtx = true → 1 ≤ L.maxTotalWtx) :
    let run := trace receive h (List.replicate (B.bound L) x ++ overflowing :: List.replicate 1 x)
    FreeOf (fun e => Event.forward e = true) run ∧ B.bound L < run.countP B.grants := by
  obtain ⟨hroom1, hall1⟩ := flood hB hx (Nat.sub_le _ _) (Nat.sub_le _ _) _ hroom
  obtain ⟨hcount1, hfree1⟩ := countP_flood hall1
  obtain ⟨hover, hroom2⟩ := hroom1.detour hzero hal hfull hchain hpos hframes htotal
  obtain ⟨hcount2, hfree2⟩ := countP_flood (flood hB hx (Nat.le_refl _) (Nat.le_refl _) 1 hroom2).2
  dsimp only
  rw [trace_append, trace_cons]
  constructor
  · intro e he
    rcases List.mem_append.mp he with he | he
    · exact hfree1 e he
    · rcases List.mem_cons.mp he with rfl | he
      · simp [hover]
      · exact hfree2 e he
  · rw [List.countP_append, List.countP_cons, hcount1, hcount2]
    omega

/-- **An overflow of the chain buffer starts a run budget over** although nothing is taken in.  The
    run is: four chained I-Blocks that fill the buffer, requests up to the limit, one I-Block more,
    which is refused, and another request. -/
theorem overdrawn_of_detour {B : RunBudget} (hB : ∀ e : Event, e.Real → B.Step e) {x : Block}
    (hx : Draws B x) (hzero : ∀ c : Counters, B.counter c.noteProgress = 0) {L : Limits}
    (hal : Build.alloc = false) (hchain : 1024 < L.maxChainLen) (hpos : 0 < B.bound L)
    (hframes : B.bound L + 6 ≤ L.maxFrames)
    (htotal : x.isWtx = true → B.bound L + 1 ≤ L.maxTotalWtx) : Overdrawn B L := by
  have hfilled := filled_opening (L := L) (by omega) (by omega)
  have hcounters := hfilled.counters
  -- the buffer is full, and there is room for as many requests as the budget grants
  have hroom : Room B x L (after receive (card L).beginExchange opening).chain (L.maxFrames - 2)
      (L.maxTotalWtx - 1) (B.bound L) (after receive (card L).beginExchange opening) := by
    refine ⟨hfilled.role, hfilled.number, hfilled.limits, rfl, ?_, Or.inl ?_, ?_⟩
    · rw [hcounters]
      show 4 + _ ≤ _
      omega
    · rw [hcounters, show B.counter { frames := 4 } = 0 from hzero { frames := 4 }]
      omega
    · intro hw
      have := htotal hw
      rw [hcounters]
      show 0 + _ ≤ _
      omega
  obtain ⟨hfree, hmore⟩ := flood_detour hB hx hzero hroom hal hfilled.chain hchain hpos (by omega)
    fun hw => Nat.le_trans (Nat.le_add_left _ _) (htotal hw)
  refine overdrawn_of_stretch admissible_opening ?_ hfree hmore
  intro b hb
  rcases List.mem_append.mp hb with hb | hb
  · exact hx.admissible _ b hb
  · rcases List.mem_cons.mp hb with rfl | hb
    · exact ⟨fits_frameCap (by decide), by decide⟩
    · exact hx.admissible _ b hb

/-- A presence check, R(NAK) with the other number, is answered whatever came before: only the frame
    counter moves, and at the end of its type it moves no more. -/
theorem accepted_presence {L : Limits} (hL : L.maxFrames = u16Max) (n : Nat) :
    (trace receive (card L).beginExchange (List.replicate n (rblock 0 .nak))).countP
      Event.accepted = n := by
  let good : Nat → ProtocolHandler → Prop := fun _ h =>
    h.role = .picc ∧ h.blockNumber = 1 ∧ h.limits = L
  have hstep : ∀ n s, good (n + 1) s → good n (receive s (rblock 0 .nak)).2 ∧
      Event.accepted (event receive s (rblock 0 .nak)) = true := by
    rintro _ s ⟨hrole, hnum, hlim⟩
    have hf : s.FrameOk := by
      show saturatingIncr u16Max s.counters.frames ≤ s.limits.maxFrames
      rw [hlim, hL]
      exact Nat.min_le_right _ _
    have hm : s.rMeaning (rblock 0 .nak) = .presence := by
      simp only [rMeaning, hrole]
      show (if (0 : Fin 2) = s.blockNumber then _ else _) = _
      rw [hnum]; rfl
    have heq : receive s (rblock 0 .nak) = _ := Received.eq (.presence hf rfl hm)
    constructor
    · rw [heq]; exact ⟨hrole, hnum, hlim⟩
    · rw [Event.accepted, event_output, heq]; rfl
  have hall : ∀ e ∈ trace receive (card L).beginExchange (List.replicate n (rblock 0 .nak)),
      Event.accepted e = true :=
    (trace_replicate (G := good) (p := fun e => Event.accepted e = true) hstep n _
      ⟨rfl, rfl, rfl⟩).2
  rw [List.countP_eq_length.mpr hall, length_trace, List.length_replicate]

/-! ## The law

  What the documentation of `Limits` promises, as a property of the limits; and the exact
  condition. -/

/-- No more was granted than the limits allow.  What is bounded in a row is bounded on every stretch
    of the run that nothing carries forward. -/
structure Enforced (L : Limits) (t : List Event) : Prop where
  frames : t.countP Event.accepted ≤ L.maxFrames
  totalWtx : t.countP Event.waits ≤ L.maxTotalWtx
  consecutiveWtx : ∀ s, s <:+: t → FreeOf (fun e => Event.forward e = true) s →
    s.countP Event.waits ≤ L.maxConsecutiveWtx
  retransmissions : ∀ s, s <:+: t → FreeOf (fun e => Event.forward e = true) s →
    s.countP Event.again ≤ L.maxRetransmissions
  chainLen : ∀ e ∈ t, e.after.chain.length ≤ L.maxChainLen

/-- The event that follows the history `l` would push the count or length past its limit. -/
def Past (L : Limits) (l : List Event) (e : Event) : Limit → Prop
  | .frames => L.maxFrames < l.length + 1
  | .totalWtx => e.input.isWtx = true ∧ L.maxTotalWtx < l.countP Event.waits + 1
  | .consecutiveWtx => e.input.isWtx = true ∧ ∃ s, s <:+ l ∧
      FreeOf (fun e => Event.forward e = true) s ∧ L.maxConsecutiveWtx < s.countP Event.waits + 1
  | .retransmissions => Event.asksAgain e = true ∧ ∃ s, s <:+ l ∧
      FreeOf (fun e => Event.forward e = true) s ∧ L.maxRetransmissions < s.countP Event.again + 1
  | .wtxValue => e.input.isWtx = true ∧
      ¬ ∃ inf : UInt8, e.input.payload = [inf] ∧ 1 ≤ inf &&& 0x3f ∧ inf &&& 0x3f ≤ 59
  | .chainLength => e.input.blockType = .iBlock ∧
      L.maxChainLen < e.before.chain.length + e.input.payload.length
  | .frameSize => False

/-- The first failure on a limit is one the count calls for. -/
def Justified (L : Limits) (t : List Event) : Prop :=
  ∀ l e r limit, t = l ++ e :: r → Clean l → Event.exceeds e limit = true → Past L l e limit

/-- The limits do what they say: in every exchange, of either role, with any blocks. -/
def Enforces (L : Limits) : Prop :=
  ∀ (h : ProtocolHandler) (bs : List Block), h.limits = L → Admissible bs →
    Enforced L (trace receive h.beginExchange bs) ∧ Justified L (trace receive h.beginExchange bs)

/-- **Every first failure is justified**, whatever the limits are: the block that fails with a limit
    is the one that goes past it, counted by what was granted before. -/
theorem justified_run {L : Limits} {h : ProtocolHandler} {bs : List Block} (hL : h.limits = L)
    (hbs : Admissible bs) : Justified L (trace receive h.beginExchange bs) := by
  rintro l e r limit htrace hclean hx
  obtain ⟨pre, post, rfl, rfl, he⟩ := trace_eq_append htrace
  have hpre : Admissible pre := fun b hb => hbs b (List.mem_append_left _ hb)
  have hreal : Event.Real e := by rw [he]; exact real_event _ _
  have hbefore : e.before = after receive h.beginExchange pre := by rw [he]; rfl
  have hg : General L (trace receive h.beginExchange pre) e.before := by
    rw [hbefore]; exact general_run hL hpre
  -- no counter has run ahead of what was granted
  obtain ⟨hre, hwtx, htot⟩ := covered_run hL hpre hclean
  rw [← hbefore] at hre hwtx htot
  have hcases := Event.exceeds_cases hreal hx
  -- what was refused was one past the counter
  cases limit with
  | frames =>
    simp only [hg.limits, hg.frames] at hcases
    have := saturatingIncr_le u16Max (min (trace receive h.beginExchange pre).length u16Max)
    show L.maxFrames < _
    omega
  | totalWtx =>
    simp only [hg.limits] at hcases
    have := saturatingIncr_le u16Max e.before.counters.totalWtx
    exact ⟨hcases.1, by omega⟩
  | consecutiveWtx =>
    obtain ⟨hasks, hlt⟩ := (consecutiveWtx_step hreal).refused hx
    obtain ⟨s, hs, hf, hle⟩ := hwtx
    rw [hg.limits] at hlt
    have := saturatingIncr_le u8Max e.before.counters.consecutiveWtx
    exact ⟨hasks, s, hs, hf, Nat.lt_of_lt_of_le hlt (Nat.le_trans this (Nat.succ_le_succ hle))⟩
  | retransmissions =>
    obtain ⟨hasks, hlt⟩ := (retransmission_step hreal).refused hx
    obtain ⟨s, hs, hf, hle⟩ := hre
    rw [hg.limits] at hlt
    have := saturatingIncr_le u8Max e.before.counters.retransmissions
    exact ⟨hasks, s, hs, hf, Nat.lt_of_lt_of_le hlt (Nat.le_trans this (Nat.succ_le_succ hle))⟩
  | wtxValue =>
    -- the others are read off the block
    refine ⟨hcases.1, ?_⟩
    rw [← validWtx_iff, hcases.2]
    simp
  | chainLength =>
    simp only [hg.limits] at hcases
    exact hcases
  | frameSize => exact hcases

/-- The run budget `B` is enforced: its counter does not end first, or the frames do before it
    matters, and no overflow starts it over. -/
def Kept (B : RunBudget) (L : Limits) : Prop :=
  (B.bound L < u8Max ∨ L.maxFrames ≤ u8Max) ∧ NoDetour B L

/-- The limits that are enforced exactly.  A limit at the last value of its counter is not, unless
    another one is reached first. -/
structure Exact (L : Limits) : Prop where
  frames : L.maxFrames < u16Max
  retransmissions : Kept retransmissionBudget L
  consecutiveWtx : L.maxTotalWtx ≤ L.maxConsecutiveWtx ∨ Kept consecutiveWtxBudget L

/-- A budget that is kept bounds every stretch of a run. -/
theorem stretches_of_kept {B : RunBudget} (hB : ∀ e : Event, e.Real → B.Step e) {L : Limits}
    (hfr : L.maxFrames < u16Max) (hk : Kept B L) (hbound : B.bound L ≤ u8Max)
    {h : ProtocolHandler} {bs : List Block} (hL : h.limits = L) (hbs : Admissible bs) :
    ∀ s, s <:+: trace receive h.beginExchange bs → FreeOf (fun e => Event.forward e = true) s →
      s.countP B.grants ≤ B.bound L := by
  by_cases hb : B.bound L < u8Max
  · apply stretches
    intro js hjs u hu hf
    have hadm : Admissible js := fun b hb => hbs b (hjs.subset hb)
    exact drawn_run hB hfr hb hk.2 hL hadm u hu hf
  · intro s hs _
    have hle := countP_grants_le B hs
    have hacc := (totals_run hfr hL hbs).accepted_le
    have := hk.1
    omega

/-- A budget that is not kept is overdrawn by some run. -/
theorem overdrawn_of_not_kept {B : RunBudget} (hB : ∀ e : Event, e.Real → B.Step e) {x : Block}
    (hx : Draws B x) (hzero : ∀ c : Counters, B.counter c.noteProgress = 0) {L : Limits}
    (hbound : B.bound L ≤ u8Max) (htotal : x.isWtx = true → B.bound L < L.maxTotalWtx)
    (hk : ¬ Kept B L) : Overdrawn B L := by
  by_cases hsat : B.bound L < u8Max ∨ L.maxFrames ≤ u8Max
  · have hdet : ¬ NoDetour B L := fun h => hk ⟨hsat, h⟩
    simp only [NoDetour, not_or, Bool.not_eq_true] at hdet
    obtain ⟨hal, hchain, hpos, hframes⟩ := hdet
    exact overdrawn_of_detour hB hx hzero hal (by omega) (by omega) (by omega) htotal
  · have hb : B.bound L = u8Max := by omega
    refine overdrawn_of_saturated hB hx hb (by omega) ?_
    intro hw
    have := htotal hw
    omega

/-- A run that overdraws a budget is no enforced one. -/
theorem not_drawn_of_overdrawn {B : RunBudget} {L : Limits} (ho : Overdrawn B L)
    (hall : ∀ bs, Admissible bs → ∀ s, s <:+: trace receive (card L).beginExchange bs →
      FreeOf (fun e => Event.forward e = true) s → s.countP B.grants ≤ B.bound L) : False := by
  obtain ⟨bs, hbs, hnot⟩ := ho
  exact hnot fun s hs hf => hall bs hbs s hs.isInfix hf

/-- **The work limits are enforced exactly for the `Exact` limits, and for no others.** -/
theorem enforces_iff (L : Limits) : Enforces L ↔ Exact L := by
  constructor
  · intro hE
    have hcard := fun bs hbs => (hE (card L) bs rfl hbs).1
    refine ⟨?_, ?_, ?_⟩
    · -- the frame counter must not end at the limit
      by_contra hfr
      have hL : L.maxFrames = u16Max := Nat.le_antisymm L.frames_le (Nat.le_of_not_lt hfr)
      have hle := (hcard (List.replicate (u16Max + 1) (rblock 0 .nak)) ?_).frames
      · rw [accepted_presence hL, hL] at hle
        omega
      · intro b hb
        rw [List.eq_of_mem_replicate hb]
        exact ⟨fits_frameCap (by decide), by decide⟩
    · -- nor the counter of the retransmissions, and no overflow may start it over
      by_contra hk
      exact not_drawn_of_overdrawn (overdrawn_of_not_kept (fun _ => retransmission_step) draws_rack
        (fun _ => rfl) L.retransmissions_le (fun h => absurd h (by decide)) hk)
        fun bs hbs => (hcard bs hbs).retransmissions
    · -- nor that of the extensions in a row, unless the total is lower
      by_contra hk
      obtain ⟨htot, hk⟩ := not_or.mp hk
      exact not_drawn_of_overdrawn (overdrawn_of_not_kept (fun _ => consecutiveWtx_step) draws_wtx
        (fun _ => rfl) L.consecutiveWtx_le (fun _ => Nat.lt_of_not_le htot) hk)
        fun bs hbs => (hcard bs hbs).consecutiveWtx
  · -- the other way: the invariants of every run
    rintro ⟨hfr, hre, hwtx⟩ h bs hL hbs
    refine ⟨⟨(totals_run hfr hL hbs).accepted_le, (totals_run hfr hL hbs).waits_le, ?_, ?_, ?_⟩,
      justified_run hL hbs⟩
    · -- a total at most as high bounds any stretch as well
      rcases hwtx with htot | hk
      · intro s hs _
        have hle : s.countP Event.waits ≤ (trace receive h.beginExchange bs).countP Event.waits :=
          hs.sublist.countP_le
        have := (totals_run hfr hL hbs).waits_le
        omega
      · exact stretches_of_kept (fun _ => consecutiveWtx_step) hfr hk L.consecutiveWtx_le hL hbs
    · exact stretches_of_kept (fun _ => retransmission_step) hfr hre L.retransmissions_le hL hbs
    · intro e he
      obtain ⟨l, r, htrace⟩ := List.append_of_mem he
      obtain ⟨pre, post, rfl, -, heq⟩ := trace_eq_append htrace
      have hadm : Admissible (pre ++ [e.input]) := by
        intro b hb
        apply hbs b
        rcases List.mem_append.mp hb with hb | hb
        · exact List.mem_append_left _ hb
        · rw [List.mem_singleton.mp hb]; simp
      have hg := general_run hL hadm
      rw [after_concat] at hg
      rw [heq]
      exact hg.chain

omit [Build] in
/-- A limit at the end of its counter: 256 requests to send again are granted in a row. -/
theorem not_enforces_saturated : ¬ @Enforces Build.heap
    { maxFrames := 512, maxRetransmissions := 255, maxConsecutiveWtx := 8, maxTotalWtx := 32,
      maxChainLen := 4096 } := by
  let : Build := Build.heap
  intro hE
  exact not_drawn_of_overdrawn
    (overdrawn_of_saturated (fun _ => retransmission_step) draws_rack rfl (by decide)
      (fun h => absurd h (by decide)))
    fun bs hbs => (hE (card _) bs rfl hbs).1.retransmissions

end Iso14443.ProtocolHandler
