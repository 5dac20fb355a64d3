/-
  A card that asks for more time, and what its requests do to a handler.

  A card that needs more time sends S(WTX), and gives its answer once the reader has sent the same
  S(WTX) back.  Any transceiver can be made to do so: `Extending` stands around it, and puts the
  requests of a plan before its answers.  The plan is free (how many requests, before which answers),
  so what holds of `Extending` holds of every card that asks for more time.

  1. **The card** — `Extending T E`, around the card `T`.  It passes a frame on only while nothing is
     pending; a request stands until the reader acknowledges it.

  2. **What is spent** — `Spent` adds up the frames and the requests along an exchange, by the rules of
     the counters: `after` sets the requests in a row back where the answer carries the exchange
     forward.  `WithinLimits` says that the budgets of the reader suffice for all of it.

  3. **The crux (`Lifted`)** — the handler of the exchange with requests, beside the one without: the
     same role, number, chain and limits, with counters that stay below what is spent.  A request
     granted keeps the two `Lifted` (`Lifted.request`), and whatever the one handler accepts the other
     one accepts with the same action (`Lifted.receive`).

  The counters alone differ, so the second handler can refuse only what is over a limit; and that the
  limits suffice is what `WithinLimits` says.
-/
import Iso14443.FrameBudget

namespace Iso14443

open ProtocolHandler

/-! ## A card that asks for more time

  The reader grants a request by sending it back.  Until it does the request is repeated, as a real
  card would whose request got lost. -/

/-- The reader sent an S(WTX) with the same INF back. -/
def acknowledges [Build] (hwCrc : Bool) (frame : Frame) (request : Block) : Bool :=
  match Block.readBlock hwCrc frame.data with
  | .ok b => b.isWtx && b.payload = request.payload
  | _ => false

/-- It depends on the block the frame carries. -/
theorem acknowledges_of_read [Build] {hwCrc : Bool} {frame : Frame} {b request : Block}
    (hread : Block.readBlock hwCrc frame.data = .ok b) :
    acknowledges hwCrc frame request = (b.isWtx && decide (b.payload = request.payload)) := by
  rw [acknowledges, hread]

/-- A card that asks for more time before some of its answers.  It is a transceiver around another
    one: the inner card is asked only when nothing is pending, so it never notices. -/
structure Extending (T E : Type) where
  /-- The card that gives the answers. -/
  inner : T
  hwCrc : Bool
  /-- The requests before each answer, by its place. -/
  plan : Nat → List Block
  /-- The answers the inner card has given so far. -/
  made : Nat := 0
  /-- A request not acknowledged yet, the requests after it, and the answer they put off. -/
  pending : Option (Block × List Block × Except E FrameVec) := none

namespace Extending

variable {T E : Type}

/-- The next request, or the answer itself. -/
def next (t : Extending T E) (requests : List Block) (answer : Except E FrameVec) :
    Except E FrameVec × Extending T E :=
  match requests with
  | [] => (answer, { t with pending := none })
  | w :: ws => (.ok (w.raw t.hwCrc), { t with pending := some (w, ws, answer) })

/-- A call is answered by the inner card, after the requests that are planned before its answer.  Each
    request is repeated until the reader grants it. -/
instance [Build] [PcdTransceiver T E] : PcdTransceiver (Extending T E) E where
  transceive t frame :=
    match t.pending with
    | none =>
      let (answer, inner) := PcdTransceiver.transceive t.inner frame
      { t with inner, made := t.made + 1 }.next (t.plan t.made) answer
    | some (w, ws, answer) =>
      -- the request stands until it is acknowledged
      if acknowledges t.hwCrc frame w then t.next ws answer else (.ok (w.raw t.hwCrc), t)
  tryEnableHwCrc t :=
    let (r, inner) := PcdTransceiver.tryEnableHwCrc t.inner
    (r, { t with inner })

section Calls

variable [Build] [PcdTransceiver T E] {t : Extending T E} {frame : Frame}

/-- A call with nothing pending goes through to the inner card. -/
theorem transceive_idle (ht : t.pending = none) {answer : Except E FrameVec} {inner : T}
    (h : PcdTransceiver.transceive t.inner frame = (answer, inner)) :
    PcdTransceiver.transceive t frame =
      { t with inner, made := t.made + 1 }.next (t.plan t.made) answer := by
  obtain ⟨i, hwCrc, plan, made, pending⟩ := t
  cases ht
  show (let (answer, inner) := PcdTransceiver.transceive i frame
        Extending.next ⟨inner, hwCrc, plan, made + 1, none⟩ (plan made) answer) = _
  rw [h]

/-- A call that acknowledges the request that stands. -/
theorem transceive_acknowledged {w : Block} {ws : List Block} {answer : Except E FrameVec}
    (ht : t.pending = some (w, ws, answer)) (hack : acknowledges t.hwCrc frame w = true) :
    PcdTransceiver.transceive t frame = t.next ws answer := by
  obtain ⟨i, hwCrc, plan, made, pending⟩ := t
  cases ht
  show (if acknowledges hwCrc frame w then _ else _) = _
  rw [if_pos hack]

end Calls

end Extending

/-! ## What the exchange adds up to

  What the requests and the answers cost, and when the row of requests ends: computed along the
  answers, with the handler of the exchange without requests. -/

/-- Frames, S(WTX) in all, and S(WTX) since the exchange was last carried forward: what the requests
    have cost, counter by counter, beyond what the exchange costs without them. -/
structure Spent where
  frames : Nat := 0
  total : Nat := 0
  row : Nat := 0

namespace Spent

/-- `n` requests granted. -/
def ask (c : Spent) (n : Nat) : Spent := ⟨c.frames + n, c.total + n, c.row + n⟩

/-- The card's own answer taken. -/
def count (c : Spent) (b : Block) : Spent :=
  let more := if b.isWtx then 1 else 0
  ⟨c.frames + 1, c.total + more, c.row + more⟩

/-- The budgets hold: what was spent is no more than the limits grant. -/
structure Within (c : Spent) (limits : Limits) : Prop where
  frames : c.frames ≤ limits.maxFrames
  total : c.total ≤ limits.maxTotalWtx
  row : c.row ≤ limits.maxConsecutiveWtx

/-- Staying within the limits is four comparisons. -/
instance (c : Spent) (limits : Limits) : Decidable (c.Within limits) :=
  decidable_of_iff (c.frames ≤ limits.maxFrames ∧ c.total ≤ limits.maxTotalWtx ∧
    c.row ≤ limits.maxConsecutiveWtx) ⟨fun ⟨h1, h2, h3⟩ => ⟨h1, h2, h3⟩, fun ⟨h1, h2, h3⟩ => ⟨h1, h2, h3⟩⟩

/-- No request, no cost. -/
@[simp] theorem ask_zero (c : Spent) : c.ask 0 = c := rfl

/-- Requests are counted one at a time. -/
theorem ask_succ (c : Spent) (n : Nat) : c.ask (n + 1) = (c.ask 1).ask n := by
  simp only [ask, mk.injEq]
  omega

/-- A block that asks for no time is one frame and nothing else. -/
theorem count_of_not_wtx {c : Spent} {b : Block} (h : b.isWtx = false) :
    c.count b = { c with frames := c.frames + 1 } := by
  simp [count, h]

/-- A request for time is one frame, one of the total and one of the row. -/
theorem count_of_wtx {c : Spent} {b : Block} (h : b.isWtx = true) :
    c.count b = { c with frames := c.frames + 1, total := c.total + 1, row := c.row + 1 } := by
  simp [count, h]

/-- Where a request, more of them and the answer are within the limits, the request is. -/
theorem Within.of_ask {c : Spent} {n : Nat} {b : Block} {limits : Limits}
    (h : ((c.ask (n + 1)).count b).Within limits) : (c.ask 1).Within limits := by
  have h1 := h.frames
  have h2 := h.total
  have h3 := h.row
  simp only [count, ask] at h1 h2 h3
  exact ⟨by simp only [ask]; omega, by simp only [ask]; omega, by simp only [ask]; omega⟩

variable [Build]

/-- The answer taken in the state `h`, where it may carry the exchange forward. -/
def after (c : Spent) (h : ProtocolHandler) (b : Block) : Spent :=
  if Event.forward (Run.event receive h b) then { c.count b with row := 0 } else c.count b

/-- A block that moves the exchange forward ends the row. -/
theorem after_of_forward {c : Spent} {h : ProtocolHandler} {b : Block}
    (hf : Event.forward (Run.event receive h b) = true) :
    c.after h b = { c.count b with row := 0 } := by
  simp only [after, hf, if_true]

/-- A block that does not leaves the row standing. -/
theorem after_of_stay {c : Spent} {h : ProtocolHandler} {b : Block}
    (hf : Event.forward (Run.event receive h b) = false) : c.after h b = c.count b := by
  simp only [after, hf, Bool.false_eq_true, if_false]

end Spent

/-- The answers of the inner card, each with the requests before it, stay within the limits of the
    handler that takes them. -/
def WithinLimits [Build] (h : ProtocolHandler) (c : Spent) : List (List Block × Block) → Prop
  | [] => True
  | (ws, b) :: rest =>
    ((c.ask ws.length).count b).Within h.limits ∧
      WithinLimits (receive h b).2 ((c.ask ws.length).after h b) rest

/-- The condition is computed along the plan, each answer at the handler the ones before it
    leave. -/
instance decidableWithinLimits [Build] : ∀ (h : ProtocolHandler) (c : Spent)
    (answers : List (List Block × Block)), Decidable (WithinLimits h c answers)
  | _, _, [] => isTrue trivial
  | h, c, (ws, b) :: rest =>
    have := decidableWithinLimits (receive h b).2 ((c.ask ws.length).after h b) rest
    inferInstanceAs (Decidable (_ ∧ _))

namespace ProtocolHandler

/-! ## Requests and a handler

  One update of the handler after the other, on both sides. -/

/-- A request that a card may make: an S(WTX) with a WTXM from 1 to 59.  Others are refused by
    `check_wtx` whatever the budget, so the plan of a card has none. -/
structure IsRequest (w : Block) : Prop where
  wellFormed : w.WellFormed
  isWtx : w.isWtx = true
  valid : validWtx w.payload = true

/-- A request is as short as an S-Block gets. -/
theorem IsRequest.length_le {w : Block} (hw : IsRequest w) : w.bytes.length ≤ 3 := by
  have ht : w.blockType = .sBlock ∧ w.pcb.sSubtype = some .wtx := by
    have h := hw.isWtx
    simpa [Block.isWtx] using h
  have hnad : w.nad.isSome = false := by
    cases hn : w.nad.isSome with
    | false => rfl
    | true =>
      have hi := (hw.wellFormed.nad hn).1
      rw [ht.1] at hi
      cases hi
  obtain ⟨inf, hinf, -⟩ := (validWtx_iff w.payload).mp hw.valid
  have hlen := w.length_bytes
  rw [hnad, hinf] at hlen
  simp only [List.length_singleton, Bool.false_eq_true, if_false] at hlen
  split at hlen <;> omega

/-- The answer to a request fits any frame. -/
theorem IsRequest.response_fits {w : Block} (hw : IsRequest w) (h : ProtocolHandler) :
    (h.buildWtxResponse w.wire).bytes.length + 2 ≤ 256 := by
  obtain ⟨inf, hinf, -⟩ := (validWtx_iff w.payload).mp hw.valid
  have hlen := h.length_buildWtxResponse w.wire
  have hprologue := h.prologueLen_le
  rw [Block.wire_payload, hinf] at hlen
  simp only [List.length_singleton] at hlen
  omega

/-- The handler of the exchange with requests, beside the one without: the same session, with
    counters that stay below what is spent. -/
structure Lifted (h h' : ProtocolHandler) (c : Spent) : Prop where
  role : h'.role = h.role
  cid : h'.cid = h.cid
  blockNumber : h'.blockNumber = h.blockNumber
  chain : h'.chain = h.chain
  limits : h'.limits = h.limits
  retransmissions : h'.counters.retransmissions = h.counters.retransmissions
  frames : h'.counters.frames ≤ c.frames
  total : h'.counters.totalWtx ≤ c.total
  row : h'.counters.consecutiveWtx ≤ c.row

section Lifted

variable [Build] {h h' : ProtocolHandler} {c : Spent}

omit [Build] in
/-- Both handlers build the same blocks. -/
theorem Lifted.addCid (hl : Lifted h h' c) (b : Block) : h'.addCid b = h.addCid b := by
  simp only [ProtocolHandler.addCid, hl.cid]

omit [Build] in
/-- The requests change no counter that a block is made of, so the next I-Block is the same. -/
theorem Lifted.iblockOf (hl : Lifted h h' c) (payload : List UInt8) (chaining : Bool) :
    h'.iblockOf payload chaining = h.iblockOf payload chaining := by
  simp only [ProtocolHandler.iblockOf, hl.addCid, hl.blockNumber]

omit [Build] in
/-- The next R(ACK) is the same. -/
theorem Lifted.buildRack (hl : Lifted h h' c) : h'.buildRack = h.buildRack := by
  simp only [ProtocolHandler.buildRack, hl.addCid, hl.blockNumber]

omit [Build] in
/-- The next R(NAK) is the same. -/
theorem Lifted.buildRnak (hl : Lifted h h' c) : h'.buildRnak = h.buildRnak := by
  simp only [ProtocolHandler.buildRnak, hl.addCid, hl.blockNumber]

omit [Build] in
/-- Every S-Block is the same. -/
theorem Lifted.buildSblock (hl : Lifted h h' c) (sub : SBlockSubtype) :
    h'.buildSblock sub = h.buildSblock sub := by
  simp only [ProtocolHandler.buildSblock, hl.addCid]

omit [Build] in
/-- Every granted request is answered alike. -/
theorem Lifted.buildWtxResponse (hl : Lifted h h' c) (b : Block) :
    h'.buildWtxResponse b = h.buildWtxResponse b := by
  simp only [ProtocolHandler.buildWtxResponse, hl.addCid]

/-! What one update does to both. -/

omit [Build] in
/-- Both sides count a frame. -/
theorem Lifted.counted (hl : Lifted h h' c) :
    Lifted h.counted h'.counted { c with frames := c.frames + 1 } := by
  have hs := saturatingIncr_le u16Max h'.counters.frames
  have hf := hl.frames
  refine ⟨hl.role, hl.cid, hl.blockNumber, hl.chain, hl.limits, hl.retransmissions, ?_, hl.total,
    hl.row⟩
  show saturatingIncr u16Max h'.counters.frames ≤ c.frames + 1
  omega

omit [Build] in
/-- Both sides count a repeat. -/
theorem Lifted.again (hl : Lifted h h' c) : Lifted h.again h'.again c := by
  refine ⟨hl.role, hl.cid, hl.blockNumber, hl.chain, hl.limits, ?_, hl.frames, hl.total, hl.row⟩
  show saturatingIncr u8Max h'.counters.retransmissions =
    saturatingIncr u8Max h.counters.retransmissions
  rw [hl.retransmissions]

omit [Build] in
/-- Both sides grant a request: the difference is what it was. -/
theorem Lifted.waited (hl : Lifted h h' c) :
    Lifted h.waited h'.waited { c with total := c.total + 1, row := c.row + 1 } := by
  have hs := saturatingIncr_le u16Max h'.counters.totalWtx
  have hs' := saturatingIncr_le u8Max h'.counters.consecutiveWtx
  have ht := hl.total
  have hr := hl.row
  refine ⟨hl.role, hl.cid, hl.blockNumber, hl.chain, hl.limits, hl.retransmissions, hl.frames,
    ?_, ?_⟩
  · show saturatingIncr u16Max h'.counters.totalWtx ≤ c.total + 1
    omega
  · show saturatingIncr u8Max h'.counters.consecutiveWtx ≤ c.row + 1
    omega

omit [Build] in
/-- Both sides move forward, and the row of requests ends on both. -/
theorem Lifted.advanced (hl : Lifted h h' c) :
    Lifted h.advanced h'.advanced { c with row := 0 } := by
  refine ⟨hl.role, hl.cid, ?_, hl.chain, hl.limits, rfl, hl.frames, hl.total, Nat.le_refl _⟩
  simp only [advanced_blockNumber, hl.blockNumber]

omit [Build] in
/-- Both sides take a payload. -/
theorem Lifted.extended (hl : Lifted h h' c) (payload : List UInt8) :
    Lifted (h.extended payload) (h'.extended payload) c := by
  refine ⟨hl.role, hl.cid, hl.blockNumber, ?_, hl.limits, hl.retransmissions, hl.frames, hl.total,
    hl.row⟩
  simp only [extended_chain, hl.chain]

omit [Build] in
/-- Both sides drop their chain. -/
theorem Lifted.dropChain (hl : Lifted h h' c) : Lifted h.dropChain h'.dropChain c :=
  ⟨hl.role, hl.cid, hl.blockNumber, rfl, hl.limits, hl.retransmissions, hl.frames, hl.total,
    hl.row⟩

omit [Build] in
/-- Both sides go back to the start, and the requests are forgotten. -/
theorem Lifted.reset (hl : Lifted h h' c) : Lifted h.reset h'.reset c := by
  refine ⟨hl.role, hl.cid, ?_, rfl, hl.limits, rfl, Nat.zero_le _, Nat.zero_le _, Nat.zero_le _⟩
  simp only [reset_blockNumber, hl.role]

/-! And what is within the budgets. -/

omit [Build] in
/-- A frame that the plan has room for passes the frame limit. -/
theorem Lifted.frameOk (hl : Lifted h h' c) (hin : c.frames + 1 ≤ h.limits.maxFrames) :
    h'.FrameOk := by
  rw [FrameOk, hl.limits]
  exact Nat.le_trans hl.counted.frames hin

omit [Build] in
/-- Repeats are counted apart from the requests: what passes without them passes with them. -/
theorem Lifted.againOk (hl : Lifted h h' c) (hg : h.AgainOk) : h'.AgainOk := by
  rw [AgainOk, hl.again.retransmissions, hl.limits]
  exact hg

omit [Build] in
/-- A request that the plan has room for passes the limit in a row. -/
theorem Lifted.runOk (hl : Lifted h h' c) (hin : c.row + 1 ≤ h.limits.maxConsecutiveWtx) :
    h'.RunOk := by
  rw [RunOk, hl.limits]
  exact Nat.le_trans hl.waited.row hin

omit [Build] in
/-- It passes the limit on the total as well. -/
theorem Lifted.totalOk (hl : Lifted h h' c) (hin : c.total + 1 ≤ h.limits.maxTotalWtx) :
    h'.TotalOk := by
  rw [TotalOk, hl.limits]
  exact Nat.le_trans hl.waited.total hin

/-- **A request is granted**, and moves nothing but the counters. -/
theorem Lifted.request (hl : Lifted h h' c) {w : Block} (hw : IsRequest w)
    (hin : (c.ask 1).Within h.limits) :
    ∃ k', receive h' w.wire = (.ok (.reply (h'.buildWtxResponse w.wire)), k') ∧
      Lifted h k' (c.ask 1) := by
  have ht : w.blockType = .sBlock ∧ w.pcb.sSubtype = some .wtx := by
    have h := hw.isWtx
    simpa [Block.isWtx] using h
  refine ⟨_, Received.eq (.wtx (hl.frameOk hin.frames) ht.1 ht.2 hw.valid (hl.runOk hin.row)
    (hl.totalOk hin.total)), ?_⟩
  exact ⟨hl.role, hl.cid, hl.blockNumber, hl.chain, hl.limits, hl.retransmissions,
    hl.counted.frames, hl.waited.total, hl.waited.row⟩

/-- A block that is accepted carries the exchange forward if it brings a payload, or is the R(ACK)
    of the last block. -/
theorem forward_receive {b : Block} {a : Action} {k : ProtocolHandler}
    (ha : receive h b = (.ok a, k)) : Event.forward (Run.event ProtocolHandler.receive h b) =
      ((decide (b.blockType = .iBlock) && !h.repeatsLastIblock b) || decide (a = .chainingAck)) := by
  simp only [Event.forward, Event.takesIn, Event.accepted, Run.event_output, Run.event_input,
    Run.event_before, ha, Res.isOk, Res.ok.injEq, Bool.true_and]
  rfl

/-- **What the one handler accepts the other one accepts as well**, with the same action.  The other
    one has counted more, but what it has counted is within its limits. -/
theorem Lifted.receive (hl : Lifted h h' c) {b : Block} {a : Action} {k : ProtocolHandler}
    (ha : receive h b = (.ok a, k)) (hin : (c.count b).Within h.limits) :
    ∃ k', ProtocolHandler.receive h' b = (.ok a, k') ∧ Lifted k k' (c.after h b) := by
  have hf' : h'.FrameOk := hl.frameOk hin.frames
  have hrep : h'.repeatsLastIblock b = h.repeatsLastIblock b := by
    simp only [repeatsLastIblock, hl.role, hl.blockNumber]
  have hmean : h'.rMeaning b = h.rMeaning b := by
    simp only [rMeaning, hl.role, hl.blockNumber]
  have hfw := forward_receive ha
  have hr := processReceived_received h b
  rw [show (processReceived b).run h = _ from ha] at hr
  cases hr with
  | repeated hf ht hrp hg =>
    -- a chunk sent again: one retransmission more on both sides
    refine ⟨_, (Received.eq (.repeated hf' ht (by rw [hrep]; exact hrp) (hl.againOk hg))).trans
      (by rw [hl.buildRack]), ?_⟩
    rw [Spent.after_of_stay (by rw [hfw, hrp]; simp),
      Spent.count_of_not_wtx (by simp [Block.isWtx, ht])]
    exact hl.counted.again
  | chained hf ht hrp hle hb hc =>
    -- a new block: what is counted in a row starts over on both sides
    refine ⟨_, (Received.eq (.chained hf' ht (by rw [hrep]; exact hrp)
      (by rw [hl.limits, hl.chain]; exact hle) (by rw [hl.chain]; exact hb) hc)).trans
      (by rw [hl.advanced.buildRack]), ?_⟩
    rw [Spent.after_of_forward (by rw [hfw]; simp [ht, hrp]),
      Spent.count_of_not_wtx (by simp [Block.isWtx, ht])]
    exact (hl.counted.extended b.payload).advanced
  | complete hf ht hrp hle hb hc =>
    refine ⟨_, (Received.eq (.complete hf' ht (by rw [hrep]; exact hrp)
      (by rw [hl.limits, hl.chain]; exact hle) (by rw [hl.chain]; exact hb) hc)).trans
      (by rw [hl.chain]), ?_⟩
    rw [Spent.after_of_forward (by rw [hfw]; simp [ht, hrp]),
      Spent.count_of_not_wtx (by simp [Block.isWtx, ht])]
    exact hl.counted.advanced.dropChain
  | release hf ht hm =>
    refine ⟨_, Received.eq (.release hf' ht (by rw [hmean]; exact hm)), ?_⟩
    rw [Spent.after_of_forward (by rw [hfw]; simp),
      Spent.count_of_not_wtx (by simp [Block.isWtx, ht])]
    exact hl.counted.advanced
  | repeatLast hf ht hm hg =>
    refine ⟨_, Received.eq (.repeatLast hf' ht (by rw [hmean]; exact hm) (hl.againOk hg)), ?_⟩
    rw [Spent.after_of_stay (by rw [hfw, ht]; simp),
      Spent.count_of_not_wtx (by simp [Block.isWtx, ht])]
    exact hl.counted.again
  | presence hf ht hm =>
    refine ⟨_, (Received.eq (.presence hf' ht (by rw [hmean]; exact hm))).trans
      (by rw [hl.buildRack]), ?_⟩
    rw [Spent.after_of_stay (by rw [hfw, ht]; simp),
      Spent.count_of_not_wtx (by simp [Block.isWtx, ht])]
    exact hl.counted
  | wtx hf ht hs hv hro hto =>
    -- the one block that `count` counts, and the room for it is in `hin`
    have hcount := Spent.count_of_wtx (c := c) (b := b) (by simp [Block.isWtx, ht, hs])
    rw [hcount] at hin
    refine ⟨_, (Received.eq (.wtx hf' ht hs hv (hl.runOk hin.row) (hl.totalOk hin.total))).trans
      (by rw [hl.buildWtxResponse]), ?_⟩
    rw [Spent.after_of_stay (by rw [hfw, ht]; simp), hcount]
    exact hl.counted.waited
  | deselect hf ht hs =>
    -- S(DESELECT) starts everything over
    refine ⟨_, (Received.eq (.deselect hf' ht hs)).trans (by rw [hl.buildSblock]), ?_⟩
    rw [Spent.after_of_stay (by rw [hfw, ht]; simp),
      Spent.count_of_not_wtx (by simp [Block.isWtx, hs])]
    exact hl.counted.reset

end Lifted

end ProtocolHandler

end Iso14443
