/-
  What the calls of a reader do, said once.

  The reader is the mirror image of `Iso14443.PiccStep`: where a card's loop is resumed by a frame,
  a reader's loop calls its transceiver.  Later modules prove four different things about the two
  loops of `Pcd::exchange` (that they end within the budget, that they agree with the card, that
  waiting time extensions do not show in them, that they assemble what they heard), and all by what
  one round does.

  1. **Equations.**  `run_transceiveBlock`: one block out, one answer in, `received` what is made
     of the answer.  `transceiveBlock_cases` says that it ends.
  2. **The loops, one round at a time.**  `SendRound` and `CollectRound` list how a round ends: in
     what comes out of the loop, or in the state of the next round, with the calls it made.
     `sendLoop_round` and `collectResponse_round` say that these are all.  `exchange_ok_iff` takes
     an exchange apart into its two loops.
  3. **R-Blocks** in the place of a response end the exchange, in an error or in one more round.
  4. **The log.**  `Tally` is a transceiver that keeps its calls, the frames it was given with the
     answers they got.  What is said about the calls of an exchange is said about this log.
     `Calls` is what `transceive_block`, the retries and `transceive_with_recovery` do to a
     session: they use the transceiver, at most once, twice or three times, and nothing else
     changes.
-/
import Iso14443.Pcd
import Iso14443.ProtocolRun

namespace Iso14443

namespace Pcd

variable {T E α : Type}

/-! ## Equations

  What a method comes to where the result of its first step is known. -/

/-- A pure step of the reader leaves the reader alone. -/
@[simp] theorem run_lift (x : Res TypeAError α) (s : Pcd T) :
    (lift x : Act (Pcd T) (PcdError E) α).run s = (x.mapErr .protocol, s) := rfl

/-- A step of the protocol handler, as the reader runs it. -/
theorem run_onHandler (m : Act ProtocolHandler TypeAError α) (s : Pcd T) :
    (onHandler m : Act (Pcd T) (PcdError E) α).run s =
      ((m.run s.handler).1.mapErr .protocol, { s with handler := (m.run s.handler).2 }) := rfl

/-- A block given to the handler. -/
theorem run_onHandler_receive [Build] (block : Block) (s : Pcd T) :
    (onHandler (ProtocolHandler.processReceived block) : Act (Pcd T) (PcdError E) Action).run s =
      ((s.handler.receive block).1.mapErr .protocol,
        { s with handler := (s.handler.receive block).2 }) := rfl

section Transceive

variable [Build] [PcdTransceiver T E]

/-- The block in an answer of the transceiver. -/
def received (s : Pcd T) (answer : Except E FrameVec) : Res (PcdError E) Block := do
  let raw ← ofExcept answer
  (s.parseBlockResponse raw).mapErr .protocol

/-- The session with the transceiver in its next state. -/
def withTransceiver (s : Pcd T) (transceiver : T) : Pcd T := { s with transceiver }

omit [PcdTransceiver T E] in
/-- Reading an answer never panics. -/
theorem parseBlockResponse_returns (s : Pcd T) (raw : FrameVec) :
    (s.parseBlockResponse raw).Returns := by
  unfold parseBlockResponse
  split
  · split
    · trivial
    · exact Block.fromCrcVerified_returns raw
  · split
    · trivial
    · exact Block.tryFrom_returns raw

omit [PcdTransceiver T E] in
/-- Nor does what is made of it. -/
theorem received_returns (s : Pcd T) (answer : Except E FrameVec) :
    (s.received answer).Returns := by
  cases answer with
  | error e => trivial
  | ok raw => exact Res.Returns.mapErr (s.parseBlockResponse_returns raw)

/-- **One block out, one block in.** -/
theorem run_transceiveBlock {block : Block} {s : Pcd T} {frame : Frame}
    (h : frameFor s.hwCrc block = .ok frame) : (transceiveBlock block).run s =
      (s.received (PcdTransceiver.transceive s.transceiver frame).1,
        s.withTransceiver (PcdTransceiver.transceive s.transceiver frame).2) := by
  obtain ⟨data, hdata, hframe⟩ := Res.bind_eq_ok.mp h
  simp only [transceiveBlock, Act.run_bind, run_lift, hdata, Res.mapErr_ok, Act.run_get, hframe]
  simp only [transceive, received]
  rcases PcdTransceiver.transceive s.transceiver frame with ⟨raw | e, t⟩ <;> rfl

/-- A block that makes no frame leaves everything as it is. -/
theorem run_transceiveBlock_err {block : Block} {s : Pcd T}
    (h : ∀ frame, frameFor s.hwCrc block ≠ .ok frame) :
    ∃ e, (transceiveBlock block : Act (Pcd T) (PcdError E) Block).run s = (.err (.protocol e), s) := by
  have hret := frameFor_returns s.hwCrc block
  cases hdata : block.toBytesWithoutCrc with
  | ok data =>
    simp only [frameFor, hdata, Res.ok_bind] at h hret
    cases hframe : frameOf s.hwCrc data with
    | ok frame => exact absurd hframe (h frame)
    | err e =>
      refine ⟨e, ?_⟩
      simp only [transceiveBlock, Act.run_bind, run_lift, hdata, Res.mapErr_ok, Act.run_get, hframe,
        Res.mapErr_err]
    | panic => rw [hframe] at hret; exact hret.elim
    | outOfFuel => rw [hframe] at hret; exact hret.elim
  | err e =>
    refine ⟨e, ?_⟩
    simp only [transceiveBlock, Act.run_bind, run_lift, hdata, Res.mapErr_err]
  | panic => simp only [frameFor, hdata] at hret; exact hret.elim
  | outOfFuel => simp only [frameFor, hdata] at hret; exact hret.elim

/-- **A call ends**, with a block or an error. -/
theorem transceiveBlock_cases (block : Block) (s : Pcd T) :
    (∃ b s', (transceiveBlock block : Act (Pcd T) (PcdError E) Block).run s = (.ok b, s')) ∨
      ∃ e s', (transceiveBlock block : Act (Pcd T) (PcdError E) Block).run s = (.err e, s') := by
  by_cases h : ∃ frame, frameFor s.hwCrc block = .ok frame
  · obtain ⟨frame, hframe⟩ := h
    have hret := received_returns s (PcdTransceiver.transceive (E := E) s.transceiver frame).1
    rw [run_transceiveBlock hframe]
    cases hrec : s.received (PcdTransceiver.transceive s.transceiver frame).1 with
    | ok b => exact Or.inl ⟨b, _, rfl⟩
    | err e => exact Or.inr ⟨e, _, rfl⟩
    | panic => rw [hrec] at hret; exact hret.elim
    | outOfFuel => rw [hrec] at hret; exact hret.elim
  · obtain ⟨e, he⟩ := run_transceiveBlock_err (T := T) (E := E) (not_exists.mp h)
    exact Or.inr ⟨_, s, he⟩

omit [PcdTransceiver T E] in
/-- **An answer that carries a block within the frame size is read as that block.** -/
theorem received_raw {s : Pcd T} {b : Block} (hwf : b.WellFormed)
    (hlen : b.bytes.length + 2 ≤ s.fsd) (h256 : b.bytes.length ≤ 256) :
    s.received (.ok (b.raw s.hwCrc) : Except E FrameVec) = .ok b.wire := by
  have hp : Fits frameCap b.payload.length := by
    have := b.length_bytes
    exact fits_frameCap (by omega)
  show (s.parseBlockResponse (b.raw s.hwCrc)).mapErr _ = _
  cases hcrc : s.hwCrc with
  | true =>
    rw [parseBlockResponse, if_pos hcrc, Block.raw, closed, if_pos rfl, if_neg (Nat.not_lt.mpr hlen),
      Block.fromCrcVerified_bytes hwf hp]
    rfl
  | false =>
    have hle : ¬ (withCrc b.bytes).length > s.fsd := by
      rw [length_withCrc]; omega
    have hraw : b.raw false = withCrc b.bytes := rfl
    rw [parseBlockResponse, if_neg (by simp [hcrc]), hraw, if_neg hle,
      Block.tryFrom_withCrc_bytes hwf hp]
    rfl

end Transceive

/-! ## The two loops, one round at a time

  Every proof about `exchange` is an induction over one of these, and has the cases listed here. -/

/-- The payload bytes that fit one I-Block. -/
def maxInf (s : Pcd T) : Nat := s.fsc - (3 + if s.handler.cid.isSome then 1 else 0)

/-- The chunk size that `exchange` computes from an empty I-Block. -/
theorem maxInf_eq (s : Pcd T) : s.fsc - overheadOf (s.handler.iblockOf [] false) = s.maxInf := by
  have hcid : (s.handler.iblockOf [] false).cid.isSome = s.handler.cid.isSome := by
    simp only [ProtocolHandler.iblockOf, ProtocolHandler.addCid, Block.withPayload]
    cases s.handler.cid <;> rfl
  rw [overheadOf, hcid, maxInf]
  congr 1
  omega

/-- The chunk of a command that starts at `offset`. -/
def chunkAt (apdu : List UInt8) (maxInf offset : Nat) : List UInt8 := (apdu.drop offset).take maxInf

/-- The slice that the send loop takes is a chunk. -/
theorem chunkAt_eq (apdu : List UInt8) (maxInf offset : Nat) :
    (apdu.take (min (offset + maxInf) apdu.length)).drop offset = chunkAt apdu maxInf offset := by
  rw [List.drop_take, chunkAt, List.take_eq_take_iff, List.length_drop]
  omega

/-- The chunks one after the other. -/
theorem take_append_chunkAt (data : List UInt8) (offset inf : Nat) :
    data.take offset ++ chunkAt data inf offset = data.take (offset + inf) := by
  rw [chunkAt, List.take_add]

section Rounds

variable [Build] [PcdTransceiver T E]

/-- `exchange`, as its two loops. -/
theorem run_exchange (fuel : Nat) (apdu : List UInt8) (s : Pcd T) (hinf : s.maxInf ≠ 0) :
    (exchange fuel apdu : Act (Pcd T) (PcdError E) ChainVec).run s = (do
      let lastResp ← sendLoop apdu s.maxInf fuel 0 none
      let first ← lift (Res.okOr .other lastResp)
      collectResponse fuel first : Act (Pcd T) (PcdError E) ChainVec).run
        { s with handler := s.handler.beginExchange } := by
  rw [exchange, Act.run_modify_bind, Act.run_get_bind, Act.run_bind, run_lift,
    ProtocolHandler.buildIblock_of_fits _ (fits_frameCap (by simp))]
  dsimp only [Res.mapErr_ok]
  have hmax : s.fsc - overheadOf (s.handler.beginExchange.iblockOf [] false) = s.maxInf :=
    maxInf_eq ({ s with handler := s.handler.beginExchange } : Pcd T)
  rw [hmax, if_neg hinf]

/-- Where no payload fits a block, it fails at once. -/
theorem run_exchange_zero (fuel : Nat) (apdu : List UInt8) (s : Pcd T) (hinf : s.maxInf = 0) :
    (exchange fuel apdu : Act (Pcd T) (PcdError E) ChainVec).run s =
      (.err (.protocol .other), { s with handler := s.handler.beginExchange }) := by
  rw [exchange, Act.run_modify_bind, Act.run_get_bind, Act.run_bind, run_lift,
    ProtocolHandler.buildIblock_of_fits _ (fits_frameCap (by simp))]
  dsimp only [Res.mapErr_ok]
  have hmax : s.fsc - overheadOf (s.handler.beginExchange.iblockOf [] false) = s.maxInf :=
    maxInf_eq ({ s with handler := s.handler.beginExchange } : Pcd T)
  rw [hmax, if_pos hinf]
  rfl

/-- **An exchange that succeeds** is a send loop that brings a block, and a receive loop that makes the
    response of it. -/
theorem exchange_ok_iff {fuel : Nat} {apdu : List UInt8} {s s' : Pcd T} {data : ChainVec}
    (hinf : s.maxInf ≠ 0) : (exchange fuel apdu : Act (Pcd T) (PcdError E) ChainVec).run s =
      (.ok data, s') ↔ ∃ b s1,
        (sendLoop apdu s.maxInf fuel 0 none : Act (Pcd T) (PcdError E) _).run
            { s with handler := s.handler.beginExchange } = (.ok (some b), s1) ∧
          (collectResponse fuel b : Act (Pcd T) (PcdError E) ChainVec).run s1 = (.ok data, s') := by
  rw [run_exchange fuel apdu s hinf]
  constructor
  · intro hrun
    obtain ⟨last, s1, hsend, hrest⟩ := Act.run_bind_eq_ok.mp hrun
    cases last with
    | none => cases hrest
    | some b =>
      obtain ⟨b', s2, hlift, hcollect⟩ := Act.run_bind_eq_ok.mp hrest
      cases hlift
      exact ⟨b, s1, hsend, hcollect⟩
  · rintro ⟨b, s1, hsend, hcollect⟩
    exact (Act.run_bind_ok hsend _).trans hcollect

/-- Past its end the send loop gives back what it has. -/
theorem sendLoop_done {apdu : List UInt8} {maxInf fuel offset : Nat} {last : Option Block}
    (h : apdu.length ≤ offset) :
    (sendLoop apdu maxInf fuel offset last : Act (Pcd T) (PcdError E) _) = pure last := by
  cases fuel <;> rw [sendLoop, if_neg (Nat.not_lt.mpr h)]

/-- A round of the send loop with the last chunk. -/
theorem run_sendLoop_last {apdu : List UInt8} {maxInf offset : Nat} (fuel : Nat)
    (last : Option Block) (s : Pcd T) (hoff : offset < apdu.length)
    (hend : apdu.length ≤ offset + maxInf) (hfits : maxInf ≤ 256) :
    (sendLoop apdu maxInf (fuel + 1) offset last : Act (Pcd T) (PcdError E) _).run s = (do
      let resp ← transceiveBlock (s.handler.iblockOf (chunkAt apdu maxInf offset) false)
      pure (some resp) : Act (Pcd T) (PcdError E) _).run s := by
  have hchunk : Fits frameCap (chunkAt apdu maxInf offset).length :=
    fits_frameCap (by simp only [chunkAt, List.length_take]; omega)
  have hstop : min (offset + maxInf) apdu.length = apdu.length := by omega
  rw [sendLoop, if_pos hoff]
  simp only [Act.run_get_bind]
  rw [Act.run_bind, run_lift, Res.slice_of_le (by omega) (by omega), chunkAt_eq]
  simp only [Res.mapErr_ok]
  rw [Act.run_bind, run_lift, hstop, decide_eq_false (Nat.lt_irrefl _),
    ProtocolHandler.buildIblock_of_fits _ hchunk]
  simp only [Res.mapErr_ok, Bool.false_eq_true, if_false, sendLoop_done (Nat.le_refl _)]

/-- A round of the send loop with another chunk to come. -/
theorem run_sendLoop_chained {apdu : List UInt8} {maxInf offset : Nat} (fuel : Nat)
    (last : Option Block) (s : Pcd T) (hmore : offset + maxInf < apdu.length)
    (hfits : maxInf ≤ 256) :
    (sendLoop apdu maxInf (fuel + 1) offset last : Act (Pcd T) (PcdError E) _).run s = (do
      let resp ← transceiveBlock (s.handler.iblockOf (chunkAt apdu maxInf offset) true)
      match ← onHandler (ProtocolHandler.processReceived resp) with
      | .chainingAck => sendLoop apdu maxInf fuel (offset + maxInf) last
      | .chainingRetransmit => sendLoop apdu maxInf fuel offset last
      | _ => Act.throw (.protocol .other) : Act (Pcd T) (PcdError E) _).run s := by
  have hchunk : Fits frameCap (chunkAt apdu maxInf offset).length :=
    fits_frameCap (by simp only [chunkAt, List.length_take]; omega)
  have hstop : min (offset + maxInf) apdu.length = offset + maxInf := by omega
  rw [sendLoop, if_pos (by omega)]
  simp only [Act.run_get_bind]
  rw [Act.run_bind, run_lift, Res.slice_of_le (by omega) (by omega), chunkAt_eq]
  simp only [Res.mapErr_ok]
  rw [Act.run_bind, run_lift, hstop, decide_eq_true hmore,
    ProtocolHandler.buildIblock_of_fits _ hchunk]
  rfl

/-- Where the send loop goes on after an action of the handler, if it does. -/
def nextOffset (maxInf offset : Nat) : Action → Option Nat
  | .chainingAck => some (offset + maxInf)
  | .chainingRetransmit => some offset
  | _ => none

/-- A round of the send loop that brought a block, by what the handler makes of it. -/
theorem run_sendLoop_round {apdu : List UInt8} {maxInf offset : Nat} (fuel : Nat)
    {last : Option Block} {s s' : Pcd T} (hmore : offset + maxInf < apdu.length)
    (hfits : maxInf ≤ 256) {resp : Block} {a : Action} {h : ProtocolHandler}
    (hcall : (transceiveBlock (s.handler.iblockOf (chunkAt apdu maxInf offset) true)).run s =
      (.ok resp, s')) (hr : s'.handler.receive resp = (.ok a, h)) :
    (sendLoop apdu maxInf (fuel + 1) offset last : Act (Pcd T) (PcdError E) _).run s =
      match nextOffset maxInf offset a with
      | some next => (sendLoop apdu maxInf fuel next last).run { s' with handler := h }
      | none => (.err (.protocol .other), { s' with handler := h }) := by
  have hrun : (onHandler (ProtocolHandler.processReceived resp) :
      Act (Pcd T) (PcdError E) Action).run s' = (.ok a, { s' with handler := h }) := by
    rw [run_onHandler_receive, hr]
    rfl
  rw [run_sendLoop_chained fuel last s hmore hfits, Act.run_bind_ok hcall, Act.run_bind_ok hrun]
  cases a <;> rfl

/-- A round of the send loop with another chunk to come, where the loop does not fail later on. -/
theorem sendLoop_round_ok {apdu : List UInt8} {maxInf offset fuel : Nat} {last : Option Block}
    {s s'' : Pcd T} (hmore : offset + maxInf < apdu.length) (hfits : maxInf ≤ 256) {v : Option Block}
    (hrun : (sendLoop apdu maxInf (fuel + 1) offset last : Act (Pcd T) (PcdError E) _).run s =
      (.ok v, s'')) :
    ∃ resp s' a h next, (transceiveBlock (s.handler.iblockOf (chunkAt apdu maxInf offset) true) :
        Act (Pcd T) (PcdError E) _).run s = (.ok resp, s') ∧
      s'.handler.receive resp = (.ok a, h) ∧ nextOffset maxInf offset a = some next ∧
      (sendLoop apdu maxInf fuel next last : Act (Pcd T) (PcdError E) _).run
        { s' with handler := h } = (.ok v, s'') := by
  have hchained := hrun
  rw [run_sendLoop_chained fuel last s hmore hfits] at hchained
  obtain ⟨resp, s', hcall, hchained⟩ := Act.run_bind_eq_ok.mp hchained
  rcases s'.handler.receive_cases resp with ⟨a, h, hr⟩ | ⟨e, h, hr⟩
  · rw [run_sendLoop_round fuel hmore hfits hcall hr] at hrun
    cases hnext : nextOffset maxInf offset a with
    | none => rw [hnext] at hrun; cases hrun
    | some next =>
      rw [hnext] at hrun
      exact ⟨resp, s', a, h, next, hcall, hr, hnext, hrun⟩
  · rw [Act.run_bind, run_onHandler_receive, hr] at hchained
    cases hchained

/-- **How one round of the send loop ends**, at `offset` in the state `s`: what comes out of it, or the
    round after it.  `fuel` is left for the rounds to come. -/
inductive SendRound (apdu : List UInt8) (maxInf fuel offset : Nat) (s : Pcd T) :
    Res (PcdError E) (Option Block) × Pcd T → Prop
  /-- The chunk makes no I-Block. -/
  | unbuilt (e : PcdError E) : SendRound apdu maxInf fuel offset s (.err e, s)
  /-- The call brings no block. -/
  | failed {iblock : Block} {e : PcdError E} {s' : Pcd T}
      (hcall : (transceiveBlock iblock).run s = (.err e, s')) :
      SendRound apdu maxInf fuel offset s (.err e, s')
  /-- What the last chunk brings is left to the receive loop. -/
  | last {iblock resp : Block} {s' : Pcd T}
      (hcall : (transceiveBlock iblock : Act (Pcd T) (PcdError E) Block).run s = (.ok resp, s')) :
      SendRound apdu maxInf fuel offset s (.ok (some resp), s')
  /-- The handler refuses the block, or makes something of it that is no acknowledgement. -/
  | refused {iblock resp : Block} {s' : Pcd T} (e : PcdError E)
      (hcall : (transceiveBlock iblock : Act (Pcd T) (PcdError E) Block).run s = (.ok resp, s')) :
      SendRound apdu maxInf fuel offset s
        (.err e, { s' with handler := (s'.handler.receive resp).2 })
  /-- The block asks for the next chunk, or for this one again. -/
  | more {iblock resp : Block} {s' : Pcd T} {a : Action} {h : ProtocolHandler} {next : Nat}
      (hcall : (transceiveBlock iblock : Act (Pcd T) (PcdError E) Block).run s = (.ok resp, s'))
      (hr : s'.handler.receive resp = (.ok a, h))
      (ha : a = .chainingAck ∨ a = .chainingRetransmit) (hnext : next < apdu.length) :
      SendRound apdu maxInf fuel offset s
        ((sendLoop apdu maxInf fuel next none).run { s' with handler := h })

/-- Every round ends in one of these ways. -/
theorem sendLoop_round {apdu : List UInt8} {offset : Nat} (maxInf fuel : Nat) (s : Pcd T)
    (hoff : offset < apdu.length) : SendRound (E := E) apdu maxInf fuel offset s
      ((sendLoop apdu maxInf (fuel + 1) offset none).run s) := by
  rw [sendLoop, if_pos hoff]
  simp only [Act.run_get_bind]
  rw [Act.run_bind, run_lift, Res.slice_of_le (by omega) (by omega)]
  simp only [Res.mapErr_ok]
  rw [Act.run_bind, run_lift]
  generalize hch : decide (min (offset + maxInf) apdu.length < apdu.length) = chaining
  have hret := s.handler.buildIblock_returns
    ((apdu.take (min (offset + maxInf) apdu.length)).drop offset) chaining
  generalize s.handler.buildIblock ((apdu.take (min (offset + maxInf) apdu.length)).drop offset)
    chaining = built at hret
  cases built with
  | err e => exact .unbuilt _
  | panic => exact hret.elim
  | outOfFuel => exact hret.elim
  | ok iblock =>
    simp only [Res.mapErr_ok]
    rcases transceiveBlock_cases (E := E) iblock s with ⟨resp, s', hcall⟩ | ⟨e, s', hcall⟩
    · rw [Act.run_bind_ok hcall]
      cases chaining with
      | false =>
        rw [if_neg (by simp), sendLoop_done (Nat.le_of_not_lt (of_decide_eq_false hch))]
        exact .last hcall
      | true =>
        rw [if_pos rfl, Act.run_bind, run_onHandler_receive]
        rcases s'.handler.receive_cases resp with ⟨a, h, hr⟩ | ⟨e, h, hr⟩
        · have hh : h = (s'.handler.receive resp).2 := by rw [hr]
          rw [hr]
          simp only [Res.mapErr_ok]
          -- the next chunk, or this one again
          cases a with
          | chainingAck => exact .more hcall hr (Or.inl rfl) (of_decide_eq_true hch)
          | chainingRetransmit => exact .more hcall hr (Or.inr rfl) hoff
          | complete data =>
            rw [hh]
            exact .refused _ hcall
          | reply reply =>
            rw [hh]
            exact .refused _ hcall
        · have hh : h = (s'.handler.receive resp).2 := by rw [hr]
          rw [hr, hh]
          exact .refused _ hcall
    · rw [Act.run_bind_err hcall]
      exact .failed hcall

/-- What a call and a received block keep, the send loop keeps: it does nothing else to the
    state. -/
theorem sendLoop_state {P : Pcd T → Prop}
    (hcall : ∀ (block : Block) s, P s →
      P ((transceiveBlock block : Act (Pcd T) (PcdError E) Block).run s).2)
    (hreceive : ∀ (b : Block) s, P s → P { s with handler := (s.handler.receive b).2 })
    (apdu : List UInt8) (maxInf fuel : Nat) : ∀ (offset : Nat) (last : Option Block) (s : Pcd T),
    P s → P ((sendLoop apdu maxInf fuel offset last : Act (Pcd T) (PcdError E) _).run s).2 := by
  induction fuel with
  | zero =>
    intro offset last s hs
    rw [sendLoop]
    split <;> exact hs
  | succ fuel ih =>
    intro offset last s hs
    rw [sendLoop]
    split
    · rw [Act.run_get_bind]
      refine Act.run_bind_state (P := P) hs fun chunk s1 h1 => ?_
      refine Act.run_bind_state (P := P) h1 fun iblock s2 h2 => ?_
      refine Act.run_bind_state (P := P) (hcall iblock s2 h2) fun resp s3 h3 => ?_
      split
      · refine Act.run_bind_state (P := P) (hreceive resp s3 h3) fun a s4 h4 => ?_
        cases a with
        | chainingAck => exact ih _ _ s4 h4
        | chainingRetransmit => exact ih _ _ s4 h4
        | _ => exact h4
      · exact ih _ _ s3 h3
    · exact hs

/-- A round of the receive loop, by what the handler makes of the block. -/
theorem run_collectResponse {fuel : Nat} {block : Block} {s : Pcd T} {a : Action}
    {h : ProtocolHandler} (hr : s.handler.receive block = (.ok a, h)) :
    (collectResponse (fuel + 1) block : Act (Pcd T) (PcdError E) _).run s =
      (match a with
        | .complete data => pure data
        | .reply reply => do
          let block ← transceiveWithRecovery reply true
          collectResponse fuel block
        | _ => Act.throw (.protocol .other) : Act (Pcd T) (PcdError E) ChainVec).run
          { s with handler := h } := by
  have hrun : (onHandler (ProtocolHandler.processReceived block) :
      Act (Pcd T) (PcdError E) Action).run s = (.ok a, { s with handler := h }) := by
    rw [run_onHandler_receive, hr]
    rfl
  rw [collectResponse, Act.run_bind_ok hrun]
  cases a <;> rfl

/-- **How one round of the receive loop ends**, with the block `b` in the state `s`.  `fuel` is left
    for the rounds to come. -/
inductive CollectRound (fuel : Nat) (b : Block) (s : Pcd T) :
    Res (PcdError E) ChainVec × Pcd T → Prop
  /-- The block ends the response. -/
  | complete {data : ChainVec} {h : ProtocolHandler}
      (hr : s.handler.receive b = (.ok (.complete data), h)) :
      CollectRound fuel b s (.ok data, { s with handler := h })
  /-- The block is answered, and the next one is waited for. -/
  | reply {reply : Block} {h : ProtocolHandler}
      (hr : s.handler.receive b = (.ok (.reply reply), h)) :
      CollectRound fuel b s ((do
        let block ← transceiveWithRecovery reply true
        collectResponse fuel block : Act (Pcd T) (PcdError E) ChainVec).run { s with handler := h })
  /-- An acknowledgement has no place here. -/
  | acknowledged {a : Action} {h : ProtocolHandler} (hr : s.handler.receive b = (.ok a, h))
      (ha : a = .chainingAck ∨ a = .chainingRetransmit) :
      CollectRound fuel b s (.err (.protocol .other), { s with handler := h })
  /-- The handler refuses the block. -/
  | refused {e : TypeAError} {h : ProtocolHandler} (hr : s.handler.receive b = (.err e, h)) :
      CollectRound fuel b s (.err (.protocol e), { s with handler := h })

/-- Every round ends in one of these ways. -/
theorem collectResponse_round (fuel : Nat) (b : Block) (s : Pcd T) :
    CollectRound (E := E) fuel b s ((collectResponse (fuel + 1) b).run s) := by
  rcases s.handler.receive_cases b with ⟨a, h, hr⟩ | ⟨e, h, hr⟩
  · rw [run_collectResponse hr]
    cases a with
    | complete data => exact .complete hr
    | reply reply => exact .reply hr
    | chainingAck => exact .acknowledged hr (Or.inl rfl)
    | chainingRetransmit => exact .acknowledged hr (Or.inr rfl)
  · rw [collectResponse, Act.run_bind, run_onHandler_receive, hr]
    exact .refused hr

end Rounds

end Pcd

/-! ## R-Blocks in a reader's hands

  An R-Block that is no acknowledgement of a chunk has no place in a response. -/

namespace ProtocolHandler

/-- A reader is never asked whether it is there. -/
theorem rMeaning_ne_presence {h : ProtocolHandler} (hrole : h.role = .pcd) (b : Block) :
    h.rMeaning b ≠ .presence := by
  simp only [rMeaning, hrole]
  cases b.pcb.rSubtype with
  | none => simp
  | some sub =>
    cases sub with
    | ack => dsimp only; split <;> simp
    | nak => simp

/-- An R-Block is only good for sending on, or again. -/
theorem receive_rblock [Build] {h k : ProtocolHandler} {b : Block} {a : Action}
    (hrole : h.role = .pcd) (ht : b.blockType = .rBlock) (hr : receive h b = (.ok a, k)) :
    a = .chainingAck ∨ a = .chainingRetransmit := by
  have hrec := processReceived_received h b
  rw [show (processReceived b).run h = _ from hr] at hrec
  cases hrec with
  | release _ _ _ => exact Or.inl rfl
  | repeatLast _ _ _ _ => exact Or.inr rfl
  | presence _ _ hm => exact absurd hm (rMeaning_ne_presence hrole b)
  | repeated _ ht' _ _ => rw [ht] at ht'; cases ht'
  | chained _ ht' _ _ _ _ => rw [ht] at ht'; cases ht'
  | complete _ ht' _ _ _ _ => rw [ht] at ht'; cases ht'
  | wtx _ ht' _ _ _ _ => rw [ht] at ht'; cases ht'
  | deselect _ ht' _ => rw [ht] at ht'; cases ht'

end ProtocolHandler

/-- **An R-Block in the place of a response ends the exchange.** -/
theorem Pcd.collectResponse_rblock {T E : Type} [Build] [PcdTransceiver T E] {s : Pcd T}
    (hrole : s.handler.role = .pcd) {b : Block} (ht : b.blockType = .rBlock) (fuel : Nat) :
    (∃ r : Res (PcdError E) ChainVec, (∀ data, r ≠ .ok data) ∧ ∃ k, k.role = .pcd ∧
      (collectResponse fuel b).run s = (r, { s with handler := k })) := by
  cases fuel with
  | zero => exact ⟨.outOfFuel, by simp, s.handler, hrole, rfl⟩
  | succ fuel =>
    have hk : (s.handler.receive b).2.role = .pcd :=
      (ProtocolHandler.Event.role_eq (ProtocolHandler.real_event s.handler b)).trans hrole
    rcases s.handler.receive_cases b with ⟨a, k, hr⟩ | ⟨e, k, hr⟩ <;> rw [hr] at hk
    · refine ⟨.err (.protocol .other), by simp, k, hk, ?_⟩
      rw [run_collectResponse hr]
      rcases ProtocolHandler.receive_rblock hrole ht hr with rfl | rfl <;> rfl
    · refine ⟨.err (.protocol e), by simp, k, hk, ?_⟩
      rw [collectResponse, Act.run_bind, run_onHandler_receive, hr]
      rfl

/-! ## The log of a transceiver

  `Calls` composes: a call with its retries is one of these, and so is a call with recovery. -/

/-- A transceiver with a log of its calls. -/
structure Tally (T E : Type) where
  inner : T
  log : List (Frame × Except E FrameVec) := []

/-- Every call goes to the log with its answer. -/
instance {T E : Type} [PcdTransceiver T E] : PcdTransceiver (Tally T E) E where
  transceive t frame :=
    let (answer, inner) := PcdTransceiver.transceive t.inner frame
    (answer, { inner, log := t.log ++ [(frame, answer)] })
  tryEnableHwCrc t :=
    let (r, inner) := PcdTransceiver.tryEnableHwCrc t.inner
    (r, { t with inner })

namespace Pcd

/-- A card with its answers written down. -/
structure Scripted where
  answers : List FrameVec

/-- The script is read from the front, and a card without answers stays silent. -/
instance : PcdTransceiver Scripted Unit where
  transceive t _ :=
    match t.answers with
    | [] => (.error (), t)
    | answer :: answers => (.ok answer, ⟨answers⟩)
  tryEnableHwCrc t := (.ok (), t)

variable {T E : Type} [Build] [PcdTransceiver T E]

/-- The calls made so far. -/
def calls (s : Pcd (Tally T E)) : List (Frame × Except E FrameVec) := s.transceiver.log

omit [Build] in
/-- A call is logged. -/
theorem transceive_tally {t : Tally T E} {frame : Frame} {answer : Except E FrameVec} {inner : T}
    (h : PcdTransceiver.transceive t.inner frame = (answer, inner)) :
    PcdTransceiver.transceive t frame = (answer, { inner, log := t.log ++ [(frame, answer)] }) := by
  show (let (answer, inner) := PcdTransceiver.transceive t.inner frame
        (answer, (⟨inner, t.log ++ [(frame, answer)]⟩ : Tally T E))) = _
  rw [h]

/-- What at most `n` calls of the transceiver do, giving `r`.  All that a call changes is the log;
    of the answers in it, those before the last one brought no block. -/
structure Calls (s : Pcd (Tally T E)) (n : Nat) (r : Res (PcdError E) Block)
    (s' : Pcd (Tally T E)) : Prop where
  handler : s'.handler = s.handler
  hwCrc : s'.hwCrc = s.hwCrc
  fsc : s'.fsc = s.fsc
  fsd : s'.fsd = s.fsd
  length : s'.calls.length ≤ s.calls.length + n
  /-- The calls fail to bring a block, up to the one that brings the block given back. -/
  attempts : ∃ failed : List (Frame × Except E FrameVec),
    (∀ e ∈ failed, ∀ b, s.received e.2 ≠ .ok b) ∧
    match r with
    | .ok b => ∃ last, s'.calls = s.calls ++ failed ++ [last] ∧ s.received last.2 = .ok b
    | _ => s'.calls = s.calls ++ failed
  returns : r.Returns

omit [PcdTransceiver T E] in
/-- The parse of an answer depends on nothing that changes. -/
theorem received_congr {T' : Type} {s : Pcd T} {s' : Pcd T'} (hcrc : s'.hwCrc = s.hwCrc)
    (hfsd : s'.fsd = s.fsd) (answer : Except E FrameVec) : s'.received answer = s.received answer := by
  simp only [received, parseBlockResponse, hcrc, hfsd]

omit [PcdTransceiver T E] in
/-- No call is forgotten. -/
theorem Calls.grows {s s' : Pcd (Tally T E)} {n : Nat} {r : Res (PcdError E) Block}
    (h : Calls s n r s') : s.calls <+: s'.calls := by
  obtain ⟨failed, -, h⟩ := h.attempts
  cases r with
  | ok b =>
    obtain ⟨last, hcalls, -⟩ := h
    exact ⟨failed ++ [last], by rw [hcalls, List.append_assoc]⟩
  | _ => exact ⟨failed, h.symm⟩

omit [PcdTransceiver T E] in
/-- A block given back is the one in the last answer. -/
theorem Calls.answer {s s' : Pcd (Tally T E)} {n : Nat} {r : Res (PcdError E) Block}
    (h : Calls s n r s') (b : Block) (hb : r = .ok b) :
    ∃ pre last, s'.calls = pre ++ [last] ∧ s.received last.2 = .ok b := by
  subst hb
  obtain ⟨failed, -, last, hcalls, hlast⟩ := h.attempts
  exact ⟨s.calls ++ failed, last, hcalls, hlast⟩

/-- A round trip of one block is one call at most. -/
theorem calls_transceiveBlock (block : Block) (s : Pcd (Tally T E)) :
    Calls s 1 ((transceiveBlock block).run s).1 ((transceiveBlock block).run s).2 := by
  by_cases h : ∃ frame, frameFor s.hwCrc block = .ok frame
  · obtain ⟨frame, hframe⟩ := h
    rw [run_transceiveBlock hframe]
    have hret := received_returns s (PcdTransceiver.transceive s.transceiver frame).1
    refine ⟨rfl, rfl, rfl, rfl, ?_, ?_, hret⟩
    · show (s.calls ++ [_]).length ≤ _
      simp
    · dsimp only
      cases hrec : s.received (PcdTransceiver.transceive s.transceiver frame).1 with
      | ok b => exact ⟨[], by simp, (frame, _), by rw [List.append_nil]; rfl, hrec⟩
      | err e =>
        refine ⟨[(frame, (PcdTransceiver.transceive s.transceiver frame).1)], ?_, rfl⟩
        intro e' he' b hb
        rw [List.mem_singleton.mp he', hrec] at hb
        cases hb
      | panic => rw [hrec] at hret; exact hret.elim
      | outOfFuel => rw [hrec] at hret; exact hret.elim
  · obtain ⟨e, he⟩ := run_transceiveBlock_err (T := Tally T E) (E := E) (not_exists.mp h)
    rw [he]
    exact ⟨rfl, rfl, rfl, rfl, Nat.le_add_right _ _, ⟨[], by simp, by simp⟩, trivial⟩

/-- The same, of a run at hand. -/
theorem calls_of_run {block : Block} {s s' : Pcd (Tally T E)} {r : Res (PcdError E) Block}
    (h : (transceiveBlock block).run s = (r, s')) : Calls s 1 r s' := by
  have hcalls := calls_transceiveBlock block s
  rwa [h] at hcalls

omit [PcdTransceiver T E] in
/-- Calls after one that failed: the logs are joined, and the bounds add up. -/
theorem Calls.trans {s s' s'' : Pcd (Tally T E)} {m n : Nat} {e : PcdError E}
    {r' : Res (PcdError E) Block} (h : Calls s m (.err e) s') (h' : Calls s' n r' s'') :
    Calls s (m + n) r' s'' where
  handler := h'.handler.trans h.handler
  hwCrc := h'.hwCrc.trans h.hwCrc
  fsc := h'.fsc.trans h.fsc
  fsd := h'.fsd.trans h.fsd
  length := by
    have h1 := h.length
    have h2 := h'.length
    omega
  returns := h'.returns
  attempts := by
    have hcongr : ∀ a : Except E FrameVec, s'.received a = s.received a :=
      received_congr h.hwCrc h.fsd
    obtain ⟨failed, hfailed, hcalls⟩ := h.attempts
    obtain ⟨failed', hfailed', hrest⟩ := h'.attempts
    dsimp only at hcalls
    refine ⟨failed ++ failed', ?_, ?_⟩
    · intro e he b
      rcases List.mem_append.mp he with he | he
      · exact hfailed e he b
      · rw [← hcongr]
        exact hfailed' e he b
    · rw [hcalls] at hrest
      cases r' with
      | ok b =>
        obtain ⟨last, hlast, hb⟩ := hrest
        exact ⟨last, by rw [hlast]; simp, by rw [← hcongr]; exact hb⟩
      | _ =>
        dsimp only at hrest ⊢
        rw [hrest, List.append_assoc]

omit [PcdTransceiver T E] in
/-- At most `m` calls are at most any larger number of them. -/
theorem Calls.mono {s s' : Pcd (Tally T E)} {m n : Nat} {r : Res (PcdError E) Block}
    (h : Calls s m r s') (hmn : m ≤ n) : Calls s n r s' :=
  { h with length := Nat.le_trans h.length (Nat.add_le_add_left hmn _) }

/-- **The retries**: at most `n` calls. -/
theorem calls_retry (receivingChain : Bool) (n : Nat) (s : Pcd (Tally T E)) :
    Calls s n ((retry receivingChain n).run s).1 ((retry receivingChain n).run s).2 := by
  induction n generalizing s with
  | zero => exact ⟨rfl, rfl, rfl, rfl, Nat.le_refl _, ⟨[], by simp, by simp [retry]⟩, trivial⟩
  | succ n ih =>
    have hcall := calls_transceiveBlock
      (if receivingChain then s.handler.buildRack else s.handler.buildRnak) s
    simp only [retry, Act.run_get_bind]
    generalize hrun : (transceiveBlock (if receivingChain = true then s.handler.buildRack
      else s.handler.buildRnak)).run s = p at hcall
    obtain ⟨r, s'⟩ := p
    cases r with
    | ok b =>
      rw [Act.run_bind_ok (Act.run_attempt_ok hrun)]
      exact hcall.mono (by omega)
    | err e =>
      rw [Act.run_bind_ok (Act.run_attempt_err hrun), Nat.add_comm]
      exact hcall.trans (ih s')
    | panic => exact hcall.returns.elim
    | outOfFuel => exact hcall.returns.elim

/-- **With recovery**: at most three calls. -/
theorem calls_transceiveWithRecovery (block : Block) (receivingChain : Bool)
    (s : Pcd (Tally T E)) :
    Calls s 3 ((transceiveWithRecovery block receivingChain).run s).1
      ((transceiveWithRecovery block receivingChain).run s).2 := by
  have hcall := calls_transceiveBlock block s
  simp only [transceiveWithRecovery]
  generalize hrun : (transceiveBlock block).run s = p at hcall
  obtain ⟨r, s'⟩ := p
  cases r with
  | ok b =>
    rw [Act.run_bind_ok (Act.run_attempt_ok hrun)]
    exact hcall.mono (by omega)
  | err e =>
    rw [Act.run_bind_ok (Act.run_attempt_err hrun)]
    exact hcall.trans (calls_retry receivingChain maxRetries s')
  | panic => exact hcall.returns.elim
  | outOfFuel => exact hcall.returns.elim

/-- The same, of a run at hand. -/
theorem calls_of_recovery {block : Block} {receivingChain : Bool} {s s' : Pcd (Tally T E)}
    {r : Res (PcdError E) Block} (h : (transceiveWithRecovery block receivingChain).run s = (r, s')) :
    Calls s 3 r s' := by
  have hcalls := calls_transceiveWithRecovery block receivingChain s
  rwa [h] at hcalls

/-- A block that makes a frame costs a call. -/
theorem calls_lt {block : Block} {s : Pcd (Tally T E)} {frame : Frame}
    (h : frameFor s.hwCrc block = .ok frame) (receivingChain : Bool) :
    s.calls.length < ((transceiveWithRecovery block receivingChain).run s).2.calls.length := by
  have hcall := calls_transceiveBlock block s
  have hone : ((transceiveBlock block).run s).2.calls.length = s.calls.length + 1 := by
    rw [run_transceiveBlock h]
    show (s.calls ++ [_]).length = _
    simp
  simp only [transceiveWithRecovery]
  generalize hrun : (transceiveBlock block).run s = p at hcall hone
  obtain ⟨r, s'⟩ := p
  cases r with
  | ok b =>
    rw [Act.run_bind_ok (Act.run_attempt_ok hrun)]
    show _ < s'.calls.length
    simp only at hone
    omega
  | err e =>
    rw [Act.run_bind_ok (Act.run_attempt_err hrun)]
    have hmore := (calls_retry receivingChain maxRetries s').grows.length_le
    simp only at hone
    show _ < ((retry receivingChain maxRetries).run s').2.calls.length
    omega
  | panic => exact hcall.returns.elim
  | outOfFuel => exact hcall.returns.elim

end Pcd

end Iso14443
