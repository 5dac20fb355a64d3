/-
  The command on its way over a link: one round of the send loop of `Pcd::exchange`, on both sides.

  * `Peer.step_chained` — what a card does with a chunk that has more to come.  It is acknowledged
    or not answered, and it never is an APDU; an acknowledged one is taken in or taken for a repeat
    (`Acked`), and the reader cannot tell which.
  * `Peer.step_last`    — what it does with the last one: nothing, an R(ACK) for a repeat, or the
    end of the command, with the APDU handed over and the first chunk of the response sent.
  * `sendLoop_silent`, `sendLoop_acked`, `sendLoop_last` — a round of the reader, by what the chunk
    brought.

  The send loop has no recovery, so silence ends the exchange; that is why the agreement of the two
  sides (`Iso14443.Agreement`) needs a condition on how an exchange begins.
-/
import Iso14443.LinkStep

namespace Iso14443

open ProtocolHandler

/-! ## The card

  What a chunk does to the card by its number: it is taken in if it carries the expected one, and
  acknowledged without effect otherwise. -/

namespace Peer

variable [Build] {respond : List ChainVec → List UInt8} {fsd : Nat} {p : Peer} {b : Block}

omit [Build] in
/-- The two calls of an application in a session. -/
theorem Sound.calls (h : p.Sound fsd) : p.call = .receiveCommand ∨ ∃ data inf stop iblock,
    p.call = .sendResponse data inf stop iblock := by
  have hcall := h.call
  cases hp : p.call with
  | receiveCommand => exact Or.inl rfl
  | sendResponse data inf stop iblock => exact Or.inr ⟨data, inf, stop, iblock, rfl⟩
  | waitForActivation => rw [hp] at hcall; exact hcall.elim
  | waitForRats => rw [hp] at hcall; exact hcall.elim

omit [Build] in
/-- A card takes an I-Block for a repeated one by its own number. -/
theorem repeats_picc {h : ProtocolHandler} (hrole : h.role = .picc) (b : Block) :
    h.repeatsLastIblock b = decide (b.blockNumber = h.blockNumber) := by
  simp only [repeatsLastIblock, hrole]

/-- The card once the application is handed a command. -/
def handing (p : Peer) (data : ChainVec) : Peer :=
  { p with handler := p.handler.counted.advanced.dropChain, handed := p.handed ++ [data] }

/-- What an acknowledged chunk does to the card: it is taken for a repeated one, or taken in.  The
    R(ACK) is the same in both cases, so the reader goes on to the next chunk. -/
structure Acked (b rack : Block) (p p' : Peer) : Prop where
  rack : rack.IsRack b.blockNumber
  call : p'.call = p.call
  handed : p'.handed = p.handed
  handler : (p.handler.blockNumber = b.blockNumber ∧ p'.handler = p.handler.counted.again) ∨
    (p.handler.blockNumber ≠ b.blockNumber ∧
      p'.handler = (p.handler.counted.extended b.payload).advanced)

omit [Build] in
/-- An acknowledged chunk leaves the card with the number of the chunk. -/
theorem Acked.number {rack : Block} {p' : Peer} (h : Acked b rack p p') :
    p'.handler.blockNumber = b.blockNumber := by
  rcases h.handler with ⟨hn, hh⟩ | ⟨hn, hh⟩
  · rw [hh]; exact hn
  · rw [hh]; exact one_sub_of_ne hn

/-- **A chunk with more to come** is acknowledged, or not answered; it never is an APDU. -/
theorem step_chained (hsound : p.Sound fsd) (respond : List ChainVec → List UInt8)
    (ht : b.blockType = .iBlock) (hc : b.isChaining = true) :
    ((p.step respond fsd b).1 = none ∧ (p.step respond fsd b).2.handed = p.handed) ∨
    ∃ rack, (p.step respond fsd b).1 = some rack ∧ Acked b rack p (p.step respond fsd b).2 := by
  have hrep := repeats_picc hsound.role b
  rcases receive_iblock p.handler ht with ⟨e, k, hr, -⟩ | ⟨hold, hr⟩ | ⟨hnew, -, hr⟩ | ⟨-, hend, -⟩
  · exact Or.inl (by rw [step_err hr]; exact ⟨rfl, rfl⟩)
  · have hn : b.blockNumber = p.handler.blockNumber := of_decide_eq_true (hrep ▸ hold)
    refine Or.inr ⟨p.handler.buildRack, ?_⟩
    rw [step_rack hsound.calls hr]
    exact ⟨rfl, hn ▸ isRack_buildRack _, rfl, rfl, Or.inl ⟨hn.symm, rfl⟩⟩
  · have hn : b.blockNumber ≠ p.handler.blockNumber := of_decide_eq_false (hrep ▸ hnew)
    refine Or.inr ⟨p.handler.advanced.buildRack, ?_⟩
    rw [step_rack hsound.calls hr]
    refine ⟨rfl, ?_, rfl, rfl, Or.inr ⟨fun h => hn h.symm, rfl⟩⟩
    have hrack := isRack_buildRack p.handler.advanced
    rwa [show p.handler.advanced.blockNumber = b.blockNumber from
      one_sub_of_ne fun h => hn h.symm] at hrack
  · rw [hc] at hend
    cases hend

/-- **The last chunk** is not answered, taken for a repeated one, or ends the command: the
    application is handed what was assembled. -/
theorem step_last (hsound : p.Sound fsd) (respond : List ChainVec → List UInt8)
    (ht : b.blockType = .iBlock) (hc : b.isChaining = false) :
    ((p.step respond fsd b).1 = none ∧ (p.step respond fsd b).2.handed = p.handed) ∨
    (p.handler.blockNumber = b.blockNumber ∧
      ∃ rack, (p.step respond fsd b).1 = some rack ∧ rack.blockType = .rBlock ∧
        (p.step respond fsd b).2.handed = p.handed) ∨
    (p.call = .receiveCommand ∧ p.handler.blockNumber ≠ b.blockNumber ∧
      p.step respond fsd b = (p.handing (p.handler.chain ++ b.payload)).sendChunk
        (respond (p.handed ++ [p.handler.chain ++ b.payload])) (maxInf fsd p.handler) 0) := by
  have hrep := repeats_picc hsound.role b
  rcases receive_iblock p.handler ht with ⟨e, k, hr, -⟩ | ⟨hold, hr⟩ | ⟨-, hmore, -⟩ | ⟨hnew, -, hr⟩
  · exact Or.inl (by rw [step_err hr]; exact ⟨rfl, rfl⟩)
  · have hn : b.blockNumber = p.handler.blockNumber := of_decide_eq_true (hrep ▸ hold)
    refine Or.inr (Or.inl ⟨hn.symm, p.handler.buildRack, ?_⟩)
    rw [step_rack hsound.calls hr]
    exact ⟨rfl, (isRack_buildRack _).1, rfl⟩
  · rw [hc] at hmore
    cases hmore
  · have hn : b.blockNumber ≠ p.handler.blockNumber := of_decide_eq_false (hrep ▸ hnew)
    rcases hsound.calls with hcall | ⟨data, inf, stop, iblock, hcall⟩
    · exact Or.inr (Or.inr ⟨hcall, fun h => hn h.symm, step_complete hcall hr⟩)
    · exact Or.inl (by rw [step_swallow hcall hr]; exact ⟨rfl, rfl⟩)

end Peer

/-! ## The reader

  One round of the loop, by the block that comes back. -/

namespace Reader

open Pcd

variable [Build] {respond : List ChainVec → List UInt8} {s : Reader} {w : Wire}
  {apdu : List UInt8} {offset : Nat}

/-- The chunk of a command at `offset`. -/
def commandChunk (s : Reader) (apdu : List UInt8) (offset : Nat) : Block :=
  s.handler.iblockOf (chunkAt apdu s.maxInf offset) (offset + s.maxInf < apdu.length)

omit [Build] in
/-- A chunk of a command, field by field. -/
theorem blockType_commandChunk (s : Reader) (apdu : List UInt8) (offset : Nat) :
    (s.commandChunk apdu offset).blockType = .iBlock ∧
      (s.commandChunk apdu offset).blockNumber = s.handler.blockNumber ∧
      (s.commandChunk apdu offset).isChaining = decide (offset + s.maxInf < apdu.length) ∧
      (s.commandChunk apdu offset).payload = chunkAt apdu s.maxInf offset := by
  simp only [commandChunk, iblockOf, addCid]
  split <;> exact ⟨rfl, rfl, rfl, rfl⟩

/-- One more block of the command sent. -/
theorem Linked.send (h : Linked respond s w) (apdu : List UInt8) (offset : Nat) :
    ∃ t, (transceiveBlock (s.commandChunk apdu offset)).run s =
      (brought (w.call respond s.fsd (s.commandChunk apdu offset)).1, s.withTransceiver t) ∧
      Linked respond (s.withTransceiver t) (w.call respond s.fsd (s.commandChunk apdu offset)).2 ∧
      calls (s.withTransceiver t) = s.calls ++ [logged s.hwCrc (s.commandChunk apdu offset)
        (w.call respond s.fsd (s.commandChunk apdu offset)).1] :=
  h.call (h.sendable_chunk apdu offset _) fun _ => (s.blockType_commandChunk apdu offset).1

/-- An R(ACK) with the reader's number releases the next chunk. -/
theorem receive_ack {h : ProtocolHandler} (hrole : h.role = .pcd) {rack : Block}
    (hr : rack.IsRack h.blockNumber) : receive h rack = if h.FrameOk then
      (.ok .chainingAck, h.counted.advanced)
    else (.err (.limitExceeded .frames), h.counted.dropChain) := by
  have hmean : h.rMeaning rack = .release := by
    simp only [rMeaning, hrole, hr.2.1, hr.2.2, if_true]
  by_cases hf : h.FrameOk
  · rw [if_pos hf]
    exact Received.eq (.release hf hr.1 hmean)
  · rw [if_neg hf]
    exact Received.eq (.frames hf)

/-- A chunk that brings nothing ends the exchange. -/
theorem sendLoop_silent (h : Linked respond s w) (hoff : offset < apdu.length)
    (hnone : (w.call respond s.fsd (s.commandChunk apdu offset)).1 = none) (fuel : Nat)
    (last : Option Block) :
    ∃ t e, (sendLoop apdu s.maxInf (fuel + 1) offset last).run s = (.err e, s.withTransceiver t) ∧
      Linked respond (s.withTransceiver t)
        (w.call respond s.fsd (s.commandChunk apdu offset)).2 := by
  obtain ⟨t, hrun, hl, -⟩ := h.send apdu offset
  rw [hnone] at hrun
  refine ⟨t, .pcdTransceiver (), ?_, hl⟩
  by_cases hmore : offset + s.maxInf < apdu.length
  · rw [commandChunk, decide_eq_true hmore] at hrun
    rw [run_sendLoop_chained fuel last s hmore h.maxInf_bounds.2]
    exact Act.run_bind_err hrun _
  · rw [commandChunk, decide_eq_false hmore] at hrun
    rw [run_sendLoop_last fuel last s hoff (Nat.le_of_not_lt hmore) h.maxInf_bounds.2]
    exact Act.run_bind_err hrun _

/-- **A chunk that is acknowledged** is followed by the next one, within the frame budget.  One
    round of the loop, with its call in the log. -/
theorem sendLoop_acked (h : Linked respond s w) (hmore : offset + s.maxInf < apdu.length)
    {rack : Block} (hsome : (w.call respond s.fsd (s.commandChunk apdu offset)).1 = some rack)
    (hack : rack.IsRack s.handler.blockNumber) (fuel : Nat) (last : Option Block) :
    ∃ t, (sendLoop apdu s.maxInf (fuel + 1) offset last).run s = (if s.handler.FrameOk then
        (sendLoop apdu s.maxInf fuel (offset + s.maxInf) last).run
          { s.withTransceiver t with handler := s.handler.counted.advanced }
      else (.err (.protocol (.limitExceeded .frames)),
        { s.withTransceiver t with handler := s.handler.counted.dropChain })) ∧
      Linked respond (s.withTransceiver t) (w.call respond s.fsd (s.commandChunk apdu offset)).2 ∧
      calls (s.withTransceiver t) =
        s.calls ++ [logged s.hwCrc (s.commandChunk apdu offset) (some rack)] := by
  obtain ⟨t, hrun, hl, hcalls⟩ := h.send apdu offset
  rw [hsome] at hrun hcalls
  refine ⟨t, ?_, hl, hcalls⟩
  rw [commandChunk, decide_eq_true hmore] at hrun
  have hr := receive_ack h.role hack
  rw [← receive_wire] at hr
  by_cases hf : s.handler.FrameOk
  · rw [if_pos hf] at hr ⊢
    rw [run_sendLoop_round fuel hmore h.maxInf_bounds.2 hrun hr]
    rfl
  · rw [if_neg hf] at hr ⊢
    rw [run_sendLoop_chained fuel last s hmore h.maxInf_bounds.2, Act.run_bind_ok hrun]
    refine Act.run_bind_err ?_ _
    rw [run_onHandler_receive, withTransceiver, hr]
    rfl

/-- The last chunk that is answered ends the loop. -/
theorem sendLoop_last (h : Linked respond s w) (hoff : offset < apdu.length)
    (hend : apdu.length ≤ offset + s.maxInf) {a : Block}
    (hsome : (w.call respond s.fsd (s.commandChunk apdu offset)).1 = some a) (fuel : Nat)
    (last : Option Block) :
    ∃ t, (sendLoop apdu s.maxInf (fuel + 1) offset last).run s =
        (.ok (some a.wire), s.withTransceiver t) ∧
      Linked respond (s.withTransceiver t) (w.call respond s.fsd (s.commandChunk apdu offset)).2 ∧
      calls (s.withTransceiver t) =
        s.calls ++ [logged s.hwCrc (s.commandChunk apdu offset) (some a)] := by
  obtain ⟨t, hrun, hl, hcalls⟩ := h.send apdu offset
  rw [hsome] at hrun hcalls
  refine ⟨t, ?_, hl, hcalls⟩
  rw [commandChunk, decide_eq_false (Nat.not_lt.mpr hend)] at hrun
  rw [run_sendLoop_last fuel last s hoff hend h.maxInf_bounds.2, Act.run_bind_ok hrun]
  rfl

end Reader

end Iso14443
