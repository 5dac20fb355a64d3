/-
  An exchange that succeeds, from the first frame to the last (`Pcd::exchange` against
  `Picc::receive_command` and `Picc::send_response`).

  Reader and card start in step, the command arrives, and the link never loses `m` calls in a row
  from then on.  Then the exchange is a fixed list of calls, each of them once, but for the R(ACK)s
  that the reader repeats after a call that failed.

  * `Setting.dialogue` — the list.  Its call `i` has the block number `i` after that of the start,
    on both sides: the chunks of the command against R(ACK)s, and then R(ACK)s against the chunks
    of the response.
  * `Retold`           — a log of these calls, each after fewer than `m` that failed.
  * `Affords`          — what it takes of the limits, as a computation on the lengths of command
    and response, and on `m`.
  * `Sending`, `sendLoop_delivers`         — the command: the invariant before call `i`, and the
    loop.
  * `Collecting`, `collectResponse_delivers` — the response, likewise.
  * `exchange_delivers` — the exchange, and reader and card in step again.

  Both invariants say where the two handlers stand after `i` calls: the numbers and the chains as
  functions of `i`, and how far the frame counters are at most.  So every check on the way is one
  about lengths, and `Affords` answers it.
-/
import Iso14443.Delivery

namespace Iso14443

open ProtocolHandler

/-! ## The calls of an exchange

  The exchange as it should go, computed from the command, the response and the setting. -/

/-- The number of I-Blocks that the data take, which is one for no data. -/
def blockCount (inf : Nat) (data : List UInt8) : Nat := (data.length - 1) / inf + 1

/-- A chunk has another one after it. -/
theorem more_iff {inf : Nat} (hinf : 0 < inf) (data : List UInt8) (i : Nat) :
    i * inf + inf < data.length ↔ i + 1 < blockCount inf data := by
  rw [blockCount, Nat.succ_lt_succ_iff, ← Nat.add_one_le_iff (n := i),
    Nat.le_div_iff_mul_le hinf, Nat.succ_mul]
  omega

/-- The block number `i` calls on. -/
def numberAt (n : Fin 2) (i : Nat) : Fin 2 := n + Fin.ofNat 2 i

/-- The first call carries the number it started with. -/
@[simp] theorem numberAt_zero (n : Fin 2) : numberAt n 0 = n := by
  match n with
  | 0 => rfl
  | 1 => rfl

/-- The numbers alternate. -/
theorem one_sub_numberAt (n : Fin 2) (i : Nat) : 1 - numberAt n i = numberAt n (i + 1) := by
  have hi : Fin.ofNat 2 i = 0 ∧ Fin.ofNat 2 (i + 1) = 1 ∨
      Fin.ofNat 2 i = 1 ∧ Fin.ofNat 2 (i + 1) = 0 := by
    simp only [Fin.ext_iff, Fin.ofNat, Fin.val_zero, Fin.val_one]
    omega
  rw [numberAt, numberAt]
  rcases hi with ⟨h1, h2⟩ | ⟨h1, h2⟩ <;> rw [h1, h2] <;> revert n <;> decide

namespace Setting

/-- The reader as it builds its blocks under number `n`. -/
def reader (g : Setting) (n : Fin 2) : ProtocolHandler :=
  { withLimits .pcd g.cid g.limits with blockNumber := n }

/-- The card's handler, by its own CID and limits. -/
def card (g : Setting) (n : Fin 2) : ProtocolHandler :=
  { withLimits .picc g.cardCid g.cardLimits with blockNumber := n }

/-- The number of I-Blocks of a command. -/
def commandBlocks (g : Setting) (apdu : List UInt8) : Nat := blockCount g.commandInf apdu

/-- The number of I-Blocks of a response. -/
def responseBlocks (g : Setting) (resp : List UInt8) : Nat := blockCount g.responseInf resp

/-- What the reader says in call `i`: the chunks of the command, and then R(ACK)s. -/
def said (g : Setting) (n : Fin 2) (apdu : List UInt8) (i : Nat) : Block :=
  if i < g.commandBlocks apdu then
    Peer.chunk (g.reader (numberAt n i)) apdu g.commandInf (i * g.commandInf)
  else (g.reader (numberAt n i)).buildRack

/-- What the card says in call `i`: R(ACK)s, and from the last chunk of the command on the chunks of
    the response. -/
def replied (g : Setting) (n : Fin 2) (apdu resp : List UInt8) (i : Nat) : Block :=
  if i + 1 < g.commandBlocks apdu then (g.card (numberAt n i)).buildRack
  else Peer.chunk (g.card (numberAt n i)) resp g.responseInf
    ((i + 1 - g.commandBlocks apdu) * g.responseInf)

/-- Call `i` on the air. -/
def turn (g : Setting) (n : Fin 2) (apdu resp : List UInt8) (i : Nat) :
    Frame × Except Unit FrameVec :=
  Reader.logged g.hwCrc (g.said n apdu i) (some (g.replied n apdu resp i))

/-- **The calls of an exchange** that starts with number `n`: one for each I-Block of the command, the
    last of which brings the first of the response, and one for each further I-Block of that. -/
def dialogue (g : Setting) (n : Fin 2) (apdu resp : List UInt8) :
    List (Frame × Except Unit FrameVec) :=
  (List.range (g.commandBlocks apdu + g.responseBlocks resp - 1)).map (g.turn n apdu resp)

/-- **What the exchange needs of the limits**: the chains, the frames on both sides, of which the card
    has counted `f` in its call, and the R(ACK)s that are repeated. -/
structure Affords [Build] (g : Setting) (m f : Nat) (apdu resp : List UInt8) : Prop where
  command : apdu.length ≤ g.cardLimits.maxChainLen
  commandFits : Fits chainCap apdu.length
  response : resp.length ≤ g.limits.maxChainLen
  responseFits : Fits chainCap resp.length
  frames : g.commandBlocks apdu + g.responseBlocks resp - 1 ≤ g.limits.maxFrames
  cardFrames : f + g.commandBlocks apdu + m * (g.responseBlocks resp - 1) ≤ g.cardLimits.maxFrames
  again : m ≤ g.cardLimits.maxRetransmissions + 1

end Setting

/-- **A log of calls, each after fewer than `m` that failed**: the same frame, and no answer.  Read
    without the failures it is `calls`, the log of a link that loses nothing. -/
inductive Retold (m : Nat) : List (Frame × Except Unit FrameVec) →
    List (Frame × Except Unit FrameVec) → Prop
  | nil : Retold m [] []
  | cons {q : Nat} {call : Frame × Except Unit FrameVec}
      {calls log : List (Frame × Except Unit FrameVec)} (hq : q < m) (h : Retold m calls log) :
      Retold m (call :: calls) (List.replicate q (call.1, .error ()) ++ call :: log)

namespace Retold

variable {m : Nat} {calls calls' log log' : List (Frame × Except Unit FrameVec)}

/-- No call has to fail. -/
theorem refl (hm : 0 < m) (calls : List (Frame × Except Unit FrameVec)) : Retold m calls calls := by
  induction calls with
  | nil => exact .nil
  | cons call calls ih => exact .cons hm ih

/-- Two calls one after the other are retold one after the other. -/
theorem append (h : Retold m calls log) (h' : Retold m calls' log') :
    Retold m (calls ++ calls') (log ++ log') := by
  induction h with
  | nil => exact h'
  | cons hq _ ih =>
    rw [List.append_assoc]
    exact .cons hq ih

/-- Where none may fail, the log is the calls. -/
theorem eq (h : Retold 1 calls log) : log = calls := by
  induction h with
  | nil => rfl
  | cons hq _ ih =>
    obtain rfl := Nat.lt_one_iff.mp hq
    rw [ih]
    rfl

end Retold

/-- Blocks that two handlers build alike. -/
theorem ProtocolHandler.buildRack_congr {h h' : ProtocolHandler} (hcid : h'.cid = h.cid)
    (hnum : h'.blockNumber = h.blockNumber) : h'.buildRack = h.buildRack := by
  simp only [buildRack, addCid, hcid, hnum]

/-! ### Which handlers build these blocks

  Any handler with the CID of the setting and the block number of call `i`: nothing else of it
  enters into a block. -/

namespace Setting

variable {g : Setting} {n : Fin 2} {i j : Nat} {apdu resp : List UInt8} {h : ProtocolHandler}

/-- A chunk of the command. -/
theorem chunk_said (hcid : h.cid = g.cid) (hnum : h.blockNumber = numberAt n i)
    (hi : i < g.commandBlocks apdu) :
    Peer.chunk h apdu g.commandInf (i * g.commandInf) = g.said n apdu i := by
  rw [said, if_pos hi]
  exact Peer.chunk_congr hcid hnum apdu g.commandInf _

/-- An R(ACK) of the reader, once the command is out. -/
theorem rack_said (hcid : h.cid = g.cid) (hnum : h.blockNumber = numberAt n i)
    (hi : g.commandBlocks apdu ≤ i) : h.buildRack = g.said n apdu i := by
  rw [said, if_neg (Nat.not_lt_of_le hi)]
  exact buildRack_congr hcid hnum

/-- An R(ACK) of the card, while more of the command is to come. -/
theorem rack_replied (hcid : h.cid = g.cardCid) (hnum : h.blockNumber = numberAt n i)
    (hi : i + 1 < g.commandBlocks apdu) : h.buildRack = g.replied n apdu resp i := by
  rw [replied, if_pos hi]
  exact buildRack_congr hcid hnum

/-- A chunk of the response, the last call of the command bringing the first. -/
theorem chunk_replied (hcid : h.cid = g.cardCid) (hnum : h.blockNumber = numberAt n i)
    (hindex : i + 1 = g.commandBlocks apdu + j) :
    Peer.chunk h resp g.responseInf (j * g.responseInf) = g.replied n apdu resp i := by
  rw [replied, if_neg (by omega), show i + 1 - g.commandBlocks apdu = j by omega]
  exact Peer.chunk_congr hcid hnum resp g.responseInf _

end Setting

namespace Reader

open Pcd

variable {respond : List ChainVec → List UInt8} {s : Reader} {w : Wire} {g : Setting} {n : Fin 2}
  {apdu resp : List UInt8} {handed : List ChainVec} {m f i : Nat}

/-- The parameters of a session do not depend on where the handler of the reader stands. -/
theorem setting_handler (s : Reader) {k : ProtocolHandler} (hcid : k.cid = s.handler.cid)
    (hlimits : k.limits = s.handler.limits) :
    setting ({ s with handler := k } : Reader) = s.setting := by
  simp only [setting, hcid, hlimits, card]

/-- **In step**: the card is in `receive_command` with nothing of a command, and the two block numbers
    are opposite. -/
structure InStep (s : Reader) : Prop where
  call : s.card.session.call = some .receiveCommand
  chain : s.card.session.picc.handler.chain = []
  number : s.card.session.picc.handler.blockNumber = 1 - s.handler.blockNumber

/-! ## The command

  Nothing may get lost here, so each round is one call, and the log is the dialogue so far. -/

/-- The exchange after `i` calls that were all delivered, with more of the command to come.  The
    card has exactly the bytes of the calls so far (`cardChain`), and both numbers are told from
    `i`. -/
structure Sending (respond : List ChainVec → List UInt8) (g : Setting) (n : Fin 2)
    (apdu : List UInt8) (handed : List ChainVec) (f i : Nat) (s : Reader) (w : Wire) : Prop where
  linked : Linked respond s w
  setting : s.setting = g
  number : s.handler.blockNumber = numberAt n i
  frames : s.handler.counters.frames ≤ i
  chain : s.handler.chain = []
  cardCall : w.peer.call = .receiveCommand
  cardNumber : w.peer.handler.blockNumber = 1 - numberAt n i
  cardFrames : w.peer.handler.counters.frames ≤ f + i
  cardChain : w.peer.handler.chain = apdu.take (i * g.commandInf)
  handed : w.peer.handed = handed

/-- The exchange after call `i`, which brought `a`: the chunk `j` of the response.  The reader has
    exactly the bytes before it (`chain`), and the card can still be made to send it again
    (`offers`). -/
structure Collecting (respond : List ChainVec → List UInt8) (g : Setting) (n : Fin 2)
    (apdu resp : List UInt8) (handed : List ChainVec) (m i j : Nat) (s : Reader) (w : Wire)
    (a : Block) : Prop where
  index : i + 1 = g.commandBlocks apdu + j
  linked : Linked respond s w
  setting : s.setting = g
  number : s.handler.blockNumber = numberAt n i
  frames : s.handler.counters.frames ≤ i
  chain : s.handler.chain = resp.take (j * g.responseInf)
  block : a = g.replied n apdu resp i
  gave : w.peer.Gave resp g.responseInf (j * g.responseInf) (numberAt n i)
  offers : w.peer.Offers m resp g.responseInf (j * g.responseInf) (numberAt n i) 0
    (m * (g.responseBlocks resp - 1 - j))
  handed : w.peer.handed = handed

/-- The card has the whole command: it has handed it over, and has sent the first chunk of the
    response, which it can be made to send again. -/
structure Answering [Build] (g : Setting) (resp : List UInt8) (handed : List ChainVec) (m : Nat)
    (k : Fin 2) (p p' : Peer) : Prop where
  keeps : p.Keeps p'
  gave : p'.Gave resp g.responseInf 0 k
  offers : p'.Offers m resp g.responseInf 0 k 0 (m * (g.responseBlocks resp - 1))
  handed : p'.handed = handed

namespace Sending

/-- While the command goes out, the chunk size is the one of the setting. -/
theorem maxInf (h : Sending respond g n apdu handed f i s w) : s.maxInf = g.commandInf := by
  rw [← h.setting]
  rfl

/-- It is not zero. -/
theorem commandInf_pos (h : Sending respond g n apdu handed f i s w) : 0 < g.commandInf := by
  rw [← h.maxInf]
  exact Nat.pos_of_ne_zero h.linked.maxInf_bounds.1

/-- The next chunk of the command is what the list of calls says. -/
theorem commandChunk_eq (h : Sending respond g n apdu handed f i s w)
    (hi : i < g.commandBlocks apdu) : s.commandChunk apdu (i * g.commandInf) = g.said n apdu i := by
  have hcid : s.handler.cid = g.cid := by rw [h.linked.eq_of_setting h.setting]
  rw [← Setting.chunk_said hcid h.number hi, ← h.maxInf]
  rfl

/-- What the chunk is. -/
theorem said_chunk (h : Sending respond g n apdu handed f i s w) (hi : i < g.commandBlocks apdu) :
    (g.said n apdu i).blockType = .iBlock ∧ (g.said n apdu i).blockNumber = numberAt n i ∧
      (g.said n apdu i).isChaining = decide (i + 1 < g.commandBlocks apdu) ∧
      w.peer.handler.chain ++ (g.said n apdu i).payload = apdu.take ((i + 1) * g.commandInf) := by
  obtain ⟨ht, hn, hc, hp⟩ := s.blockType_commandChunk apdu (i * g.commandInf)
  rw [h.commandChunk_eq hi] at ht hn hc hp
  refine ⟨ht, hn.trans h.number, ?_, ?_⟩
  · rw [hc, h.maxInf]
    exact decide_eq_decide.mpr (more_iff h.commandInf_pos apdu i)
  · rw [hp, h.cardChain, h.maxInf, take_append_chunkAt, Nat.succ_mul]

variable [Build]

/-- The card has room for the chunk. -/
theorem room (h : Sending respond g n apdu handed f i s w) (haff : g.Affords m f apdu resp)
    (hi : i < g.commandBlocks apdu) : w.peer.handler.FrameOk ∧
      w.peer.handler.chain.length + (g.said n apdu i).payload.length ≤
        w.peer.handler.limits.maxChainLen ∧
      Fits chainCap (w.peer.handler.chain.length + (g.said n apdu i).payload.length) := by
  have hlimits : w.peer.handler.limits = g.cardLimits := by rw [h.linked.eq_of_setting h.setting]
  have hframes := h.cardFrames
  have hbudget := haff.cardFrames
  refine ProtocolHandler.room (h.said_chunk hi).2.2.2 ?_ ?_ haff.commandFits
  · rw [hlimits]
    omega
  · rw [hlimits]
    exact haff.command

/-- The card takes a chunk with more to come, and answers with the R(ACK) of the list. -/
theorem acknowledged (h : Sending respond g n apdu handed f i s w) (haff : g.Affords m f apdu resp)
    (hi : i + 1 < g.commandBlocks apdu) (hfate : w.fates.getD 0 .delivered = .delivered) :
    w.call respond s.fsd (g.said n apdu i) = (some (g.replied n apdu resp i),
        ⟨{ w.peer with
            handler := (w.peer.handler.counted.extended (g.said n apdu i).payload).advanced
            last := some w.peer.handler.advanced.buildRack }, w.fates.tail⟩) ∧
      (g.replied n apdu resp i).IsRack s.handler.blockNumber := by
  obtain ⟨ht, hn, hc, -⟩ := h.said_chunk (Nat.lt_of_succ_lt hi)
  obtain ⟨hf, hl, hb⟩ := h.room haff (Nat.lt_of_succ_lt hi)
  have hstep := Peer.step_taken h.cardCall h.linked.sound.role ht (hc.trans (decide_eq_true hi))
    (by rw [hn]; exact h.cardNumber) hf hl hb respond s.fsd
  have hcall := Wire.call_next respond s.fsd (g.said n apdu i) hfate
  rw [hstep] at hcall
  have hnum : w.peer.handler.advanced.blockNumber = numberAt n i := by
    rw [advanced_blockNumber, h.cardNumber, one_sub_one_sub]
  have hcid : w.peer.handler.cid = g.cardCid := by rw [h.linked.eq_of_setting h.setting]
  have hrack : w.peer.handler.advanced.buildRack = g.replied n apdu resp i :=
    Setting.rack_replied hcid hnum hi
  constructor
  · rw [hcall]
    exact congrArg (fun b => (some b, _)) hrack
  · rw [h.number, ← hrack, ← hnum]
    exact isRack_buildRack _

/-- **A chunk with more to come**: the card takes it in and acknowledges it.  The round is one call,
    and the invariant holds again with one more behind it. -/
theorem next (h : Sending respond g n apdu handed f i s w) (haff : g.Affords m f apdu resp)
    (hi : i + 1 < g.commandBlocks apdu) (hfate : w.fates.getD 0 .delivered = .delivered)
    (fuel : Nat) (last : Option Block) :
    ∃ s' w', Sending respond g n apdu handed f (i + 1) s' w' ∧
      (sendLoop apdu g.commandInf (fuel + 1) (i * g.commandInf) last).run s =
        (sendLoop apdu g.commandInf fuel ((i + 1) * g.commandInf) last).run s' ∧
      calls s' = calls s ++ [g.turn n apdu resp i] ∧ w'.fates = w.fates.tail := by
  obtain ⟨-, -, -, hp⟩ := h.said_chunk (Nat.lt_of_succ_lt hi)
  have hchunk := h.commandChunk_eq (Nat.lt_of_succ_lt hi)
  obtain ⟨hcall, hack⟩ := h.acknowledged haff hi hfate
  have hmore : i * g.commandInf + s.maxInf < apdu.length := by
    rw [h.maxInf]
    exact (more_iff h.commandInf_pos apdu i).mpr hi
  have hsome : (w.call respond s.fsd (s.commandChunk apdu (i * g.commandInf))).1 =
      some (g.replied n apdu resp i) := by
    rw [hchunk, hcall]
  have hframe : s.handler.FrameOk := by
    have hframes := h.frames
    have hbudget := haff.frames
    have hlimits : s.handler.limits = g.limits := by rw [h.linked.eq_of_setting h.setting]
    apply frameOk_of_le
    rw [hlimits]
    omega
  obtain ⟨t, hrun, hl', hcalls⟩ := sendLoop_acked h.linked hmore hsome hack fuel last
  rw [if_pos hframe, h.maxInf] at hrun
  rw [hchunk, hcall] at hl'
  have hsetting := (setting_handler (s.withTransceiver t) rfl rfl).trans
    ((h.linked.setting_call hl' ⟨rfl, rfl⟩).trans h.setting)
  have hlinked := hl'.withHandler (k := s.handler.counted.advanced) h.linked.role
  rw [← Nat.succ_mul] at hrun
  refine ⟨_, _, ⟨hlinked, hsetting, ?_, ?_, h.chain, h.cardCall, ?_, ?_, hp, h.handed⟩, hrun, ?_, rfl⟩
  · show 1 - s.handler.blockNumber = _
    rw [h.number, one_sub_numberAt]
  · exact Nat.le_trans s.handler.frames_counted (Nat.succ_le_succ h.frames)
  · show 1 - w.peer.handler.blockNumber = _
    rw [h.cardNumber, one_sub_numberAt]
  · exact Nat.le_trans w.peer.handler.frames_counted (Nat.succ_le_succ h.cardFrames)
  · show calls (s.withTransceiver t) = _
    rw [hcalls, hchunk, h.linked.eq_of_setting h.setting]
    rfl

/-- The card is left with frames for every chunk of the response, however often each is repeated. -/
theorem cardFrames_left (h : Sending respond g n apdu handed f i s w)
    (haff : g.Affords m f apdu resp) (hi : i + 1 = g.commandBlocks apdu) :
    w.peer.handler.counted.counters.frames + m * (g.responseBlocks resp - 1) ≤
      w.peer.handler.limits.maxFrames := by
  have hframes := h.cardFrames
  have hcount := w.peer.handler.frames_counted
  have hbudget := haff.cardFrames
  have hlimits : w.peer.handler.limits = g.cardLimits := by rw [h.linked.eq_of_setting h.setting]
  rw [hlimits]
  omega

/-- The last chunk completes the command at the card, which hands it over and answers with the first
    chunk of the response. -/
theorem completed (h : Sending respond g n apdu handed f i s w)
    (hresp : resp = respond (handed ++ [apdu])) (haff : g.Affords m f apdu resp) (hm : 0 < m)
    (hi : i + 1 = g.commandBlocks apdu) (hfate : w.fates.getD 0 .delivered = .delivered) :
    ∃ p, w.call respond s.fsd (g.said n apdu i) =
        (some (g.replied n apdu resp i), ⟨p, w.fates.tail⟩) ∧
      Answering g resp (handed ++ [apdu]) m (numberAt n i) w.peer p := by
  have hlt : i < g.commandBlocks apdu := by omega
  obtain ⟨ht, hn, hc, hp⟩ := h.said_chunk hlt
  obtain ⟨hf, hl, hb⟩ := h.room haff hlt
  have hend : apdu.length ≤ (i + 1) * g.commandInf := by
    have hmore := more_iff h.commandInf_pos apdu i
    rw [← Setting.commandBlocks] at hmore
    rw [Nat.succ_mul]
    omega
  rw [List.take_of_length_le hend] at hp
  have hstep := Peer.step_completed h.cardCall h.linked.sound.role ht
    (hc.trans (decide_eq_false (by omega))) (by rw [hn]; exact h.cardNumber) hf hl hb respond s.fsd
  rw [hp, h.handed, ← hresp, h.linked.responseInf_setting, h.setting] at hstep
  have hcall := Wire.call_next respond s.fsd (g.said n apdu i) hfate
  rw [hstep] at hcall
  -- the first chunk, and what the card keeps of it
  have hnum : (w.peer.handing apdu).handler.blockNumber = numberAt n i := by
    show 1 - w.peer.handler.blockNumber = _
    rw [h.cardNumber, one_sub_one_sub]
  obtain ⟨hout, hgave⟩ := Peer.gave_sendChunk hnum resp g.responseInf 0
  have hkeeps := Peer.keeps_sendChunk (w.peer.handing apdu) resp g.responseInf 0
  have hlimits : w.peer.handler.limits = g.cardLimits := by rw [h.linked.eq_of_setting h.setting]
  have hagain : m ≤ w.peer.handler.limits.maxRetransmissions + 1 := by
    rw [hlimits]
    exact haff.again
  have hoffers := Peer.offers_sendChunk hnum rfl (h.cardFrames_left haff hi) hagain rfl hm resp
    g.responseInf 0
  have hcid : w.peer.handler.cid = g.cardCid := by rw [h.linked.eq_of_setting h.setting]
  have hblock : Peer.chunk ((w.peer.handing apdu).sendChunk resp g.responseInf 0).2.handler resp
      g.responseInf (0 * g.responseInf) = g.replied n apdu resp i :=
    Setting.chunk_replied (hkeeps.1.trans hcid) hgave.number hi
  rw [Nat.zero_mul] at hblock
  have hhanded : ((w.peer.handing apdu).sendChunk resp g.responseInf 0).2.handed =
      handed ++ [apdu] := by
    rw [← h.handed]
    simp only [Peer.sendChunk]
    split <;> rfl
  refine ⟨_, ?_, ⟨hkeeps, hgave, hoffers, hhanded⟩⟩
  rw [hcall, hout, hblock]

/-- **The last chunk**: the card has the command, hands it over, and answers with the first chunk of
    the response. -/
theorem last (h : Sending respond g n apdu handed f i s w) (hresp : resp = respond (handed ++ [apdu]))
    (haff : g.Affords m f apdu resp) (hm : 0 < m) (hne : apdu ≠ [])
    (hi : i + 1 = g.commandBlocks apdu) (hfate : w.fates.getD 0 .delivered = .delivered)
    (fuel : Nat) (last : Option Block) :
    ∃ s' w' a, Collecting respond g n apdu resp (handed ++ [apdu]) m i 0 s' w' a ∧
      (sendLoop apdu g.commandInf (fuel + 1) (i * g.commandInf) last).run s =
        (.ok (some a.wire), s') ∧
      calls s' = calls s ++ [g.turn n apdu resp i] ∧ w'.fates = w.fates.tail := by
  have hlt : i < g.commandBlocks apdu := by omega
  have hchunk := h.commandChunk_eq hlt
  obtain ⟨p, hcall, hanswering⟩ := h.completed hresp haff hm hi hfate
  have hend : apdu.length ≤ i * g.commandInf + s.maxInf := by
    have hmore := more_iff h.commandInf_pos apdu i
    rw [← Setting.commandBlocks] at hmore
    rw [h.maxInf]
    omega
  have hoff : i * g.commandInf < apdu.length := by
    cases i with
    | zero => simpa using List.length_pos_iff.mpr hne
    | succ i =>
      have hmore := (more_iff h.commandInf_pos apdu i).mpr hlt
      rwa [Nat.succ_mul]
  have hsome : (w.call respond s.fsd (s.commandChunk apdu (i * g.commandInf))).1 =
      some (g.replied n apdu resp i) := by
    rw [hchunk, hcall]
  obtain ⟨t, hrun, hl', hcalls⟩ := sendLoop_last h.linked hoff hend hsome fuel last
  rw [h.maxInf] at hrun
  rw [hchunk, hcall] at hl'
  refine ⟨_, _, _, ⟨hi, hl', (h.linked.setting_call hl' hanswering.keeps).trans h.setting, h.number,
    h.frames, ?_, rfl, ?_, ?_, hanswering.handed⟩, hrun, ?_, rfl⟩
  · rw [Nat.zero_mul, List.take_zero]
    exact h.chain
  · rw [Nat.zero_mul]
    exact hanswering.gave
  · rw [Nat.zero_mul, Nat.sub_zero]
    exact hanswering.offers
  · rw [hcalls, hchunk, h.linked.eq_of_setting h.setting]
    rfl

/-- **The send loop** from call `i` on: all the calls of the command.  The induction is on the calls
    that are left, and the last one brings the first chunk of the response. -/
theorem sendLoop_delivers (haff : g.Affords m f apdu resp) (hm : 0 < m) (hne : apdu ≠ [])
    (hresp : resp = respond (handed ++ [apdu])) (k : Nat) : ∀ {i fuel : Nat} {s : Reader} {w : Wire},
    Sending respond g n apdu handed f i s w → i + (k + 1) = g.commandBlocks apdu → k + 1 ≤ fuel →
    (∀ j ≤ k, w.fates.getD j .delivered = .delivered) →
    ∃ s' w' a, Collecting respond g n apdu resp (handed ++ [apdu]) m (i + k) 0 s' w' a ∧
      (sendLoop apdu g.commandInf fuel (i * g.commandInf) none).run s = (.ok (some a.wire), s') ∧
      calls s' = calls s ++ (List.range' i (k + 1)).map (g.turn n apdu resp) ∧
      w'.fates = w.fates.drop (k + 1) := by
  induction k with
  | zero =>
    intro i fuel s w h hi hfuel hfate
    obtain ⟨fuel, rfl⟩ : ∃ k, fuel = k + 1 := ⟨fuel - 1, by omega⟩
    obtain ⟨s', w', a, hcollect, hrun, hcalls, hfates⟩ :=
      h.last hresp haff hm hne hi (hfate 0 (Nat.le_refl _)) fuel none
    exact ⟨s', w', a, hcollect, hrun, hcalls, by rw [hfates, ← List.drop_one]⟩
  | succ k ih =>
    intro i fuel s w h hi hfuel hfate
    obtain ⟨fuel, rfl⟩ : ∃ k, fuel = k + 1 := ⟨fuel - 1, by omega⟩
    obtain ⟨s', w', hsending, hrun, hcalls, hfates⟩ :=
      h.next haff (by omega) (hfate 0 (Nat.zero_le _)) fuel none
    have hfate' : ∀ j ≤ k, w'.fates.getD j .delivered = .delivered := by
      intro j hj
      rw [hfates, ← List.drop_one]
      simpa [List.getD_eq_getElem?_getD, Nat.add_comm] using hfate (j + 1) (by omega)
    obtain ⟨s'', w'', a, hcollect, hrun', hcalls', hfates'⟩ :=
      ih hsending (by omega) (Nat.le_of_succ_le_succ hfuel) hfate'
    refine ⟨s'', w'', a, ?_, hrun.trans hrun', ?_, ?_⟩
    · rwa [Nat.add_assoc, Nat.add_comm 1 k] at hcollect
    · rw [hcalls', hcalls, List.append_assoc, List.range'_succ]
      rfl
    · rw [hfates', hfates, List.drop_tail]

end Sending

/-! ## The response

  From the first I-Block of the response on, a call may have failed up to `m - 1` times before it
  is delivered, and the log is a retelling of the dialogue. -/

namespace Collecting

variable {j : Nat} {a : Block}

/-- The chunk size of the response is not zero either. -/
theorem responseInf_pos (h : Collecting respond g n apdu resp handed m i j s w a) :
    0 < g.responseInf := by
  rw [← h.setting, ← h.linked.responseInf_setting]
  exact Peer.maxInf_pos _ h.linked.fsd_ge

/-- What the chunk is. -/
theorem chunk_eq (h : Collecting respond g n apdu resp handed m i j s w a) :
    a.blockType = .iBlock ∧ a.blockNumber = numberAt n i ∧
      a.isChaining = decide (j + 1 < g.responseBlocks resp) ∧
      s.handler.chain ++ a.payload = resp.take ((j + 1) * g.responseInf) := by
  have hindex := h.index
  have hj : i + 1 - g.commandBlocks apdu = j := by omega
  obtain ⟨ht, hn, hc, hp⟩ := Peer.blockType_chunk (g.card (numberAt n i)) resp g.responseInf
    (j * g.responseInf)
  rw [h.block, Setting.replied, if_neg (by omega), hj]
  refine ⟨ht, hn, ?_, ?_⟩
  · rw [hc]
    exact decide_eq_decide.mpr (more_iff h.responseInf_pos resp j)
  · rw [hp, h.chain, take_append_chunkAt, Nat.succ_mul]

variable [Build]

/-- The reader has room for it, and takes it for a new one. -/
theorem room (h : Collecting respond g n apdu resp handed m i j s w a)
    (haff : g.Affords m f apdu resp) (hj : j < g.responseBlocks resp) :
    ¬ s.handler.repeatsLastIblock a ∧ s.handler.FrameOk ∧
      s.handler.chain.length + a.payload.length ≤ s.handler.limits.maxChainLen ∧
      Fits chainCap (s.handler.chain.length + a.payload.length) := by
  have hlimits : s.handler.limits = g.limits := by rw [h.linked.eq_of_setting h.setting]
  have hframes := h.frames
  have hbudget := haff.frames
  have hindex := h.index
  refine ⟨?_, ProtocolHandler.room h.chunk_eq.2.2.2 ?_ ?_ haff.responseFits⟩
  · simp [repeatsLastIblock, h.linked.role, h.number, h.chunk_eq.2.1]
  · rw [hlimits]
    omega
  · rw [hlimits]
    exact haff.response

omit [Build] in
/-- One chunk less to come, and the frames for the calls that it took are there. -/
theorem frames_left {q blocks : Nat} (hq : q < m) (hj : j + 1 < blocks) :
    q + 1 + m * (blocks - 1 - (j + 1)) ≤ m * (blocks - 1 - j) := by
  obtain ⟨k, hk⟩ : ∃ k, blocks - 1 - j = k + 1 := ⟨blocks - 1 - j - 1, by omega⟩
  rw [hk, show blocks - 1 - (j + 1) = k by omega, Nat.mul_succ]
  omega

/-- **A chunk with more to come**: the reader takes it in, and asks for the next one until a call is
    delivered. -/
theorem next (h : Collecting respond g n apdu resp handed m i j s w a)
    (haff : g.Affords m f apdu resp) (hm : m ≤ maxRetries + 1) (hpatient : Fate.Patient m w.fates)
    (hj : j + 1 < g.responseBlocks resp) (fuel : Nat) :
    ∃ q s' w' a', q < m ∧ Collecting respond g n apdu resp handed m (i + 1) (j + 1) s' w' a' ∧
      (collectResponse (fuel + 1) a.wire).run s = (collectResponse fuel a'.wire).run s' ∧
      calls s' = calls s ++ (List.replicate q ((g.turn n apdu resp (i + 1)).1, .error ()) ++
        [g.turn n apdu resp (i + 1)]) ∧
      w'.fates = w.fates.drop (q + 1) := by
  have hindex := h.index
  obtain ⟨ht, -, hc, hp⟩ := h.chunk_eq
  obtain ⟨hrep, hf, hl, hb⟩ := h.room haff (Nat.lt_of_succ_lt hj)
  have hr := Received.eq (.chained hf ht hrep hl hb (hc.trans (decide_eq_true hj)))
  have hr : receive s.handler a.wire = _ := hr
  have hmore : j * g.responseInf + g.responseInf < resp.length :=
    (more_iff h.responseInf_pos resp j).mpr hj
  -- the reader asks
  have hnum : (s.handler.counted.extended a.payload).advanced.blockNumber = numberAt n (i + 1) := by
    show 1 - s.handler.blockNumber = _
    rw [h.number, one_sub_numberAt]
  obtain ⟨q', hq', hfate⟩ := hpatient 0 (Nat.zero_le _)
  rw [Nat.zero_add] at hfate
  have hoffers := h.offers.next h.gave hmore
  rw [one_sub_numberAt, ← Nat.succ_mul] at hoffers
  have hbudget := frames_left hq' hj
  have hl1 := h.linked.withHandler (k := (s.handler.counted.extended a.payload).advanced) h.linked.role
  obtain ⟨q, t, w', hq, hgot, hrun⟩ := ask (k := maxRetries + 1) q' hl1 hnum
    (hoffers.mono (by omega) hbudget) hfate (by omega)
  have hcid : s.handler.cid = g.cid := by rw [h.linked.eq_of_setting h.setting]
  have hrack : s.handler.advanced.buildRack = g.said n apdu (i + 1) :=
    Setting.rack_said hcid hnum (by omega)
  have hcardCid : w.peer.handler.cid = g.cardCid := by rw [h.linked.eq_of_setting h.setting]
  have hblock : Peer.chunk w'.peer.handler resp g.responseInf ((j + 1) * g.responseInf) =
      g.replied n apdu resp (i + 1) :=
    Setting.chunk_replied (hgot.keeps.1.trans hcardCid) hgot.gave.number (by omega)
  have hsetting := (hl1.setting_call hgot.linked hgot.keeps).trans
    ((setting_handler s rfl rfl).trans h.setting)
  refine ⟨q, _, w', _, by omega, ⟨by omega, hgot.linked, hsetting, hnum, ?_, hp, rfl, ?_, ?_, ?_⟩, ?_, ?_,
    hgot.fates⟩
  · exact Nat.le_trans s.handler.frames_counted (Nat.succ_le_succ h.frames)
  · exact hgot.gave
  · exact hgot.offers
  · exact hgot.handed.trans h.handed
  · rw [← run_transceiveWithRecovery, hblock] at hrun
    rw [run_collectResponse hr]
    exact Act.run_bind_ok hrun _
  · have hcrc : g.hwCrc = s.hwCrc := by rw [h.linked.eq_of_setting h.setting]
    have hcalls := hgot.calls
    rw [hblock] at hcalls
    rw [Setting.turn, ← hrack, hcrc]
    exact hcalls

/-- **The last chunk** completes the response, and both sides are in step again, with few frames
    counted at the card. -/
theorem last (h : Collecting respond g n apdu resp handed m i j s w a)
    (haff : g.Affords m f apdu resp) (hj : j + 1 = g.responseBlocks resp) (fuel : Nat) :
    ∃ s' : Reader, (collectResponse (fuel + 1) a.wire).run s = (.ok resp, s') ∧
      Linked respond s' w ∧
      s'.InStep ∧ s'.setting = g ∧ s'.card.session.picc.handler.counters.frames < m ∧
      calls s' = calls s := by
  obtain ⟨ht, -, hc, hp⟩ := h.chunk_eq
  obtain ⟨hrep, hf, hl, hb⟩ := h.room haff (by omega)
  have hchaining : a.isChaining = false := hc.trans (decide_eq_false (by omega))
  have hr := Received.eq (.complete hf ht hrep hl hb (by simp [hchaining]))
  have hr : receive s.handler a.wire = _ := hr
  have hend : ¬ j * g.responseInf + g.responseInf < resp.length := by
    rw [more_iff h.responseInf_pos resp j, ← Setting.responseBlocks]
    omega
  rw [List.take_of_length_le (by rw [Nat.succ_mul]; omega)] at hp
  rw [hp] at hr
  have hcall := h.gave.call
  rw [if_neg hend] at hcall
  have hlinked := h.linked.withHandler (k := s.handler.counted.advanced.dropChain) h.linked.role
  refine ⟨_, by rw [run_collectResponse hr]; rfl, hlinked, ⟨?_, ?_, ?_⟩, ?_, ?_, rfl⟩
  · exact h.linked.shows.call.trans (congrArg some hcall)
  · exact (congrArg ProtocolHandler.chain h.linked.shows.handler).trans h.offers.chain
  · refine (congrArg ProtocolHandler.blockNumber h.linked.shows.handler).trans ?_
    show _ = 1 - (1 - s.handler.blockNumber)
    rw [one_sub_one_sub, h.gave.number, h.number]
  · exact (setting_handler s rfl rfl).trans h.setting
  · have hframes : w.peer.handler.counters.frames < m := by
      rcases h.offers.stands with ⟨hnext, -⟩ | ⟨-, -, hidle⟩
      · exact absurd (h.gave.number.symm.trans hnext.number) (ne_one_sub _)
      · exact hidle hcall
    rw [← h.linked.shows.handler] at hframes
    exact hframes

/-- **The receive loop** from call `i` on: the other calls of the response, each of them repeated
    until it is delivered. -/
theorem collectResponse_delivers (haff : g.Affords m f apdu resp) (hm : m ≤ maxRetries + 1) (k : Nat) :
    ∀ {i j fuel : Nat} {s : Reader} {w : Wire} {a : Block},
    Collecting respond g n apdu resp handed m i j s w a → j + (k + 1) = g.responseBlocks resp →
    k + 1 ≤ fuel → Fate.Patient m w.fates →
    ∃ (s' : Reader) (w' : Wire) (log : List (Frame × Except Unit FrameVec)),
      (collectResponse fuel a.wire).run s = (.ok resp, s') ∧ Linked respond s' w' ∧ s'.InStep ∧
      s'.setting = g ∧ s'.card.session.picc.handler.counters.frames < m ∧
      w'.peer.handed = handed ∧ calls s' = calls s ++ log ∧
      Retold m ((List.range' (i + 1) k).map (g.turn n apdu resp)) log ∧
      w'.fates = w.fates.drop log.length := by
  induction k with
  | zero =>
    -- the reader holds the last chunk
    intro i j fuel s w a h hj hfuel _
    obtain ⟨fuel, rfl⟩ : ∃ k, fuel = k + 1 := ⟨fuel - 1, by omega⟩
    obtain ⟨s', hrun, hl, hstep, hsetting, hframes, hcalls⟩ := h.last haff hj fuel
    exact ⟨s', w, [], hrun, hl, hstep, hsetting, hframes, h.handed, by rw [hcalls, List.append_nil],
      .nil, rfl⟩
  | succ k ih =>
    -- it takes its chunk in, asks for the next one, and goes on with that
    intro i j fuel s w a h hj hfuel hpatient
    obtain ⟨fuel, rfl⟩ : ∃ k, fuel = k + 1 := ⟨fuel - 1, by omega⟩
    obtain ⟨q, s', w', a', hq, hcollect, hrun, hcalls, hfates⟩ :=
      h.next haff hm hpatient (by omega) fuel
    have hpatient' : Fate.Patient m w'.fates := by
      rw [hfates]
      exact hpatient.drop _
    obtain ⟨s'', w'', log, hrun', hl, hstep, hsetting, hframes, hhanded, hcalls', hretold, hfates'⟩ :=
      ih hcollect (by omega) (Nat.le_of_succ_le_succ hfuel) hpatient'
    refine ⟨s'', w'', _, hrun.trans hrun', hl, hstep, hsetting, hframes, hhanded, ?_,
      .cons hq hretold, ?_⟩
    · rw [hcalls', hcalls]
      simp
    · rw [hfates', hfates, List.drop_drop]
      congr 1
      simp
      omega

end Collecting

/-! ## The exchange

  The two loops, with the state between them: the reader has the first I-Block of the response, and
  has taken nothing in. -/

/-- **The exchange was delivered**: the card was handed the command, the calls were those of the
    dialogue, and reader and card are in step again, under the parameters they had. -/
structure Delivered (m : Nat) (s : Reader) (apdu resp : List UInt8) (s' : Reader) : Prop where
  handed : s'.card.handed = s.card.handed ++ [apdu]
  talk : ∃ log, calls s' = calls s ++ log ∧
    Retold m (s.setting.dialogue s.handler.blockNumber apdu resp) log
  inStep : s'.InStep
  setting : s'.setting = s.setting
  /-- The card may have counted R(ACK)s after the last chunk. -/
  frames : s'.card.session.picc.handler.counters.frames < m

/-- The start of an exchange. -/
theorem InStep.sending (hstep : s.InStep) (h : Linked respond s w) (apdu : List UInt8) :
    Sending respond s.setting s.handler.blockNumber apdu s.card.handed
      s.card.session.picc.handler.counters.frames 0
      { s with handler := s.handler.beginExchange } w := by
  have hhandler := h.shows.handler
  refine ⟨h.withHandler h.role, setting_handler s rfl rfl, (numberAt_zero _).symm, Nat.le_refl _, rfl,
    ?_, ?_, ?_, ?_, h.shows.handed.symm⟩
  · exact Option.some.inj (h.shows.call.symm.trans hstep.call)
  · rw [← hhandler, numberAt_zero]
    exact hstep.number
  · rw [← hhandler]
    exact Nat.le_refl _
  · rw [← hhandler, Nat.zero_mul, List.take_zero]
    exact hstep.chain

variable [Build]

/-- **An exchange is delivered**, if the command arrives and `m` calls in a row never fail from then
    on, as far as the limits go. -/
theorem exchange_delivers (h : Linked respond s w) (hstep : s.InStep) (hne : apdu ≠ [])
    (hresp : resp = respond (s.card.handed ++ [apdu])) (hm : 0 < m) (hretries : m ≤ maxRetries + 1)
    (haff : s.setting.Affords m s.card.session.picc.handler.counters.frames apdu resp)
    (hfirst : ∀ i < s.setting.commandBlocks apdu, w.fates.getD i .delivered = .delivered)
    (hpatient : Fate.Patient m (w.fates.drop (s.setting.commandBlocks apdu))) {fuel : Nat}
    (hcommand : s.setting.commandBlocks apdu ≤ fuel)
    (hresponse : s.setting.responseBlocks resp ≤ fuel) :
    ∃ s' w', (exchange fuel apdu).run s = (.ok resp, s') ∧ Linked respond s' w' ∧
      s.Delivered m apdu resp s' ∧ ∃ k, w'.fates = w.fates.drop k := by
  obtain ⟨k, hk⟩ : ∃ k, s.setting.commandBlocks apdu = k + 1 := ⟨_, rfl⟩
  obtain ⟨l, hl⟩ : ∃ l, s.setting.responseBlocks resp = l + 1 := ⟨_, rfl⟩
  rw [hk] at hfirst hpatient hcommand
  rw [hl] at hresponse
  obtain ⟨s', w', a, hcollect, hrun, hcalls, hfates⟩ := Sending.sendLoop_delivers haff hm hne hresp k
    (hstep.sending h apdu) (by rw [hk, Nat.zero_add]) hcommand fun j hj => hfirst j (by omega)
  rw [← hfates] at hpatient
  obtain ⟨s'', w'', log, hrun', hlinked, hstep', hsetting, hframes, hhanded, hcalls', hretold, hfates'⟩ :=
    hcollect.collectResponse_delivers haff hretries l (by rw [hl, Nat.zero_add]) hresponse hpatient
  have hinf : s.maxInf = s.setting.commandInf := rfl
  rw [Nat.zero_mul, ← hinf] at hrun
  have htalk : ∃ log, calls s'' = calls s ++ log ∧
      Retold m (s.setting.dialogue s.handler.blockNumber apdu resp) log := by
    refine ⟨(List.range' 0 (k + 1)).map (s.setting.turn s.handler.blockNumber apdu resp) ++ log, ?_, ?_⟩
    · rw [hcalls', hcalls, List.append_assoc]
      rfl
    · rw [Setting.dialogue, hk, hl, List.range_eq_range',
        show k + 1 + (l + 1) - 1 = (k + 1) + l by omega, ← List.range'_append_1, List.map_append]
      exact (Retold.refl hm _).append (by simpa [Nat.add_comm] using hretold)
  refine ⟨s'', w'', ?_, hlinked, ⟨?_, htalk, hstep', hsetting, hframes⟩, k + 1 + log.length, ?_⟩
  · rw [run_exchange fuel apdu s h.maxInf_bounds.1, Act.run_bind_ok hrun]
    exact hrun'
  · rw [hlinked.shows.handed, hhanded]
  · rw [hfates', hfates, List.drop_drop]

end Reader

end Iso14443
