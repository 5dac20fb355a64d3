/-
  A command on its way in chunks (`Pcd::exchange`).

  What `exchange` puts on the air is compared with the chunks of its APDU, whatever the card
  answers: it may acknowledge too early, acknowledge the wrong block, ask again or fall silent.

  * **The general part** is `Iso14443.Lib.StopAndWait`: a sender whose frames and acknowledgements
    come in a sequence of moments is on pace if, after `k` acknowledgements, what it sends is chunk
    `k`.
  * `chunkFrame` — the frame of the I-Block that carries chunk `k` of the data, with its number and
    chaining bit.
  * `listen`     — what one call of its transceiver is to a reader: a frame sent, and perhaps an
                   acknowledgement heard.  The acknowledgement is the handler's own `ChainingAck`.
  * `Follows`    — the invariant: the reader on its way has made these calls, its handler is the
                   one that listened to them, and it has kept pace.
  * `Sending`    — the send loop before a round, with `k` chunks acknowledged.
  * `exchange_delivers` — the frames of an exchange, in order, against the APDU.

  A frame that is no I-Block (an R(NAK), an R(ACK), an answer to S(WTX)) never disturbs the pace:
  it is `Brief`, no chunk and short enough for any frame size.
-/
import Iso14443.ChainAssembly
import Iso14443.FrameBudget
import Iso14443.Lib.StopAndWait

namespace Iso14443

open StopAndWait

/-! ## Chunks in I-Blocks

  The frames of an APDU, numbered from 0: this is what should go out, said without any loop. -/

/-- The I-Block that carries chunk `k` of `data`: chained unless it is the last. -/
def chunkBlock (cid : Option Cid) (number : Fin 2) (data : List UInt8) (size k : Nat) : Block :=
  { pcb := ((Pcb.new .iBlock).withBlockNumber number).withChaining
      (decide ((k + 1) * size < data.length))
    cid
    payload := chunk data size k }

/-- The frame it makes. -/
def chunkFrame (hwCrc : Bool) (cid : Option Cid) (number : Fin 2) (data : List UInt8)
    (size k : Nat) : Frame := .standard ((chunkBlock cid number data size k).raw hwCrc)

/-- Is it the frame of an I-Block? -/
def isIblock : Frame → Bool
  | .standard (pcb :: _) => pcb &&& PcbFlags.blockTypeMask = 0b00000000
  | _ => false

/-- The bytes of a frame on the air: hardware adds a CRC of its own. -/
def airLength (hwCrc : Bool) (frame : Frame) : Nat := frame.data.length + if hwCrc then 2 else 0

/-- On the air a block has its CRC_A, whoever computes it. -/
theorem airLength_raw (hwCrc : Bool) (b : Block) :
    airLength hwCrc (.standard (b.raw hwCrc)) = b.bytes.length + 2 := by
  rw [airLength, Frame.data_standard, Block.raw, length_closed]
  cases hwCrc <;> rfl

/-- An I-Block is told by its first byte. -/
theorem isIblock_raw {b : Block} (h : b.WellFormed) (hwCrc : Bool) :
    isIblock (.standard (b.raw hwCrc)) = decide (b.blockType = .iBlock) := by
  have hbits := Pcb.wireByte_typeBits h.pcb b.cid.isSome b.nad.isSome
  have hframe : isIblock (.standard (b.raw hwCrc)) =
      decide (Pcb.wireByte b.pcb b.cid.isSome b.nad.isSome &&& PcbFlags.blockTypeMask = 0) := by
    cases hwCrc <;> rfl
  rw [hframe, hbits, Block.blockType]
  cases b.pcb.blockType <;> rfl

/-- A chunk is a well-formed block. -/
theorem wellFormed_chunkBlock (cid : Option Cid) (number : Fin 2) (data : List UInt8)
    (size k : Nat) : (chunkBlock cid number data size k).WellFormed :=
  ⟨⟨rfl, rfl⟩, fun hn => by cases hn⟩

/-- The frame of a chunk is an I-Block on the air. -/
theorem isIblock_chunkFrame (hwCrc : Bool) (cid : Option Cid) (number : Fin 2) (data : List UInt8)
    (size k : Nat) : isIblock (chunkFrame hwCrc cid number data size k) = true := by
  rw [chunkFrame, isIblock_raw (wellFormed_chunkBlock cid number data size k)]
  rfl

/-- A chunk in its frame: the control byte, the CID and the CRC are around it. -/
theorem airLength_chunkFrame_le (hwCrc : Bool) (cid : Option Cid) (number : Fin 2)
    (data : List UInt8) (size k : Nat) : airLength hwCrc (chunkFrame hwCrc cid number data size k) ≤
      size + (3 + if cid.isSome then 1 else 0) := by
  have hchunk : (chunk data size k).length ≤ size := length_chunk_le
  rw [chunkFrame, airLength_raw, Block.length_bytes]
  show 1 + (if cid.isSome then 1 else 0) + 0 + (chunk data size k).length + 2 ≤ _
  omega

namespace ProtocolHandler

/-- An I-Block that a handler builds, field by field. -/
theorem iblockOf_eq (h : ProtocolHandler) (payload : List UInt8) (chaining : Bool) :
    h.iblockOf payload chaining =
      { pcb := ((Pcb.new .iBlock).withBlockNumber h.blockNumber).withChaining chaining
        cid := h.cid, payload } := by
  cases hcid : h.cid <;>
    simp [iblockOf, addCid, hcid, Block.withPayload, Block.withCid, Block.new]

/-- The I-Block of a handler for a chunk, which starts at a border. -/
theorem iblockOf_chunkAt (h : ProtocolHandler) (data : List UInt8) (size k : Nat) :
    h.iblockOf (Pcd.chunkAt data size (k * size)) (decide ((k + 1) * size < data.length)) =
      chunkBlock h.cid h.blockNumber data size k := by
  rw [iblockOf_eq, chunkBlock, chunk, ← Pcd.chunkAt_eq]
  simp only [Nat.succ_mul]

/-! ## What a handler hears

  The one thing that moves a sender on is `ChainingAck`.  Everything else that a handler answers
  with a block is answered with a short one, which is no I-Block. -/

/-- The acknowledgement in what a block brought. -/
def acknowledged (r : Res TypeAError Action) : List (Moment Frame) :=
  if r = .ok .chainingAck then [.acked] else []

/-- A block brings one acknowledgement or none. -/
theorem acknowledged_cases (r : Res TypeAError Action) :
    acknowledged r = [] ∨ acknowledged r = [.acked] := by
  unfold acknowledged
  split
  · exact Or.inr rfl
  · exact Or.inl rfl

variable [Build] {h k : ProtocolHandler} {b : Block}

/-- The number moves on with an acknowledgement. -/
theorem number_of_ack (hr : h.receive b = (.ok .chainingAck, k)) :
    k.blockNumber = 1 - h.blockNumber := by
  have hrec := processReceived_received h b
  rw [show (processReceived b).run h = _ from hr] at hrec
  cases hrec
  rfl

/-- It stays with a request for the last block. -/
theorem number_of_retransmit (hr : h.receive b = (.ok .chainingRetransmit, k)) :
    k.blockNumber = h.blockNumber := by
  have hrec := processReceived_received h b
  rw [show (processReceived b).run h = _ from hr] at hrec
  cases hrec
  rfl

/-- Taking in a block changes no CID. -/
theorem cid_of_receive {r : Res TypeAError Action} (hr : h.receive b = (r, k)) : k.cid = h.cid := by
  have hcid := Event.cid_eq (real_event h b)
  rw [show Run.event receive h b = ⟨h, b, r, k⟩ by rw [Run.event, hr]] at hcid
  exact hcid

/-- A block that is no I-Block, and fits the smallest frame.  An exchange puts such blocks on the
    air between its chunks: R-Blocks, and S-Blocks sent back. -/
structure Brief (b : Block) : Prop where
  wellFormed : b.WellFormed
  length : b.bytes.length ≤ 3
  type : b.blockType ≠ .iBlock

omit [Build] in
/-- A CID does not change what type a block is. -/
theorem blockType_addCid (h : ProtocolHandler) (b : Block) :
    (h.addCid b).blockType = b.blockType := by
  unfold addCid
  split <;> rfl

omit [Build] in
/-- An R(ACK) is brief. -/
theorem brief_buildRack (h : ProtocolHandler) : Brief h.buildRack where
  wellFormed := h.wellFormed_buildRack
  length := by rw [length_buildRack]; exact Nat.le_trans h.prologueLen_le (by decide)
  type := by rw [buildRack, blockType_addCid]; exact BlockType.noConfusion

/-- **Whatever a handler replies is brief.** -/
theorem brief_reply {reply : Block} (hr : h.receive b = (.ok (.reply reply), k)) : Brief reply := by
  have hrec := processReceived_received h b
  rw [show (processReceived b).run h = _ from hr] at hrec
  cases hrec with
  | repeated => exact brief_buildRack _
  | chained => exact brief_buildRack _
  | presence => exact brief_buildRack _
  | wtx _ _ _ hv _ _ =>
    obtain ⟨inf, hinf, -⟩ := (validWtx_iff b.payload).mp hv
    refine ⟨h.wellFormed_buildWtxResponse b, ?_, ?_⟩
    · have hlen := h.prologueLen_le
      rw [length_buildWtxResponse, hinf]
      exact Nat.succ_le_succ hlen
    · show (h.addCid _).blockType ≠ _
      rw [blockType_addCid]
      exact BlockType.noConfusion
  | deselect =>
    refine ⟨h.wellFormed_buildSblock (Or.inl rfl), ?_, ?_⟩
    · rw [length_buildSblock]
      exact Nat.le_trans h.prologueLen_le (by decide)
    · rw [buildSblock, blockType_addCid]
      exact BlockType.noConfusion

end ProtocolHandler

/-! ## What a reader hears

  A call of the transceiver as moments of a sender: a frame sent, and an acknowledgement if the
  answer brought one. -/

namespace Pcd

open ProtocolHandler

variable {T E : Type} [Build]

/-- One call of the transceiver: the frame goes out, and a block in the answer is given to the
    handler. -/
def listen (s : Pcd T) (h : ProtocolHandler) (call : Frame × Except E FrameVec) :
    List (Moment Frame) × ProtocolHandler :=
  match s.received call.2 with
  | .ok b => (.sent call.1 :: acknowledged (h.receive b).1, (h.receive b).2)
  | _ => ([.sent call.1], h)

/-- The handler of an exchange after some calls. -/
def listened (s : Pcd T) (log : List (Frame × Except E FrameVec)) : ProtocolHandler :=
  Run.after (listen s) s.handler.beginExchange log

/-- What was sent and acknowledged in an exchange. -/
def transcript (s : Pcd T) (log : List (Frame × Except E FrameVec)) : List (Moment Frame) :=
  (Run.trace (listen s) s.handler.beginExchange log).flatMap Run.Event.output

/-- One call more adds to a transcript what it brought. -/
theorem transcript_concat (s : Pcd T) (log : List (Frame × Except E FrameVec))
    (call : Frame × Except E FrameVec) :
    transcript s (log ++ [call]) = transcript s log ++ (listen s (listened s log) call).1 := by
  rw [transcript, Run.trace_concat, List.flatMap_append, List.flatMap_singleton]
  rfl

/-- An answer that carries a block. -/
theorem listen_block {s : Pcd T} {h k : ProtocolHandler} {call : Frame × Except E FrameVec}
    {b : Block} {r : Res TypeAError Action} (hb : s.received call.2 = .ok b)
    (hr : h.receive b = (r, k)) : listen s h call = (.sent call.1 :: acknowledged r, k) := by
  rw [listen, hb]
  show (Moment.sent call.1 :: acknowledged (h.receive b).1, (h.receive b).2) = _
  rw [hr]

/-- Any other answer. -/
theorem listen_noBlock {s : Pcd T} {h : ProtocolHandler} {call : Frame × Except E FrameVec}
    (hb : ∀ b, s.received call.2 ≠ .ok b) : listen s h call = ([.sent call.1], h) := by
  rw [listen]
  cases hrec : s.received call.2 with
  | ok b => exact absurd hrec (hb b)
  | _ => rfl

/-- A call is a frame sent, and an acknowledgement at most. -/
theorem listen_cases (s : Pcd T) (h : ProtocolHandler) (call : Frame × Except E FrameVec) :
    (listen s h call).1 = [.sent call.1] ∨ (listen s h call).1 = [.sent call.1, .acked] := by
  cases hrec : s.received call.2 with
  | ok b =>
    rw [listen_block hrec rfl]
    show Moment.sent call.1 :: acknowledged (h.receive b).1 = _ ∨ _
    rcases acknowledged_cases (h.receive b).1 with ha | ha
    · exact Or.inl (congrArg _ ha)
    · exact Or.inr (congrArg _ ha)
  | _ => exact Or.inl (by rw [listen_noBlock (by simp [hrec])])

/-! ## The frames that are due

  The invariant of the exchange, over the calls made so far. -/

/-- The frame with chunk `k` of a command: the number toggles with every chunk. -/
def commandFrame (s : Pcd T) (apdu : List UInt8) (k : Nat) : Frame :=
  chunkFrame s.hwCrc s.handler.cid (toggled s.handler.blockNumber k) apdu s.maxInf k

/-- The exchange kept pace, and sent `n` chunks.  The transcript is judged by the general notion of
    a paced sender (`StopAndWait`): a chunk is sent first or again, a new one only after its
    predecessor was acknowledged, and every frame fits the card. -/
def OnPace (s : Pcd T) (apdu : List UInt8) (n : Nat)
    (log : List (Frame × Except E FrameVec)) : Prop :=
  Paced isIblock (fun frame => airLength s.hwCrc frame ≤ s.fsc) (commandFrame s apdu)
    (chunkCount apdu s.maxInf) n (transcript s log)

/-- The reader on its way, with the calls `pre` behind it.  Its handler is what these calls make of
    the first one (`listened`), so the whole state is told from the log. -/
structure Follows (s : Pcd T) (pre : List (Frame × Except E FrameVec)) (s' : Pcd (Tally T E)) :
    Prop where
  hwCrc : s'.hwCrc = s.hwCrc
  fsd : s'.fsd = s.fsd
  handler : s'.handler = listened s pre

/-- The block in the last answer is at hand: its handler has not seen it. -/
def AtHand (s : Pcd T) (b : Block) (s' : Pcd (Tally T E)) : Prop :=
  ∃ pre call, s'.calls = pre ++ [call] ∧ s.received call.2 = .ok b ∧ Follows s pre s'

section Calls

variable {s : Pcd T} {s' s1 : Pcd (Tally T E)} {pre : List (Frame × Except E FrameVec)}
  {apdu : List UInt8} {n : Nat} {frame : Frame} {answer : Except E FrameVec}

/-- What was sent keeps pace, whatever the answer. -/
theorem OnPace.heard (h : Paced isIblock (fun frame => airLength s.hwCrc frame ≤ s.fsc)
      (commandFrame s apdu) (chunkCount apdu s.maxInf) n (transcript s pre ++ [.sent frame]))
    (hcalls : s1.calls = pre ++ [(frame, answer)]) : OnPace s apdu n s1.calls := by
  rw [OnPace, hcalls, transcript_concat]
  rcases listen_cases s (listened s pre) (frame, answer) with hl | hl <;> rw [hl]
  · exact h
  · have hacked := h.acked
    rw [List.append_assoc] at hacked
    exact hacked

/-- A block at hand is taken in. -/
theorem Follows.taken {call : Frame × Except E FrameVec} {b : Block} {r : Res TypeAError Action}
    {k : ProtocolHandler} (h : Follows s pre s') (hcalls : s'.calls = pre ++ [call])
    (hb : s.received call.2 = .ok b) (hr : s'.handler.receive b = (r, k)) :
    Follows s s'.calls { s' with handler := k } ∧
      transcript s s'.calls = transcript s pre ++ .sent call.1 :: acknowledged r := by
  rw [h.handler] at hr
  have hl := listen_block hb hr
  constructor
  · refine ⟨h.hwCrc, h.fsd, ?_⟩
    show k = listened s s'.calls
    rw [hcalls, listened, Run.after_concat]
    exact (congrArg Prod.snd hl).symm
  · rw [hcalls, transcript_concat, hl]

/-- An answer that carries no block is passed by. -/
theorem Follows.failed {call : Frame × Except E FrameVec} (h : Follows s pre s')
    (hcalls : s'.calls = pre ++ [call]) (hb : ∀ b, s.received call.2 ≠ .ok b) :
    Follows s s'.calls s' := by
  refine ⟨h.hwCrc, h.fsd, ?_⟩
  rw [hcalls, listened, Run.after_concat]
  show s'.handler = (listen s (listened s pre) call).2
  rw [listen_noBlock hb]
  exact h.handler

variable [PcdTransceiver T E]

/-- **One call.** -/
theorem Follows.called {block : Block} (h : Follows s s'.calls s')
    (hframe : frameFor s.hwCrc block = .ok frame) : ∃ answer s1,
    (transceiveBlock block : Act (Pcd (Tally T E)) (PcdError E) Block).run s' =
      (s.received answer, s1) ∧
    s1.calls = s'.calls ++ [(frame, answer)] ∧ Follows s s'.calls s1 := by
  rw [← h.hwCrc] at hframe
  refine ⟨(PcdTransceiver.transceive s'.transceiver.inner frame).1,
    s'.withTransceiver (PcdTransceiver.transceive s'.transceiver frame).2, ?_, rfl,
    ⟨h.hwCrc, h.fsd, h.handler⟩⟩
  rw [run_transceiveBlock hframe, received_congr h.hwCrc h.fsd]
  rfl

/-- A brief block goes out. -/
theorem OnPace.brief {block : Block} (hp : OnPace s apdu n s'.calls) (h : Follows s s'.calls s')
    (hfsc : 16 ≤ s.fsc) (hblock : Brief block) : ∃ answer s1,
    (transceiveBlock block : Act (Pcd (Tally T E)) (PcdError E) Block).run s' =
      (s.received answer, s1) ∧
    OnPace s apdu n s1.calls ∧ (∀ b, s.received answer = .ok b → AtHand s b s1) ∧
    ((∀ b, s.received answer ≠ .ok b) → Follows s s1.calls s1) := by
  have hlen := hblock.length
  have hframe : frameFor s.hwCrc block = .ok (.standard (block.raw s.hwCrc)) :=
    frameFor_of_fits s.hwCrc (by omega)
  obtain ⟨answer, s1, hrun, hcalls, h1⟩ := h.called hframe
  refine ⟨answer, s1, hrun, ?_, ?_, h1.failed hcalls⟩
  · have hair := airLength_raw s.hwCrc block
    refine OnPace.heard (Paced.other hp ?_ ?_) hcalls
    · rw [isIblock_raw hblock.wellFormed]
      exact decide_eq_false hblock.type
    · show airLength s.hwCrc _ ≤ s.fsc
      omega
  · intro b hb
    exact ⟨_, _, hcalls, hb, h1⟩

/-! ## The loops

  Once the response comes in no I-Block is sent any more, so the receive loop keeps pace for free;
  the send loop sends the chunk that is due, or the last block again. -/

/-- The retries send R(ACK)s. -/
theorem retry_onPace (hfsc : 16 ≤ s.fsc) (tries : Nat) : ∀ {s' : Pcd (Tally T E)},
    OnPace s apdu n s'.calls → Follows s s'.calls s' →
    OnPace s apdu n ((retry true tries).run s').2.calls ∧
      ∀ b, ((retry true tries).run s').1 = .ok b → AtHand s b ((retry true tries).run s').2 := by
  induction tries with
  | zero =>
    intro s' hp h
    exact ⟨hp, fun b hb => by cases hb⟩
  | succ tries ih =>
    intro s' hp h
    obtain ⟨answer, s1, hrun, hp1, hhand, hfail⟩ := hp.brief h hfsc (brief_buildRack s'.handler)
    simp only [retry, Act.run_get_bind, if_true]
    rcases (received_returns s answer).cases with ⟨b, hrec⟩ | ⟨e, hrec⟩ <;> rw [hrec] at hrun
    · rw [Act.run_bind_ok (Act.run_attempt_ok hrun)]
      refine ⟨hp1, ?_⟩
      intro b' hb'
      cases hb'
      exact hhand b hrec
    · rw [Act.run_bind_ok (Act.run_attempt_err hrun)]
      exact ih hp1 (hfail (by simp [hrec]))

/-- A reply goes out, with retries. -/
theorem recovery_onPace {reply : Block} (hfsc : 16 ≤ s.fsc) (hp : OnPace s apdu n s'.calls)
    (h : Follows s s'.calls s') (hreply : Brief reply) :
    OnPace s apdu n ((transceiveWithRecovery reply true).run s').2.calls ∧
      ∀ b, ((transceiveWithRecovery reply true).run s').1 = .ok b →
        AtHand s b ((transceiveWithRecovery reply true).run s').2 := by
  obtain ⟨answer, s1, hrun, hp1, hhand, hfail⟩ := hp.brief h hfsc hreply
  simp only [transceiveWithRecovery]
  rcases (received_returns s answer).cases with ⟨b, hrec⟩ | ⟨e, hrec⟩ <;> rw [hrec] at hrun
  · rw [Act.run_bind_ok (Act.run_attempt_ok hrun)]
    refine ⟨hp1, ?_⟩
    intro b' hb'
    cases hb'
    exact hhand b hrec
  · rw [Act.run_bind_ok (Act.run_attempt_err hrun)]
    exact retry_onPace hfsc maxRetries hp1 (hfail (by simp [hrec]))

/-- **No chunk is sent once the response comes in.** -/
theorem collectResponse_onPace (hfsc : 16 ≤ s.fsc) (fuel : Nat) :
    ∀ {s' : Pcd (Tally T E)} {b : Block}, AtHand s b s' → OnPace s apdu n s'.calls →
    OnPace s apdu n ((collectResponse fuel b).run s').2.calls := by
  induction fuel with
  | zero =>
    intro s' b _ hp
    exact hp
  | succ fuel ih =>
    intro s' b hb hp
    obtain ⟨pre, call, hcalls, hrec, h⟩ := hb
    rcases receive_cases s'.handler b with ⟨a, k, hr⟩ | ⟨e, k, hr⟩
    · have h1 := (h.taken hcalls hrec hr).1
      rw [run_collectResponse hr]
      cases a with
      | reply reply =>
        have hp1 : OnPace s apdu n ({ s' with handler := k } : Pcd (Tally T E)).calls := hp
        obtain ⟨hp2, hhand⟩ := recovery_onPace hfsc hp1 h1 (brief_reply hr)
        simp only
        rw [Act.run_bind]
        rcases hrun : (transceiveWithRecovery reply true).run { s' with handler := k } with
          ⟨b | e | _ | _, s2⟩ <;> rw [hrun] at hp2 hhand
        · exact ih (hhand b rfl) hp2
        all_goals exact hp2
      | _ => exact hp
    · rw [collectResponse, Act.run_bind, run_onHandler_receive, hr]
      exact hp

/-- The send loop before a round: `k` chunks are acknowledged, and chunk `k` was sent already, or
    not. -/
structure Sending (s : Pcd T) (apdu : List UInt8) (k n : Nat) (s' : Pcd (Tally T E)) : Prop where
  follows : Follows s s'.calls s'
  pace : OnPace s apdu n s'.calls
  acks : acks (transcript s s'.calls) = k
  turn : n = k ∨ n = k + 1
  number : s'.handler.blockNumber = toggled s.handler.blockNumber k
  cid : s'.handler.cid = s.handler.cid

omit [Build] [PcdTransceiver T E] in
/-- The frame that is due is within the frame size. -/
theorem airLength_commandFrame (hinf : 0 < s.maxInf) (apdu : List UInt8) (k : Nat) :
    airLength s.hwCrc (commandFrame s apdu k) ≤ s.fsc := by
  have hlen := airLength_chunkFrame_le s.hwCrc s.handler.cid (toggled s.handler.blockNumber k) apdu
    s.maxInf k
  have hmax : s.maxInf = s.fsc - (3 + if s.handler.cid.isSome then 1 else 0) := rfl
  rw [commandFrame]
  omega

/-- **A round sends the chunk that is due.** -/
theorem Sending.round {k : Nat} (h : Sending s apdu k n s') (hinf : 0 < s.maxInf)
    (hfsc : s.fsc ≤ 256) (hk : k * s.maxInf < apdu.length) : ∃ answer s1,
    (transceiveBlock (s'.handler.iblockOf (chunkAt apdu s.maxInf (k * s.maxInf))
      (decide ((k + 1) * s.maxInf < apdu.length))) : Act (Pcd (Tally T E)) (PcdError E) Block).run
        s' = (s.received answer, s1) ∧
    s1.calls = s'.calls ++ [(commandFrame s apdu k, answer)] ∧ Follows s s'.calls s1 ∧
    OnPace s apdu (k + 1) s1.calls := by
  have hair := airLength_commandFrame hinf apdu k
  have hblock : s'.handler.iblockOf (chunkAt apdu s.maxInf (k * s.maxInf))
      (decide ((k + 1) * s.maxInf < apdu.length)) =
      chunkBlock s.handler.cid (toggled s.handler.blockNumber k) apdu s.maxInf k := by
    rw [iblockOf_chunkAt, h.cid, h.number]
  have hframe : frameFor s.hwCrc (chunkBlock s.handler.cid (toggled s.handler.blockNumber k) apdu
      s.maxInf k) = .ok (commandFrame s apdu k) := by
    rw [commandFrame, chunkFrame, airLength_raw] at hair
    exact frameFor_of_fits s.hwCrc (Nat.le_trans hair hfsc)
  obtain ⟨answer, s1, hrun, hcalls, h1⟩ := h.follows.called hframe
  rw [hblock]
  refine ⟨answer, s1, hrun, hcalls, h1, OnPace.heard ?_ hcalls⟩
  exact Paced.chunk h.pace h.acks h.turn (lt_chunkCount hinf (Or.inr hk))
    (isIblock_chunkFrame _ _ _ _ _ _) hair

omit [PcdTransceiver T E] in
/-- The round after an acknowledgement. -/
theorem Sending.acked {k : Nat} {h' : ProtocolHandler} {b : Block} (h : Sending s apdu k n s')
    (hcalls : s1.calls = s'.calls ++ [(frame, answer)]) (h1 : Follows s s'.calls s1)
    (hp : OnPace s apdu (k + 1) s1.calls) (hb : s.received answer = .ok b)
    (hr : s1.handler.receive b = (.ok .chainingAck, h')) :
    Sending s apdu (k + 1) (k + 1) { s1 with handler := h' } := by
  have hsame : s1.handler = s'.handler := h1.handler.trans h.follows.handler.symm
  obtain ⟨hfollows, htranscript⟩ := h1.taken hcalls hb hr
  refine ⟨hfollows, hp, ?_, Or.inl rfl, ?_, ?_⟩
  · show StopAndWait.acks (transcript s s1.calls) = k + 1
    rw [htranscript, acks_append, h.acks]
    rfl
  · show h'.blockNumber = _
    rw [number_of_ack hr, hsame, h.number]
    exact (Function.iterate_succ_apply' _ _ _).symm
  · show h'.cid = _
    rw [cid_of_receive hr, hsame, h.cid]

omit [PcdTransceiver T E] in
/-- The round after a request for the same chunk. -/
theorem Sending.asked {k : Nat} {h' : ProtocolHandler} {b : Block} (h : Sending s apdu k n s')
    (hcalls : s1.calls = s'.calls ++ [(frame, answer)]) (h1 : Follows s s'.calls s1)
    (hp : OnPace s apdu (k + 1) s1.calls) (hb : s.received answer = .ok b)
    (hr : s1.handler.receive b = (.ok .chainingRetransmit, h')) :
    Sending s apdu k (k + 1) { s1 with handler := h' } := by
  have hsame : s1.handler = s'.handler := h1.handler.trans h.follows.handler.symm
  obtain ⟨hfollows, htranscript⟩ := h1.taken hcalls hb hr
  refine ⟨hfollows, hp, ?_, Or.inr rfl, ?_, ?_⟩
  · show StopAndWait.acks (transcript s s1.calls) = k
    rw [htranscript, acks_append, h.acks]
    rfl
  · show h'.blockNumber = _
    rw [number_of_retransmit hr, hsame, h.number]
  · show h'.cid = _
    rw [cid_of_receive hr, hsame, h.cid]

/-- How the send loop leaves the reader: on pace, and if it gave a block, every chunk was sent and
    the block is at hand. -/
structure SendEnds (s : Pcd T) (apdu : List UInt8)
    (out : Res (PcdError E) (Option Block) × Pcd (Tally T E)) : Prop where
  pace : ∃ n, OnPace s apdu n out.2.calls
  done : ∀ b, out.1 = .ok b → ∃ last, b = some last ∧ AtHand s last out.2 ∧
    OnPace s apdu (chunkCount apdu s.maxInf) out.2.calls

omit [PcdTransceiver T E] in
/-- An ending without a result. -/
theorem OnPace.ends {out : Res (PcdError E) (Option Block) × Pcd (Tally T E)}
    (h : OnPace s apdu n out.2.calls) (hout : ∀ b, out.1 ≠ .ok b) : SendEnds s apdu out :=
  ⟨⟨n, h⟩, fun b hb => absurd hb (hout b)⟩

/-- The round with the last chunk. -/
theorem Sending.last {k : Nat} (h : Sending s apdu k n s') (hinf : 0 < s.maxInf)
    (hfsc : s.fsc ≤ 256) (hk : k * s.maxInf < apdu.length)
    (hlast : ¬ (k + 1) * s.maxInf < apdu.length) (fuel : Nat) :
    SendEnds s apdu ((sendLoop apdu s.maxInf (fuel + 1) (k * s.maxInf) none).run s') := by
  have hmax : s.maxInf ≤ 256 := Nat.le_trans (Nat.sub_le _ _) hfsc
  have hend : apdu.length ≤ k * s.maxInf + s.maxInf := by
    rw [← Nat.succ_mul]
    exact Nat.le_of_not_lt hlast
  obtain ⟨answer, s1, hrun, hcalls, h1, hp⟩ := h.round hinf hfsc hk
  rw [decide_eq_false hlast] at hrun
  rcases (received_returns s answer).cases with ⟨b, hrec⟩ | ⟨e, hrec⟩ <;> rw [hrec] at hrun
  · rw [run_sendLoop_last fuel none s' hk hend hmax, Act.run_bind_ok hrun]
    refine ⟨⟨k + 1, hp⟩, ?_⟩
    intro b' hb'
    cases hb'
    refine ⟨b, rfl, ⟨_, _, hcalls, hrec, h1⟩, ?_⟩
    rw [chunkCount_of_last hinf (lt_chunkCount hinf (Or.inr hk)) hlast]
    exact hp
  · rw [run_sendLoop_last fuel none s' hk hend hmax, Act.run_bind_err hrun]
    exact hp.ends (by simp)

/-- **The send loop keeps pace**, and where it comes to an end every chunk was sent.  The induction
    is on the fuel: a round sends chunk `k` again, or the next one. -/
theorem sendLoop_onPace (hinf : 0 < s.maxInf) (hfsc : s.fsc ≤ 256) (fuel : Nat) :
    ∀ {k n : Nat} {s' : Pcd (Tally T E)}, Sending s apdu k n s' → k * s.maxInf < apdu.length →
    SendEnds s apdu ((sendLoop apdu s.maxInf fuel (k * s.maxInf) none).run s') := by
  have hmax : s.maxInf ≤ 256 := Nat.le_trans (Nat.sub_le _ _) hfsc
  induction fuel with
  | zero =>
    intro k n s' h hk
    rw [sendLoop, if_pos hk]
    exact OnPace.ends h.pace (by simp)
  | succ fuel ih =>
    intro k n s' h hk
    by_cases hmore : (k + 1) * s.maxInf < apdu.length
    · have hmore' : k * s.maxInf + s.maxInf < apdu.length := by rwa [← Nat.succ_mul]
      obtain ⟨answer, s1, hrun, hcalls, h1, hp⟩ := h.round hinf hfsc hk
      rw [decide_eq_true hmore] at hrun
      rcases (received_returns s answer).cases with ⟨b, hrec⟩ | ⟨e, hrec⟩ <;> rw [hrec] at hrun
      · rcases receive_cases s1.handler b with ⟨a, h', hr⟩ | ⟨e, h', hr⟩
        · rw [run_sendLoop_round fuel hmore' hmax hrun hr]
          cases a with
          | chainingAck =>
            have hnext := ih (h.acked hcalls h1 hp hrec hr) hmore
            rw [Nat.succ_mul] at hnext
            exact hnext
          | chainingRetransmit => exact ih (h.asked hcalls h1 hp hrec hr) hk
          | complete data => exact OnPace.ends hp fun b hb => by cases hb
          | reply reply => exact OnPace.ends hp fun b hb => by cases hb
        · rw [run_sendLoop_chained fuel none s' hmore' hmax, Act.run_bind_ok hrun, Act.run_bind,
            run_onHandler_receive, hr]
          exact OnPace.ends hp fun b hb => by cases hb
      · rw [run_sendLoop_chained fuel none s' hmore' hmax, Act.run_bind_err hrun]
        exact OnPace.ends hp fun b hb => by cases hb
    · exact h.last hinf hfsc hk hmore fuel

end Calls

/-- The frames of an exchange, against the APDU: the I-Blocks are its chunks, after `k`
    acknowledgements chunk `k`, in order, some of them again; the whole APDU was sent if there is a
    response; and no frame is longer on the air than the card allows. -/
def CommandDelivered [PcdTransceiver T E] (s : Pcd T) (apdu : List UInt8) (fuel : Nat) : Prop :=
  Delivers isIblock (fun frame => airLength s.hwCrc frame ≤ s.fsc) (commandFrame s apdu) apdu
    s.maxInf (∃ data, ((exchange fuel apdu).run (tallied s)).1 = .ok data)
    (transcript s ((exchange fuel apdu).run (tallied s)).2.calls)

/-- **Whatever the card answers.** The transcript of an exchange is that of a sender that waits for
    acknowledgements, and so the general theorem about such senders says what was sent. -/
theorem exchange_delivers [PcdTransceiver T E] (s : Pcd T) (hfsc : ∃ fsci : Fsci, s.fsc = fsci.fsc)
    (apdu : List UInt8) (fuel : Nat) : CommandDelivered s apdu fuel := by
  obtain ⟨fsci, hfsci⟩ := hfsc
  have hbounds := fsci.fsc_bounds
  rw [← hfsci] at hbounds
  have hinf : 0 < s.maxInf := by
    rw [maxInf]
    split <;> omega
  generalize hs0 : ({ tallied s with handler := s.handler.beginExchange } : Pcd (Tally T E)) = s0
  have hrun : (exchange fuel apdu).run (tallied s) = (do
      let lastResp ← sendLoop apdu s.maxInf fuel 0 none
      let first ← lift (Res.okOr .other lastResp)
      collectResponse fuel first).run s0 := by
    rw [← hs0]
    exact run_exchange fuel apdu (tallied s) hinf.ne'
  have hcalls : s0.calls = [] := by rw [← hs0]; rfl
  have hpace0 : OnPace s apdu 0 s0.calls := by
    rw [OnPace, hcalls]
    exact Paced.nil
  -- it is enough to keep pace, and to have sent all when there is a response
  suffices hpaced : ∃ n, OnPace s apdu n ((exchange fuel apdu).run (tallied s)).2.calls ∧
      ((∃ data, ((exchange fuel apdu).run (tallied s)).1 = .ok data) →
        n = chunkCount apdu s.maxInf) by
    obtain ⟨n, hp, hdone⟩ := hpaced
    exact Paced.delivers hinf hp hdone
  rw [hrun, Act.run_bind]
  by_cases hlen : 0 < apdu.length
  · have hsending : Sending s apdu 0 0 s0 := by
      refine ⟨?_, hpace0, ?_, Or.inl rfl, ?_, ?_⟩
      · rw [hcalls, ← hs0]
        exact ⟨rfl, rfl, rfl⟩
      · rw [hcalls]; rfl
      · rw [← hs0]; rfl
      · rw [← hs0]; rfl
    have hends := sendLoop_onPace hinf hbounds.2 fuel hsending (by rwa [Nat.zero_mul])
    rw [Nat.zero_mul] at hends
    rcases hsend : (sendLoop apdu s.maxInf fuel 0 none).run s0 with ⟨r, s1⟩
    rw [hsend] at hends
    obtain ⟨⟨n, hp⟩, hend⟩ := hends
    cases r with
    | ok last =>
      -- the send loop ends on pace, and no chunk is sent afterwards
      obtain ⟨first, rfl, hhand, hp⟩ := hend last rfl
      exact ⟨_, collectResponse_onPace hbounds.1 fuel hhand hp, fun _ => rfl⟩
    | _ => exact ⟨n, hp, by rintro ⟨_, ⟨⟩⟩⟩
  · rw [sendLoop_done (Nat.le_of_not_lt hlen)]
    exact ⟨0, hpace0, by rintro ⟨_, ⟨⟩⟩⟩

end Pcd

end Iso14443
