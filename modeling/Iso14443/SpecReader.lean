/-
  The card against a reader that is not this library's: the one of the tests of `picc.rs`, which applies
  the numbering rules of the standard literally and drives the card through whole exchanges.

  As in `Iso14443.SpecCard`, a model of its own keeps the card from being measured by a copy of itself.
  The reader counts its block number from 0 (Rule A).  It moves it with an R(ACK) that carries it, which
  releases the next chunk (Rules B and 7), and with an I-Block that carries it; whatever carries the
  other number is a repeat, which it counts.  The card is called as `run_exchanges` calls it: a command
  is received, the application answers, the answer is sent.

  * `SpecReader`              — that reader; its commands are cut into chunks as it likes.
  * `SpecPicc.call`           — a call of the card, to its end: the frames it waits for come from the
                                reader.
  * `Receiving`, `CommandIn`  — the command comes in, chunk by chunk.
  * `Responding`, `ResponseOut` — the response goes out, R(ACK) by R(ACK).
  * `exchange_specReader`     — one exchange.
  * `specReader_served`       — every sequence of exchanges.

  The link loses nothing here, since the reader of the tests has no recovery.  What is shown instead is
  that no side repeats a block: a card that moved its number too early or too late would send the reader
  an old block, or take a new one for an old one, and `repeats` would grow.

  The two loops have the same shape as those of `Iso14443.SpecPair`: an invariant and a result, a lemma
  for the last round and two for any other (what the round does, and that the invariant holds again).
-/
import Iso14443.SpecPair

namespace Iso14443

open ProtocolHandler

/-! ## The reader of the tests

  The mock of the tests, method by method.  Where it panics nothing is sent here, and a reader that
  has nothing to send leaves the card without a frame. -/

/-- `SpecReader`.  Rule A: the block number is initialised to 0.  Its state is that of the mock in
    the tests, field by field; the commands are given in advance, each a list of chunks. -/
structure SpecReader where
  /-- Activation frames, handed over before the block protocol starts. -/
  preludeFrames : List FrameVec := []
  preludeIdx : Nat := 0
  blockNumber : Fin 2 := 0
  /-- One entry per exchange: the command, split into chained chunks. -/
  commands : List (List (List UInt8))
  command : Nat := 0
  chunk : Nat := 0
  /-- The frame the card is handed next. -/
  pending : Option FrameVec := none
  /-- Response APDUs as the reader assembled them. -/
  assembled : List (List UInt8) := []
  partialResponse : List UInt8 := []
  /-- How often Rule 6 fired, or a repeated I-Block turned up. -/
  repeats : Nat := 0

namespace SpecReader

variable [Build]

/-- `queue`.  Where the source panics, nothing is left to send. -/
def queue (self : SpecReader) (block : Block) : SpecReader :=
  { self with
    pending := match block.toVec with
      | .ok frame => some frame
      | _ => none }

/-- `queue_chunk`. -/
def queueChunk (self : SpecReader) : SpecReader :=
  let chunks := self.commands.getD self.command []
  match chunks[self.chunk]? with
  | none => { self with pending := none }
  | some payload => self.queue (iblock self.blockNumber payload (self.chunk + 1 < chunks.length))

/-- `queue_rack`. -/
def queueRack (self : SpecReader) : SpecReader := self.queue (rblock self.blockNumber .ack)

/-- `handle`. -/
def handle (self : SpecReader) (block : Block) : SpecReader :=
  match block.blockType with
  | .rBlock =>
    if block.blockNumber = self.blockNumber then
      -- Rules B and 7
      { self with blockNumber := 1 - self.blockNumber, chunk := self.chunk + 1 }.queueChunk
    else
      -- Rule 6
      { self with repeats := self.repeats + 1 }.queueChunk
  | .iBlock =>
    if block.blockNumber ≠ self.blockNumber then
      { self with repeats := self.repeats + 1 }.queueRack
    else
      let self := { self with
        blockNumber := 1 - self.blockNumber
        partialResponse := self.partialResponse ++ block.payload }
      if block.isChaining then self.queueRack
      else
        let self := { self with
          assembled := self.assembled ++ [self.partialResponse]
          partialResponse := []
          command := self.command + 1
          chunk := 0 }
        if self.command < self.commands.length then self.queueChunk else self
  | .sBlock => self

/-- `receive`. -/
def receive (self : SpecReader) : Except Unit FrameVec × SpecReader :=
  match self.preludeFrames[self.preludeIdx]? with
  | some frame => (.ok frame, { self with preludeIdx := self.preludeIdx + 1 })
  | none =>
    match self.pending with
    | some frame => (.ok frame, { self with pending := none })
    | none => (.error (), self)

/-- While the prelude lasts the reader only gives its frames and listens to nothing; a frame that is
    no block is the ATS, and the first chunk follows it. -/
instance : PiccTransceiver SpecReader Unit where
  send self frame :=
    if self.preludeIdx < self.preludeFrames.length then (.ok (), self)
    else
      match Block.tryFrom frame.data with
      | .ok block => (.ok (), self.handle block)
      -- the ATS
      | _ => (.ok (), self.queueChunk)
  tryEnableHwCrc self := (.error (), self)

end SpecReader

/-- A card with the reader of the tests in front of it. -/
abbrev SpecPicc := Picc SpecReader

namespace SpecPicc

variable [Build]

/-- `self.transceiver.receive()`. -/
def receive : Act SpecPicc (PiccError Unit) (Except Unit FrameVec) where
  run self :=
    let (received, transceiver) := self.transceiver.receive
    (.ok received, { self with transceiver })

/-- A call goes on to its end: whenever it waits, the reader has the next frame. -/
def finish : Nat → Next → Act SpecPicc (PiccError Unit) Outcome
  | _, .ret outcome => pure outcome
  | 0, .wait _ => Act.outOfFuel
  | fuel + 1, .wait call => do
    let received ← receive
    finish fuel (← call.resume received)

/-- A call of the API. -/
def call (fuel : Nat) (api : PiccApi) : Act SpecPicc (PiccError Unit) Outcome := do
  finish fuel (← api.begin)

/-- `run_exchanges`, one round of its loop: a command, and the response to it. -/
def exchange (fuel : Nat) (respond : ChainVec → List UInt8) : Act SpecPicc (PiccError Unit) ChainVec := do
  match ← call fuel .receiveCommand with
  | .apdu apdu => do
    let _ ← call fuel (.sendResponse (respond apdu))
    pure apdu
  -- `receive_command` gives an APDU
  | .unit => Act.panic

end SpecPicc

/-! ## What the reader does with a block

  Equations for `handle`, one for each kind of block that the card sends. -/

namespace SpecReader

open SpecCard (cutBlock Short wellFormed_cutBlock length_rack)

variable [Build] {r : SpecReader} {chunks : List (List UInt8)} {b : Block}

/-- The activation is over. -/
def Past (r : SpecReader) : Prop := r.preludeFrames.length ≤ r.preludeIdx

/-- The reader, with a block to send. -/
def holding (r : SpecReader) (b : Block) : SpecReader := { r with pending := some (b.raw false) }

/-- The reader, once the card has its frame. -/
def emptied (r : SpecReader) : SpecReader := { r with pending := none }

/-- The first chunk of its command is what the reader sends next, if there is a command. -/
def Ready (r : SpecReader) : Prop := ∀ chunks, r.commands[r.command]? = some chunks →
  r.pending = some ((cutBlock r.blockNumber chunks 0).raw false)

/-- Every command has chunks, and they fit a frame. -/
def Sendable (r : SpecReader) : Prop := ∀ chunks ∈ r.commands, chunks ≠ [] ∧ Short 256 chunks

/-- A block that fits a frame is queued for the next call. -/
theorem queue_eq (hlen : b.bytes.length + 2 ≤ 256) : r.queue b = r.holding b := by
  have hvec : b.toVec = .ok (b.raw false) := by
    rw [Block.toVec, Block.toBytesWithoutCrc_of_fits (fits_frameCap (by omega)), Res.ok_bind,
      appendCrcA_of_fits (fits_frameCap (by omega))]
    rfl
  rw [queue, hvec]
  rfl

/-- So is an R(ACK). -/
theorem queueRack_eq : r.queueRack = r.holding (rblock r.blockNumber .ack) := by
  have hlen := length_rack r.blockNumber
  exact queue_eq (by omega)

/-- So is a chunk of a command. -/
theorem queueChunk_eq (hshort : Short 256 chunks) (hc : r.commands[r.command]? = some chunks)
    (hj : r.chunk < chunks.length) :
    r.queueChunk = r.holding (cutBlock r.blockNumber chunks r.chunk) := by
  have hget : chunks[r.chunk]? = some (chunks.getD r.chunk []) := by
    rw [List.getD_eq_getElem?_getD, List.getElem?_eq_getElem hj, Option.getD_some]
  have hcommand : r.commands.getD r.command [] = chunks := by
    rw [List.getD_eq_getElem?_getD, hc, Option.getD_some]
  simp only [queueChunk, hcommand, hget]
  exact queue_eq (hshort.length_cutBlock hj _)

/-- A block of the card arrives. -/
theorem send_block (hp : r.Past) (hwf : b.WellFormed) (hlen : b.bytes.length + 2 ≤ 256) :
    PiccTransceiver.send r (.standard (b.raw false)) = (.ok (), r.handle b.wire) := by
  have hread : Block.tryFrom (b.raw false) = .ok b.wire := by
    have hpay : Fits frameCap b.payload.length := by
      have := b.length_bytes
      exact fits_frameCap (by omega)
    exact Block.tryFrom_withCrc_bytes hwf hpay
  show (if r.preludeIdx < r.preludeFrames.length then _ else _) = _
  rw [if_neg (Nat.not_lt.mpr hp), Frame.data_standard, hread]

/-- **An R(ACK) with its own number** releases the next chunk. -/
theorem handle_rack (hb : b.IsRack r.blockNumber) (hshort : Short 256 chunks)
    (hc : r.commands[r.command]? = some chunks) (hj : r.chunk + 1 < chunks.length) :
    r.handle b.wire =
      ({ r with blockNumber := 1 - r.blockNumber, chunk := r.chunk + 1 } : SpecReader).holding
        (cutBlock (1 - r.blockNumber) chunks (r.chunk + 1)) := by
  obtain ⟨ht, -, hn⟩ := hb
  rw [← Block.wire_blockType] at ht
  rw [← Block.wire_blockNumber] at hn
  simp only [handle, ht, hn, if_true]
  exact queueChunk_eq hshort hc hj

/-- **A chunk with more to come** is acknowledged. -/
theorem handle_chained (ht : b.blockType = .iBlock) (hn : b.blockNumber = r.blockNumber)
    (hc : b.isChaining = true) : r.handle b.wire =
      ({ r with blockNumber := 1 - r.blockNumber
                partialResponse := r.partialResponse ++ b.payload } : SpecReader).holding
        (rblock (1 - r.blockNumber) .ack) := by
  rw [← Block.wire_blockType] at ht
  rw [← Block.wire_blockNumber] at hn
  rw [← Block.wire_isChaining] at hc
  simp only [handle, ht, hn, hc, if_true, ne_eq, not_true_eq_false, if_false, Block.wire_payload]
  exact queueRack_eq

/-- The reader `r` has taken in the last chunk of a response, has its next command ready, and is `r'` by
    now. -/
structure Answered (r : SpecReader) (payload : List UInt8) (r' : SpecReader) : Prop where
  ready : r'.Ready
  number : r'.blockNumber = 1 - r.blockNumber
  /-- The response is the chunks so far, and this one. -/
  assembled : r'.assembled = r.assembled ++ [r.partialResponse ++ payload]
  partialResponse : r'.partialResponse = []
  command : r'.command = r.command + 1
  chunk : r'.chunk = 0
  repeats : r'.repeats = r.repeats
  commands : r'.commands = r.commands
  preludeFrames : r'.preludeFrames = r.preludeFrames
  preludeIdx : r'.preludeIdx = r.preludeIdx

/-- **The last chunk** ends the response; the next command is ready. -/
theorem handle_last (hsend : r.Sendable) (ht : b.blockType = .iBlock)
    (hn : b.blockNumber = r.blockNumber) (hc : b.isChaining = false) :
    r.Answered b.payload (r.handle b.wire) := by
  rw [← Block.wire_blockType] at ht
  rw [← Block.wire_blockNumber] at hn
  rw [← Block.wire_isChaining] at hc
  let d : SpecReader := { r with
    blockNumber := 1 - r.blockNumber
    assembled := r.assembled ++ [r.partialResponse ++ b.payload]
    partialResponse := []
    command := r.command + 1
    chunk := 0 }
  have hhandle : r.handle b.wire = if d.command < d.commands.length then d.queueChunk else d := by
    simp only [handle, ht, hn, hc, ne_eq, not_true_eq_false, if_false, Bool.false_eq_true,
      Block.wire_payload]
    rfl
  by_cases hmore : d.command < d.commands.length
  · have hget : d.commands[d.command]? = some d.commands[d.command] := List.getElem?_eq_getElem hmore
    obtain ⟨hne, hshort⟩ := hsend _ (List.getElem_mem hmore)
    have hqueue := queueChunk_eq (r := d) hshort hget (List.length_pos_of_ne_nil hne)
    rw [hhandle, if_pos hmore, hqueue]
    refine ⟨fun chunks hchunks => ?_, rfl, rfl, rfl, rfl, rfl, rfl, rfl, rfl, rfl⟩
    have hsame : d.commands[d.command] = chunks := Option.some.inj (hget.symm.trans hchunks)
    rw [hsame]
    rfl
  · rw [hhandle, if_neg hmore]
    refine ⟨fun chunks hchunks => ?_, rfl, rfl, rfl, rfl, rfl, rfl, rfl, rfl, rfl⟩
    rw [List.getElem?_eq_none (Nat.le_of_not_lt hmore)] at hchunks
    cases hchunks

end SpecReader

/-! ## The card

  What the calls of a session leave as it is, and one frame in a call that waits. -/

namespace SpecPicc

open Picc
open SpecCard (cutBlock Short wellFormed_cutBlock receive_chunk flatten_take_succ length_rack)
open SpecPair (Kept)

variable [Build] {s : SpecPicc} {chunks : List (List UInt8)} {b : Block} {data : List UInt8}
  {inf k : Nat}

/-- The reader. -/
def reader (s : SpecPicc) : SpecReader := s.transceiver

/-- What a card keeps in a session, and a reader whose activation is over. -/
structure Sound (s : SpecPicc) : Prop where
  hwCrc : s.hwCrc = false
  role : s.handler.role = .picc
  fsd_ge : 16 ≤ s.fsd
  fsd : s.fsd ≤ 256
  past : s.reader.Past
  sendable : s.reader.Sendable

/-- The card later in its session: what no block changes, on either side of the link.  That no block
    was repeated is a field of it. -/
structure Later (s s' : SpecPicc) : Prop where
  kept : Kept s.handler s'.handler
  fsd : s'.fsd = s.fsd
  config : s'.config = s.config
  hwCrc : s'.hwCrc = s.hwCrc
  commands : s'.reader.commands = s.reader.commands
  preludeFrames : s'.reader.preludeFrames = s.reader.preludeFrames
  preludeIdx : s'.reader.preludeIdx = s.reader.preludeIdx
  repeats : s'.reader.repeats = s.reader.repeats

omit [Build] in
/-- What is kept over two stretches is kept over both. -/
theorem Later.trans {s' s'' : SpecPicc} (h : Later s s') (h' : Later s' s'') : Later s s'' :=
  ⟨⟨h'.kept.role.trans h.kept.role, h'.kept.limits.trans h.kept.limits,
      h'.kept.cid.trans h.kept.cid⟩, h'.fsd.trans h.fsd, h'.config.trans h.config,
    h'.hwCrc.trans h.hwCrc, h'.commands.trans h.commands, h'.preludeFrames.trans h.preludeFrames,
    h'.preludeIdx.trans h.preludeIdx, h'.repeats.trans h.repeats⟩

omit [Build] in
/-- A card stays sound from one call of its application to the next. -/
theorem Sound.later {s' : SpecPicc} (h : s.Sound) (hl : Later s s') : s'.Sound := by
  refine ⟨hl.hwCrc.trans h.hwCrc, hl.kept.role.trans h.role, ?_, ?_, ?_, ?_⟩
  · rw [hl.fsd]; exact h.fsd_ge
  · rw [hl.fsd]; exact h.fsd
  · show s'.reader.preludeFrames.length ≤ s'.reader.preludeIdx
    rw [hl.preludeFrames, hl.preludeIdx]
    exact h.past
  · show ∀ chunks ∈ s'.reader.commands, _
    rw [hl.commands]
    exact h.sendable

/-- The card, once the frame is taken. -/
def emptied (s : SpecPicc) : SpecPicc := { s with transceiver := s.reader.emptied }

omit [Build] in
/-- The next frame is what the reader has ready. -/
theorem run_receive (h : s.Sound) {frame : FrameVec} (hp : s.reader.pending = some frame) :
    receive.run s = (.ok (.ok frame), s.emptied) := by
  have hpast : s.reader.preludeFrames[s.reader.preludeIdx]? = none := List.getElem?_eq_none h.past
  have hreceive : s.reader.receive = (.ok frame, s.reader.emptied) := by
    simp only [SpecReader.receive, hpast, hp]
    rfl
  show (let (received, transceiver) := s.reader.receive
    (.ok received, ({ s with transceiver } : SpecPicc)) : Res (PiccError Unit) _ × SpecPicc) = _
  rw [hreceive]
  rfl

/-- The card, once the reader got a block of it. -/
def said (s : SpecPicc) (b : Block) : SpecPicc :=
  { s with transceiver := s.reader.handle b.wire, lastSent := some b }

/-- A block of the card reaches the reader. -/
theorem run_sendBlock_said (h : s.Sound) (hwf : b.WellFormed) (hlen : b.bytes.length + 2 ≤ 256) :
    (sendBlock b).run s = (.ok (), s.said b) := by
  have hframe : frameFor s.hwCrc b = .ok (.standard (b.raw s.hwCrc)) := frameFor_of_fits _ hlen
  have hraw : b.raw s.hwCrc = b.raw false := by rw [h.hwCrc]
  have hsend : PiccTransceiver.send (s.remembering b).transceiver (.standard (b.raw false)) =
      (.ok (), s.reader.handle b.wire) := SpecReader.send_block h.past hwf hlen
  rw [Picc.run_sendBlock hframe, hraw, sendResult, afterSend, hsend]
  rfl

/-- A call that has returned waits for nothing. -/
theorem finish_ret (fuel : Nat) (outcome : Outcome) : finish fuel (.ret outcome) = pure outcome := by
  cases fuel <;> rfl

/-- A call that waits takes the frame the reader has ready. -/
theorem run_finish_bind (h : s.Sound) {frame : FrameVec} (hp : s.reader.pending = some frame)
    (fuel : Nat) (call : PiccCall) : (finish (fuel + 1) (.wait call)).run s =
      (call.resume (.ok frame) >>= finish fuel : Act SpecPicc (PiccError Unit) Outcome).run s.emptied := by
  rw [finish, Act.run_bind_ok (run_receive h hp)]

/-- A call that waits takes the frame the reader has pending, and goes on from there. -/
theorem run_finish (h : s.Sound) {frame : FrameVec} (hp : s.reader.pending = some frame) (fuel : Nat)
    {call : PiccCall} {next : Next} {s' : SpecPicc}
    (hround : (call.resume (.ok frame)).run s.emptied =
      ((.ok next, s') : Res (PiccError Unit) Next × SpecPicc)) :
    (finish (fuel + 1) (.wait call)).run s = (finish fuel next).run s' := by
  rw [run_finish_bind h hp, Act.run_bind_ok hround]

omit [Build] in
/-- A card expects the number that is not its own. -/
theorem fresh_picc {h : ProtocolHandler} (hrole : h.role = .picc) {n : Fin 2}
    (hn : h.blockNumber = 1 - n) (chunks : List (List UInt8)) (j : Nat) :
    h.repeatsLastIblock (cutBlock n chunks j) = false := by
  simp only [repeatsLastIblock, hrole]
  refine decide_eq_false fun heq => ne_one_sub n ?_
  rw [← hn]
  exact heq

/-! ## The command

  `receive_command`, with the reader holding one chunk after the other ready. -/

/-- `t` chunks have been taken in, the reader has the next one ready, and `d` are left after that; the
    budgets of the card suffice for them. -/
structure Receiving (s : SpecPicc) (chunks : List (List UInt8)) (t d : Nat) : Prop where
  length : t + d + 1 = chunks.length
  sound : s.Sound
  /-- The card has the number of the chunk before. -/
  number : s.handler.blockNumber = 1 - s.reader.blockNumber
  command : s.reader.commands[s.reader.command]? = some chunks
  chunk : s.reader.chunk = t
  pending : s.reader.pending = some ((cutBlock s.reader.blockNumber chunks t).raw false)
  short : Short s.fsc chunks
  chain : s.handler.chain = (chunks.take t).flatten
  max : chunks.flatten.length ≤ s.handler.limits.maxChainLen
  fits : Fits chainCap chunks.flatten.length
  budget : s.handler.counters.frames + d + 1 ≤ s.handler.limits.maxFrames

/-- The command is with the card, and both sides have the number of its last chunk.  The reader
    waits for the response, of which it has nothing yet. -/
structure CommandIn (s : SpecPicc) (d : Nat) (s' : SpecPicc) : Prop where
  later : Later s s'
  number : s'.handler.blockNumber = s'.reader.blockNumber
  counted : s'.handler.counters.frames ≤ s.handler.counters.frames + d + 1
  command : s'.reader.command = s.reader.command
  assembled : s'.reader.assembled = s.reader.assembled
  partialResponse : s'.reader.partialResponse = s.reader.partialResponse

/-- The card once its handler has taken in chunk `t`. -/
def takenIn (s : SpecPicc) (chunks : List (List UInt8)) (t : Nat) : SpecPicc :=
  s.emptied.withHandler (s.handler.counted.extended (chunks.getD t [])).advanced

/-- The card once it has acknowledged the chunk, which makes the reader go on. -/
def acknowledging (s : SpecPicc) (chunks : List (List UInt8)) (t : Nat) : SpecPicc :=
  (s.takenIn chunks t).said s.handler.advanced.buildRack

/-- What the handler makes of the chunk that the reader has ready. -/
theorem Receiving.receive {t d : Nat} (h : s.Receiving chunks t d) :
    s.handler.receive (cutBlock s.reader.blockNumber chunks t) =
      if t + 1 < chunks.length then
        (.ok (.reply s.handler.advanced.buildRack),
          (s.handler.counted.extended (chunks.getD t [])).advanced)
      else (.ok (.complete (chunks.take (t + 1)).flatten), s.handler.counted.advanced.dropChain) := by
  have hlen := h.length
  have hbudget := h.budget
  exact receive_chunk (fresh_picc h.sound.role h.number chunks t) (by omega) h.chain h.max h.fits
    (frameOk_of_le (by omega : s.handler.counters.frames + 1 ≤ _))

/-- **The last chunk** ends the call. -/
theorem Receiving.last {t : Nat} (h : s.Receiving chunks t 0) (fuel : Nat) : ∃ s',
    (finish (fuel + 1) (.wait .receiveCommand)).run s = (.ok (.apdu chunks.flatten), s') ∧
      s.CommandIn 0 s' := by
  have hlen := h.length
  have ht : t < chunks.length := by omega
  have hr := h.receive
  rw [if_neg (by omega : ¬ t + 1 < chunks.length), List.take_of_length_le (by omega)] at hr
  have hround : (PiccCall.receiveCommand.resume
      (.ok ((cutBlock s.reader.blockNumber chunks t).raw false))).run s.emptied =
        ((.ok (.ret (.apdu chunks.flatten)),
          s.emptied.withHandler s.handler.counted.advanced.dropChain) :
            Res (PiccError Unit) Next × SpecPicc) := by
    have hread : (receiveCommand ((cutBlock s.reader.blockNumber chunks t).raw
        s.emptied.hwCrc)).run s.emptied = _ := run_receiveCommand_read
      (wellFormed_cutBlock s.reader.blockNumber chunks t) (h.short.length_cutBlock ht _) hr
    rwa [show s.emptied.hwCrc = false from h.sound.hwCrc] at hread
  have hrun := run_finish h.sound h.pending fuel hround
  rw [finish_ret] at hrun
  refine ⟨_, hrun, ⟨⟨rfl, rfl, rfl⟩, rfl, rfl, rfl, rfl, rfl, rfl, rfl⟩, ?_,
    frames_counted s.handler, rfl, rfl, rfl⟩
  show 1 - s.handler.blockNumber = s.reader.blockNumber
  rw [h.number, one_sub_one_sub]

/-- The R(ACK) releases the next chunk. -/
theorem Receiving.reader {t d : Nat} (h : s.Receiving chunks t (d + 1)) :
    (s.acknowledging chunks t).reader = ({ s.reader.emptied with
      blockNumber := 1 - s.reader.blockNumber, chunk := s.reader.chunk + 1 } : SpecReader).holding
        (cutBlock (1 - s.reader.blockNumber) chunks (s.reader.chunk + 1)) := by
  have hlen := h.length
  have hnum : s.handler.advanced.blockNumber = s.reader.blockNumber := by
    rw [advanced_blockNumber, h.number, one_sub_one_sub]
  have hrack : s.handler.advanced.buildRack.IsRack s.reader.blockNumber :=
    hnum ▸ isRack_buildRack s.handler.advanced
  have hmore : s.reader.chunk + 1 < chunks.length := by
    rw [h.chunk]
    omega
  exact SpecReader.handle_rack (r := (s.takenIn chunks t).reader) hrack (h.short.mono s.fsc_bounds.2)
    h.command hmore

/-- **Any other chunk** is taken in and acknowledged, and the call goes on with the next one. -/
theorem Receiving.more {t d : Nat} (h : s.Receiving chunks t (d + 1)) (fuel : Nat) :
    (finish (fuel + 1) (.wait .receiveCommand)).run s =
      (finish fuel (.wait .receiveCommand)).run (s.acknowledging chunks t) := by
  have hlen := h.length
  have hr := h.receive
  rw [if_pos (by omega : t + 1 < chunks.length)] at hr
  have hsound : (s.takenIn chunks t).Sound :=
    h.sound.later ⟨⟨rfl, rfl, rfl⟩, rfl, rfl, rfl, rfl, rfl, rfl, rfl⟩
  have hsaid := run_sendBlock_said hsound (wellFormed_buildRack s.handler.advanced)
    (SpecPair.rack_fits s.handler.advanced)
  have hround : (PiccCall.receiveCommand.resume
      (.ok ((cutBlock s.reader.blockNumber chunks t).raw false))).run s.emptied =
        ((.ok (.wait .receiveCommand), s.acknowledging chunks t) :
          Res (PiccError Unit) Next × SpecPicc) := by
    have hread : (receiveCommand ((cutBlock s.reader.blockNumber chunks t).raw
        s.emptied.hwCrc)).run s.emptied = _ := run_receiveCommand_read
      (wellFormed_cutBlock s.reader.blockNumber chunks t)
      (h.short.length_cutBlock (by omega : t < chunks.length) _) hr
    rw [show s.emptied.hwCrc = false from h.sound.hwCrc] at hread
    refine hread.trans ((Act.run_bind_ok hsaid _).trans ?_)
    rw [isDeselectReply_buildRack]
    rfl
  exact run_finish h.sound h.pending fuel hround

/-- Nothing but the numbers and the chunks has moved. -/
theorem Receiving.later {t d : Nat} (h : s.Receiving chunks t (d + 1)) :
    Later s (s.acknowledging chunks t) := by
  refine ⟨⟨rfl, rfl, rfl⟩, rfl, rfl, rfl, ?_, ?_, ?_, ?_⟩ <;> rw [h.reader] <;> rfl

/-- And the invariant holds again. -/
theorem Receiving.next {t d : Nat} (h : s.Receiving chunks t (d + 1)) :
    (s.acknowledging chunks t).Receiving chunks (t + 1) d where
  length := (by omega : t + 1 + d + 1 = t + (d + 1) + 1).trans h.length
  sound := h.sound.later h.later
  number := by
    rw [h.reader]
    show 1 - s.handler.blockNumber = 1 - (1 - s.reader.blockNumber)
    rw [h.number]
  command := by
    rw [h.reader]
    exact h.command
  chunk := by
    rw [h.reader, ← h.chunk]
    rfl
  pending := by
    rw [h.reader, ← h.chunk]
    rfl
  short := h.short
  chain := by
    have hlen := h.length
    rw [← flatten_take_succ (by omega : t < chunks.length), ← h.chain]
    rfl
  max := h.max
  fits := h.fits
  budget := by
    have hbudget := h.budget
    have hcounted : (s.acknowledging chunks t).handler.counters.frames ≤
        s.handler.counters.frames + 1 := frames_counted s.handler
    show _ ≤ s.handler.limits.maxFrames
    omega

/-- A chunk before counts with the others. -/
theorem CommandIn.after {t d : Nat} {s' : SpecPicc} (h : s.Receiving chunks t (d + 1))
    (h' : (s.acknowledging chunks t).CommandIn d s') : s.CommandIn (d + 1) s' where
  later := h.later.trans h'.later
  number := h'.number
  counted := by
    have hcounted : (s.acknowledging chunks t).handler.counters.frames ≤
        s.handler.counters.frames + 1 := frames_counted s.handler
    have hle := h'.counted
    omega
  command := h'.command.trans (by rw [h.reader]; rfl)
  assembled := h'.assembled.trans (by rw [h.reader]; rfl)
  partialResponse := h'.partialResponse.trans (by rw [h.reader]; rfl)

/-- **The command comes in.** -/
theorem receiving (d : Nat) : ∀ (fuel : Nat) {t : Nat} {s : SpecPicc}, s.Receiving chunks t d →
    d < fuel → ∃ s', (finish fuel (.wait .receiveCommand)).run s = (.ok (.apdu chunks.flatten), s') ∧
      s.CommandIn d s' := by
  induction d with
  | zero =>
    intro fuel t s h hfuel
    obtain ⟨fuel, rfl⟩ : ∃ f, fuel = f + 1 := ⟨fuel - 1, by omega⟩
    exact h.last fuel
  | succ d ih =>
    intro fuel t s h hfuel
    obtain ⟨fuel, rfl⟩ : ∃ f, fuel = f + 1 := ⟨fuel - 1, by omega⟩
    obtain ⟨s', hrun, hin⟩ := ih fuel h.next (by omega)
    exact ⟨s', (h.more fuel).trans hrun, .after h hin⟩

/-! ## The response

  `send_response`: each chunk but the last is answered with an R(ACK), which releases the next one. -/

/-- **A chunk of the response goes out**, and the card waits if there are more.  The transceiver
    hands the frame to the reader, which has reacted by the time the call waits. -/
theorem run_sendChunk_said (h : s.Sound) {offset : Nat} (hoff : offset ≤ data.length)
    (hinf : inf ≤ Peer.maxInf s.fsd s.handler) : (sendChunk data inf offset).run s =
      (.ok (if offset + inf < data.length then
        .wait (.sendResponse data inf (offset + inf) (Peer.chunk s.handler data inf offset))
        else .ret .unit), s.said (Peer.chunk s.handler data inf offset)) := by
  have hfsd := h.fsd
  obtain ⟨hwf, hlen⟩ := Peer.sendable_chunk s.handler data inf offset h.fsd_ge hinf
  have hchunk : Fits frameCap (Pcd.chunkAt data inf offset).length := by
    have hbytes := s.handler.length_iblockOf (Pcd.chunkAt data inf offset)
      (offset + inf < data.length)
    rw [Peer.chunk] at hlen
    exact fits_frameCap (by omega)
  have hchain : decide (min (offset + inf) data.length < data.length) =
      decide (offset + inf < data.length) := by
    by_cases hmore : offset + inf < data.length
    · rw [decide_eq_true hmore, decide_eq_true (by omega)]
    · rw [decide_eq_false hmore, decide_eq_false (by omega)]
  have hsend := run_sendBlock_said h hwf (by omega)
  rw [sendChunk, Act.run_get_bind, Act.run_bind, run_lift, Res.slice_of_le (by omega) (by omega),
    Pcd.chunkAt_eq]
  simp only [Res.mapErr_ok]
  rw [Act.run_bind, run_lift, hchain, buildIblock_of_fits _ hchunk]
  simp only [Res.mapErr_ok]
  rw [Peer.chunk] at hsend ⊢
  rw [Act.run_bind, hsend]
  by_cases hmore : offset + inf < data.length
  · simp only [hmore, decide_true, if_true]
    rw [Nat.min_eq_left (by omega)]
    rfl
  · simp only [hmore, decide_false, if_false]
    rfl

omit [Build] in
/-- A chunk begins within the data, or at its end. -/
theorem offset_le (hinf : 0 < inf) (data : List UInt8) (hk : k < blockCount inf data) :
    k * inf ≤ data.length := by
  cases k with
  | zero =>
    rw [Nat.zero_mul]
    exact Nat.zero_le _
  | succ k =>
    have hmore := (more_iff hinf data k).mpr hk
    rw [Nat.succ_mul]
    exact Nat.le_of_lt hmore

/-- `k` chunks of the response have been acknowledged, and `d` are left after the next one.  The
    reader has exactly the bytes of the first `k` chunks. -/
structure Responding (s : SpecPicc) (data : List UInt8) (inf k d : Nat) : Prop where
  blocks : k + d + 1 = blockCount inf data
  sound : s.Sound
  /-- The next chunk carries the number the reader expects. -/
  number : s.handler.blockNumber = s.reader.blockNumber
  pos : 0 < inf
  max : inf ≤ Peer.maxInf s.fsd s.handler
  partialResponse : s.reader.partialResponse = data.take (k * inf)
  budget : s.handler.counters.frames + d ≤ s.handler.limits.maxFrames

/-- The response is with the reader, which has its next command ready. -/
structure ResponseOut (s : SpecPicc) (data : List UInt8) (s' : SpecPicc) : Prop where
  later : Later s s'
  number : s'.handler.blockNumber = 1 - s'.reader.blockNumber
  ready : s'.reader.Ready
  command : s'.reader.command = s.reader.command + 1
  chunk : s'.reader.chunk = 0
  assembled : s'.reader.assembled = s.reader.assembled ++ [data]
  partialResponse : s'.reader.partialResponse = []

/-- The card once chunk `k` is with the reader. -/
def chunkOut (s : SpecPicc) (data : List UInt8) (inf k : Nat) : SpecPicc :=
  s.said (Peer.chunk s.handler data inf (k * inf))

/-- The card once the chunk has been acknowledged. -/
def released (s : SpecPicc) (data : List UInt8) (inf k : Nat) : SpecPicc :=
  (s.chunkOut data inf k).emptied.withHandler s.handler.counted.advanced

/-- **The last chunk** ends the call. -/
theorem Responding.last (h : s.Responding data inf k 0) (fuel : Nat) :
    (Picc.sendChunk data inf (k * inf) >>= finish fuel : Act SpecPicc (PiccError Unit) Outcome).run s =
        (.ok .unit, s.chunkOut data inf k) ∧
      s.ResponseOut data (s.chunkOut data inf k) := by
  have hblocks := h.blocks
  have hend : ¬ k * inf + inf < data.length := by
    intro hmore
    have := (more_iff h.pos data k).mp hmore
    omega
  have hoff : k * inf ≤ data.length := offset_le h.pos data (by omega)
  have hrun := run_sendChunk_said h.sound hoff h.max
  rw [if_neg hend] at hrun
  obtain ⟨ht, hn, hc, hpay⟩ := SpecPair.chunk_fields s.handler (Pcd.chunkAt data inf (k * inf))
    (k * inf + inf < data.length)
  have hanswered := SpecReader.handle_last (r := s.reader) h.sound.sendable ht (hn.trans h.number)
    (hc.trans (decide_eq_false hend))
  constructor
  · refine (Act.run_bind_ok hrun _).trans ?_
    rw [finish_ret]
    rfl
  · exact
      { later := ⟨⟨rfl, rfl, rfl⟩, rfl, rfl, rfl, hanswered.commands, hanswered.preludeFrames,
          hanswered.preludeIdx, hanswered.repeats⟩
        number := by
          show s.handler.blockNumber = 1 - (s.reader.handle (s.handler.iblockOf _ _).wire).blockNumber
          rw [hanswered.number, h.number, one_sub_one_sub]
        ready := hanswered.ready
        command := hanswered.command
        chunk := hanswered.chunk
        assembled := hanswered.assembled.trans (by
          rw [hpay, h.partialResponse, Pcd.take_append_chunkAt,
            List.take_of_length_le (Nat.le_of_not_lt hend)])
        partialResponse := hanswered.partialResponse }

omit [Build] in
/-- There is more to come. -/
theorem Responding.lt {d : Nat} (h : s.Responding data inf k (d + 1)) :
    k * inf + inf < data.length := by
  have hblocks := h.blocks
  exact (more_iff h.pos data k).mpr (by omega)

/-- The reader has acknowledged the chunk. -/
theorem Responding.reader {d : Nat} (h : s.Responding data inf k (d + 1)) :
    (s.chunkOut data inf k).reader = ({ s.reader with
      blockNumber := 1 - s.reader.blockNumber
      partialResponse := s.reader.partialResponse ++ Pcd.chunkAt data inf (k * inf) } :
        SpecReader).holding (rblock (1 - s.reader.blockNumber) .ack) := by
  obtain ⟨ht, hn, hc, hpay⟩ := SpecPair.chunk_fields s.handler (Pcd.chunkAt data inf (k * inf))
    (k * inf + inf < data.length)
  have hhandle := SpecReader.handle_chained (r := s.reader) ht (hn.trans h.number)
    (hc.trans (decide_eq_true h.lt))
  rwa [hpay] at hhandle

/-- Nothing but the numbers and the data has moved. -/
theorem Responding.later {d : Nat} (h : s.Responding data inf k (d + 1)) :
    Later s (s.chunkOut data inf k) := by
  refine ⟨⟨rfl, rfl, rfl⟩, rfl, rfl, rfl, ?_, ?_, ?_, ?_⟩ <;> rw [h.reader] <;> rfl

/-- What a chunk that is acknowledged leaves as it is. -/
theorem Responding.releases {d : Nat} (h : s.Responding data inf k (d + 1)) :
    Later s (s.released data inf k) :=
  h.later.trans ⟨⟨rfl, rfl, rfl⟩, rfl, rfl, rfl, rfl, rfl, rfl, rfl⟩

/-- What the handler makes of the R(ACK). -/
theorem Responding.receive {d : Nat} (h : s.Responding data inf k (d + 1)) :
    s.handler.receive (rblock (1 - s.reader.blockNumber) .ack) =
      (.ok .chainingAck, s.handler.counted.advanced) := by
  have hbudget := h.budget
  have hne : s.handler.blockNumber ≠ 1 - s.reader.blockNumber := by
    rw [h.number]
    exact ne_one_sub _
  have hrack : (rblock (1 - s.reader.blockNumber) .ack).IsRack (1 - s.reader.blockNumber) :=
    ⟨rfl, rfl, rfl⟩
  have hmean := Peer.rMeaning_rack h.sound.role hrack
  rw [if_neg hne] at hmean
  exact Received.eq (.release (frameOk_of_le (by omega)) rfl hmean)

/-- **Any other chunk** is acknowledged, and the card goes on with the next one. -/
theorem Responding.more {d : Nat} (h : s.Responding data inf k (d + 1)) (fuel : Nat) :
    (Picc.sendChunk data inf (k * inf) >>= finish (fuel + 1) :
        Act SpecPicc (PiccError Unit) Outcome).run s =
      (Picc.sendChunk data inf ((k + 1) * inf) >>= finish fuel :
        Act SpecPicc (PiccError Unit) Outcome).run (s.released data inf k) := by
  have hlt := h.lt
  have hrun := run_sendChunk_said h.sound (by omega : k * inf ≤ data.length) h.max
  rw [if_pos hlt] at hrun
  have hsound : (s.chunkOut data inf k).Sound := h.sound.later h.later
  have hpending : (s.chunkOut data inf k).reader.pending =
      some ((rblock (1 - s.reader.blockNumber) .ack).raw false) := by
    rw [h.reader]
    rfl
  have hfsc := s.fsc_bounds.1
  have hround : ((PiccCall.sendResponse data inf (k * inf + inf)
      (Peer.chunk s.handler data inf (k * inf))).resume
        (.ok ((rblock (1 - s.reader.blockNumber) .ack).raw false))).run
          (s.chunkOut data inf k).emptied =
      (Picc.sendChunk data inf (k * inf + inf) : Act SpecPicc (PiccError Unit) Next).run
        (s.released data inf k) := by
    have hread : (Picc.sendResponse data inf (k * inf + inf) (Peer.chunk s.handler data inf (k * inf))
        ((rblock (1 - s.reader.blockNumber) .ack).raw (s.chunkOut data inf k).emptied.hwCrc)).run
          (s.chunkOut data inf k).emptied = _ :=
      run_sendResponse_read data inf (k * inf + inf) (Peer.chunk s.handler data inf (k * inf))
        ⟨⟨rfl, rfl, rfl⟩, fun hnad => by cases hnad⟩
        (by rw [length_rack]; show 1 + 2 ≤ s.fsc; omega) h.receive
    rw [show (s.chunkOut data inf k).emptied.hwCrc = false from hsound.hwCrc] at hread
    exact hread
  refine (Act.run_bind_ok hrun _).trans ((run_finish_bind hsound hpending fuel _).trans ?_)
  rw [Act.run_bind, hround, ← Act.run_bind, ← Nat.succ_mul]

/-- And the invariant holds again. -/
theorem Responding.next {d : Nat} (h : s.Responding data inf k (d + 1)) :
    (s.released data inf k).Responding data inf (k + 1) d where
  blocks := (by omega : k + 1 + d + 1 = k + (d + 1) + 1).trans h.blocks
  sound := h.sound.later h.releases
  number := by
    show 1 - s.handler.blockNumber = (s.chunkOut data inf k).reader.blockNumber
    rw [h.reader, h.number]
    rfl
  pos := h.pos
  max := h.max
  partialResponse := by
    show (s.chunkOut data inf k).reader.partialResponse = _
    rw [h.reader, Nat.succ_mul, ← Pcd.take_append_chunkAt, ← h.partialResponse]
    rfl
  budget := by
    have hbudget := h.budget
    have hcounted : (s.released data inf k).handler.counters.frames ≤
        s.handler.counters.frames + 1 := frames_counted s.handler
    show _ ≤ s.handler.limits.maxFrames
    omega

/-- The chunks after this one end the response. -/
theorem ResponseOut.after {d : Nat} {s' : SpecPicc} (h : s.Responding data inf k (d + 1))
    (h' : (s.released data inf k).ResponseOut data s') : s.ResponseOut data s' where
  later := h.releases.trans h'.later
  number := h'.number
  ready := h'.ready
  command := by
    refine h'.command.trans ?_
    show (s.chunkOut data inf k).reader.command + 1 = _
    rw [h.reader]
    rfl
  chunk := h'.chunk
  assembled := by
    refine h'.assembled.trans ?_
    show (s.chunkOut data inf k).reader.assembled ++ _ = _
    rw [h.reader]
    rfl
  partialResponse := h'.partialResponse

/-- **The response goes out.** -/
theorem responding (d : Nat) : ∀ (fuel : Nat) {k : Nat} {s : SpecPicc}, s.Responding data inf k d →
    d ≤ fuel → ∃ s' : SpecPicc,
      (Picc.sendChunk data inf (k * inf) >>= finish fuel).run s = (.ok .unit, s') ∧
        s.ResponseOut data s' := by
  induction d with
  | zero =>
    intro fuel k s h hfuel
    exact ⟨_, h.last fuel⟩
  | succ d ih =>
    intro fuel k s h hfuel
    obtain ⟨fuel, rfl⟩ : ∃ f, fuel = f + 1 := ⟨fuel - 1, by omega⟩
    obtain ⟨s', hrun, hout⟩ := ih fuel h.next (by omega)
    exact ⟨s', (h.more fuel).trans hrun, .after h hout⟩

/-! ## Every sequence of exchanges

  A command and its response, one after the other, from an activation on. -/

/-- **In step**: the reader has a command ready, and its number is not the card's. -/
structure InStep (s : SpecPicc) : Prop where
  sound : s.Sound
  number : s.handler.blockNumber = 1 - s.reader.blockNumber
  chunk : s.reader.chunk = 0
  partialResponse : s.reader.partialResponse = []
  ready : s.reader.Ready

/-- What a command, in the chunks of the reader, and its response need of the card: chunks that fit
    its frames, room for the whole command, and a frame for every block. -/
structure Admits (respond : ChainVec → List UInt8) (s : SpecPicc) (chunks : List (List UInt8)) :
    Prop where
  short : Short s.fsc chunks
  length : chunks.flatten.length ≤ s.handler.limits.maxChainLen
  fits : Fits chainCap chunks.flatten.length
  frames : chunks.length +
    blockCount (Peer.maxInf s.fsd s.handler) (respond chunks.flatten) - 1 ≤ s.handler.limits.maxFrames

/-- The rounds a command and its response take. -/
def Enough (respond : ChainVec → List UInt8) (s : SpecPicc) (fuel : Nat)
    (chunks : List (List UInt8)) : Prop :=
  chunks.length ≤ fuel ∧ blockCount (Peer.maxInf s.fsd s.handler) (respond chunks.flatten) ≤ fuel

/-- `send_response` begins with the first chunk. -/
theorem run_begin_sendResponse (h : s.Sound) (data : List UInt8) :
    (PiccApi.begin (.sendResponse data) : Act SpecPicc (PiccError Unit) Next).run s =
      (Picc.sendChunk data (Peer.maxInf s.fsd s.handler) 0).run s := by
  have hpos := Peer.maxInf_pos s.handler h.fsd_ge
  have hinf : s.fsd - (1 + (if (s.handler.iblockOf [] false).cid.isSome then 1 else 0) + 2) =
      Peer.maxInf s.fsd s.handler := by
    have hcid : (s.handler.iblockOf [] false).cid.isSome = s.handler.cid.isSome := by
      simp only [iblockOf, addCid, Block.withPayload]
      cases s.handler.cid <;> rfl
    rw [hcid, Peer.maxInf]
    congr 1
    omega
  rw [PiccApi.begin, Act.run_get_bind, Act.run_bind, run_lift,
    buildIblock_of_fits _ (fits_frameCap (by simp))]
  simp only [Res.mapErr_ok, hinf]
  rw [if_neg (by omega)]

/-- The card once `receive_command` has set its counters back. -/
def begun (s : SpecPicc) : SpecPicc := { s with handler := s.handler.beginExchange }

omit [Build] in
/-- Beginning an exchange changes nothing that is kept. -/
theorem later_begun (s : SpecPicc) : Later s s.begun :=
  ⟨⟨rfl, rfl, rfl⟩, rfl, rfl, rfl, rfl, rfl, rfl, rfl⟩

/-- What the first round of `receive_command` finds. -/
theorem InStep.receiving {respond : ChainVec → List UInt8} (h : s.InStep)
    (hadmits : Admits respond s chunks) (hc : s.reader.commands[s.reader.command]? = some chunks) :
    s.begun.Receiving chunks 0 (chunks.length - 1) := by
  have hmem : chunks ∈ s.reader.commands := List.mem_of_getElem? hc
  have hlen : 0 < chunks.length := List.length_pos_of_ne_nil (h.sound.sendable chunks hmem).1
  have hframes := hadmits.frames
  have hsome : 0 < blockCount (Peer.maxInf s.fsd s.handler) (respond chunks.flatten) :=
    Nat.succ_pos _
  exact
    { length := by omega
      sound := h.sound.later s.later_begun
      number := h.number
      command := hc
      chunk := h.chunk
      pending := h.ready chunks hc
      short := hadmits.short
      chain := rfl
      max := hadmits.length
      fits := hadmits.fits
      budget := by
        show 0 + (chunks.length - 1) + 1 ≤ s.handler.limits.maxFrames
        omega }

/-- What the first round of `send_response` finds. -/
theorem CommandIn.responding {respond : ChainVec → List UInt8} {s1 : SpecPicc} (h : s.InStep)
    (hadmits : Admits respond s chunks) (hlen : 0 < chunks.length)
    (hin : s.begun.CommandIn (chunks.length - 1) s1) :
    s1.Responding (respond chunks.flatten) (Peer.maxInf s.fsd s.handler) 0
      (blockCount (Peer.maxInf s.fsd s.handler) (respond chunks.flatten) - 1) := by
  have hlater := s.later_begun.trans hin.later
  have hframes := hadmits.frames
  have hsome : 0 < blockCount (Peer.maxInf s.fsd s.handler) (respond chunks.flatten) :=
    Nat.succ_pos _
  have hcounted : s1.handler.counters.frames ≤ 0 + (chunks.length - 1) + 1 := hin.counted
  exact
    { blocks := by omega
      sound := h.sound.later hlater
      number := hin.number
      pos := Peer.maxInf_pos s.handler h.sound.fsd_ge
      max := Nat.le_of_eq (by rw [Peer.maxInf, Peer.maxInf, hlater.fsd, hlater.kept.cid])
      partialResponse := by
        rw [hin.partialResponse, Nat.zero_mul, List.take_zero]
        exact h.partialResponse
      budget := by
        rw [hlater.kept.limits]
        omega }

/-- **One exchange**: `receive_command` takes the command in, and `send_response` gives the
    response, chunk by chunk. -/
theorem exchange_specReader {respond : ChainVec → List UInt8} {fuel : Nat} (h : s.InStep)
    (hadmits : Admits respond s chunks) (henough : Enough respond s fuel chunks)
    (hc : s.reader.commands[s.reader.command]? = some chunks) :
    ∃ s' : SpecPicc, (exchange fuel respond).run s = (.ok chunks.flatten, s') ∧ s'.InStep ∧ Later s s' ∧
      s'.reader.command = s.reader.command + 1 ∧
      s'.reader.assembled = s.reader.assembled ++ [respond chunks.flatten] := by
  have hmem : chunks ∈ s.reader.commands := List.mem_of_getElem? hc
  have hlen : 0 < chunks.length := List.length_pos_of_ne_nil (h.sound.sendable chunks hmem).1
  obtain ⟨hfuel, hfuel'⟩ := henough
  -- the command
  obtain ⟨s1, hrun1, hin⟩ :=
    receiving (chunks.length - 1) fuel (h.receiving hadmits hc) (by omega)
  have hreceive : (call fuel .receiveCommand).run s = (.ok (.apdu chunks.flatten), s1) := hrun1
  have hlater1 := s.later_begun.trans hin.later
  have hs1 : s1.Sound := h.sound.later hlater1
  have hinf : Peer.maxInf s1.fsd s1.handler = Peer.maxInf s.fsd s.handler := by
    rw [Peer.maxInf, Peer.maxInf, hlater1.fsd, hlater1.kept.cid]
  -- the response
  obtain ⟨s2, hrun2, hout⟩ := responding _ fuel (CommandIn.responding h hadmits hlen hin) (by omega)
  have hsend : (call fuel (.sendResponse (respond chunks.flatten))).run s1 = (.ok .unit, s2) := by
    rw [call, Act.run_bind, run_begin_sendResponse hs1, ← Act.run_bind, hinf]
    rw [Nat.zero_mul] at hrun2
    exact hrun2
  have hlater2 := hlater1.trans hout.later
  refine ⟨s2, ?_, ⟨h.sound.later hlater2, hout.number, hout.chunk, hout.partialResponse, hout.ready⟩,
    hlater2, ?_, ?_⟩
  · refine (Act.run_bind_ok hreceive _).trans ?_
    exact (Act.run_bind_ok hsend _).trans rfl
  · rw [hout.command, hin.command]
    rfl
  · rw [hout.assembled, hin.assembled]
    rfl

omit [Build] in
/-- What a card keeps is what an exchange needs. -/
theorem Later.same {s' : SpecPicc} (hl : Later s s') : s'.fsc = s.fsc ∧
    Peer.maxInf s'.fsd s'.handler = Peer.maxInf s.fsd s.handler := by
  constructor
  · rw [fsc, fsc, hl.config]
  · rw [Peer.maxInf, Peer.maxInf, hl.fsd, hl.kept.cid]

/-- One exchange, as a step. -/
def exchanging (fuel : Nat) (respond : ChainVec → List UInt8) (s : SpecPicc) (_ : Unit) :
    Res (PiccError Unit) ChainVec × SpecPicc := (exchange fuel respond).run s

/-- **An exchange with the reader of the tests**: `receive_command` gives the chunks in one piece, the
    reader assembles exactly the response, neither side repeats a block, and the two are in step. -/
structure Served (respond : ChainVec → List UInt8)
    (e : Run.Event SpecPicc Unit (Res (PiccError Unit) ChainVec)) (chunks : List (List UInt8)) :
    Prop where
  command : e.output = .ok chunks.flatten
  assembled : SpecReader.assembled e.after.reader =
    SpecReader.assembled e.before.reader ++ [respond chunks.flatten]
  repeats : SpecReader.repeats e.after.reader = SpecReader.repeats e.before.reader
  inStep : InStep e.after

/-- From any state in step, by induction on the commands that are left. -/
theorem exchanging_served {respond : ChainVec → List UInt8} {fuel : Nat}
    (script : List (List (List UInt8))) : ∀ {s : SpecPicc}, s.InStep →
    s.reader.commands.drop s.reader.command = script →
    (∀ chunks ∈ script, Admits respond s chunks) → (∀ chunks ∈ script, Enough respond s fuel chunks) →
    List.Forall₂ (Served respond)
      (Run.trace (exchanging fuel respond) s (List.replicate script.length ())) script := by
  induction script with
  | nil =>
    intros
    exact .nil
  | cons chunks script ih =>
    intro s h hscript hadmits henough
    have hc : s.reader.commands[s.reader.command]? = some chunks := by
      have h0 : (s.reader.commands.drop s.reader.command)[0]? = some chunks := by rw [hscript]; rfl
      rwa [List.getElem?_drop, Nat.add_zero] at h0
    obtain ⟨s', hrun, hstep, hl, hcommand, hassembled⟩ :=
      exchange_specReader h (hadmits chunks (List.mem_cons_self ..))
        (henough chunks (List.mem_cons_self ..)) hc
    obtain ⟨hfsc, hinf⟩ := hl.same
    have hevent : exchanging fuel respond s () = (.ok chunks.flatten, s') := hrun
    rw [List.length_cons, List.replicate_succ, Run.trace_cons, hevent]
    refine .cons ⟨?_, ?_, ?_, ?_⟩ (ih hstep ?_ ?_ ?_)
    · exact congrArg Prod.fst hrun
    · rw [Run.event_after, hevent]
      exact hassembled
    · rw [Run.event_after, hevent]
      exact hl.repeats
    · rw [Run.event_after, hevent]
      exact hstep
    · rw [hcommand, hl.commands, ← List.drop_drop, hscript]
      rfl
    · intro chunks' hmem
      obtain ⟨hshort, hlength, hfits, hframes⟩ := hadmits chunks' (List.mem_cons_of_mem _ hmem)
      refine ⟨hfsc ▸ hshort, hl.kept.limits ▸ hlength, hfits, ?_⟩
      rw [hinf, hl.kept.limits]
      exact hframes
    · intro chunks' hmem
      obtain ⟨hfuel, hfuel'⟩ := henough chunks' (List.mem_cons_of_mem _ hmem)
      exact ⟨hfuel, hinf ▸ hfuel'⟩

/-- **The card and a reader that follows the rules.**  The reader of the tests cuts its commands into
    chunks as it likes, within the frame size of the card.  In every exchange of every sequence
    `receive_command` gives exactly the command, the reader assembles exactly the response, and neither
    side repeats a block. -/
theorem specReader_served {respond : ChainVec → List UInt8} {fuel : Nat} (h : s.InStep)
    (hadmits : ∀ chunks ∈ s.reader.commands.drop s.reader.command, Admits respond s chunks)
    (henough : ∀ chunks ∈ s.reader.commands.drop s.reader.command, Enough respond s fuel chunks) :
    List.Forall₂ (Served respond)
      (Run.trace (exchanging fuel respond) s
        (List.replicate (s.reader.commands.drop s.reader.command).length ()))
      (s.reader.commands.drop s.reader.command) :=
  exchanging_served _ h rfl hadmits henough

/-- The reader of `run_exchanges`: it activates the card of the tests, announces frames of 64 bytes,
    and sends a command of a hundred bytes in four chunks, and a short one. -/
def sampleReader : SpecReader where
  preludeFrames := [[0x26], [0x93, 0x20], withCrc [0x93, 0x70, 0x01, 0x02, 0x03, 0x04, 0x04],
    withCrc [0xe0, 0x50]]
  commands :=
    [[(List.range 30).map UInt8.ofNat, (List.range 30).map UInt8.ofNat,
        (List.range 30).map UInt8.ofNat, (List.range 10).map UInt8.ofNat],
      [[0x00, 0xa4]]]

/-- The card of the tests. -/
def samplePiccConfig : PiccConfig where
  uid := sampleUid
  bitFrameAc := .slot4
  ats := some (Ats.new .fsc256 0x80 {} Tc.cidSupp)

/-- It has been activated, and has answered RATS. -/
def samplePicc : SpecPicc :=
  let activated := ((call 4 .waitForActivation).run (Picc.new sampleReader samplePiccConfig)).2
  ((call 1 .waitForRats).run activated).2

omit [Build] in
/-- The card gives each command back with a status word. -/
theorem specReader_served_sample : let : Build := Build.heap
    let echo : ChainVec → List UInt8 := fun apdu => apdu ++ [0x90, 0x00]
    List.Forall₂ (Served echo) (Run.trace (exchanging 4 echo) samplePicc
        (List.replicate (samplePicc.reader.commands.drop samplePicc.reader.command).length ()))
      (samplePicc.reader.commands.drop samplePicc.reader.command) := by
  have hstart : let : Build := Build.heap
      samplePicc.hwCrc = false ∧ samplePicc.handler.role = .picc ∧
        16 ≤ samplePicc.fsd ∧ samplePicc.fsd ≤ 256 ∧
        samplePicc.handler.blockNumber = 1 - samplePicc.reader.blockNumber ∧
        samplePicc.reader.preludeFrames.length ≤ samplePicc.reader.preludeIdx ∧
        samplePicc.reader.chunk = 0 ∧ samplePicc.reader.partialResponse = [] ∧
        samplePicc.reader.commands = sampleReader.commands ∧ samplePicc.reader.command = 0 ∧
        samplePicc.reader.pending = some ((cutBlock samplePicc.reader.blockNumber
          (sampleReader.commands.getD 0 []) 0).raw false) := by
    decide +kernel
  have hcommands : let : Build := Build.heap
      ∀ chunks ∈ sampleReader.commands, (chunks ≠ [] ∧ Short 256 chunks) ∧ Short samplePicc.fsc chunks ∧
        chunks.flatten.length ≤ samplePicc.handler.limits.maxChainLen ∧
        Fits chainCap chunks.flatten.length ∧
        chunks.length + blockCount (Peer.maxInf samplePicc.fsd samplePicc.handler)
          (chunks.flatten ++ [0x90, 0x00]) - 1 ≤ samplePicc.handler.limits.maxFrames ∧
        chunks.length ≤ 4 ∧ blockCount (Peer.maxInf samplePicc.fsd samplePicc.handler)
          (chunks.flatten ++ [0x90, 0x00]) ≤ 4 := by
    decide +kernel
  obtain ⟨hcrc, hrole, hfsd, hfsd', hnum, hpast, hchunk, hpart, hall, hzero, hpending⟩ := hstart
  have hready : (@samplePicc Build.heap).reader.Ready := by
    intro chunks hc
    rw [hall, hzero] at hc
    cases hc
    exact hpending
  have hsend : (@samplePicc Build.heap).reader.Sendable := by
    intro chunks hmem
    rw [hall] at hmem
    exact (hcommands chunks hmem).1
  have hdrop : (@samplePicc Build.heap).reader.commands.drop (@samplePicc Build.heap).reader.command =
      sampleReader.commands := by
    rw [hall, hzero, List.drop_zero]
  refine @specReader_served Build.heap (@samplePicc Build.heap) (fun apdu => apdu ++ [0x90, 0x00]) 4
    ⟨⟨hcrc, hrole, hfsd, hfsd', hpast, hsend⟩, hnum, hchunk, hpart, hready⟩ ?_ ?_
  · intro chunks hmem
    rw [hdrop] at hmem
    obtain ⟨-, hshort, hlength, hfits, hframes, -⟩ := hcommands chunks hmem
    exact @Admits.mk Build.heap _ _ _ hshort hlength hfits hframes
  · intro chunks hmem
    rw [hdrop] at hmem
    obtain ⟨-, -, -, -, -, hfuel⟩ := hcommands chunks hmem
    exact hfuel

end SpecPicc

end Iso14443
