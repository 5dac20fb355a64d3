/-
  The card of the tests of `pcd.rs`, which is not this library's: it applies the numbering rules of the
  standard literally, and knows nothing of `ProtocolHandler`.

  A model of its own makes the reader answer to the standard and not to a copy of itself.  The card
  counts its block number from 1 (Rule C) and moves it with every I-Block that arrives (Rule D) and
  with every R(ACK) that is not its own (Rule E).  An R(ACK) with its own number makes it send its last
  frame again (Rule 11), which it counts in `repeats`.  It has no recovery beyond that: on anything it
  does not expect it falls silent, as the mock of the tests returns `Err(MockError)`.

  * `SpecCard`         — that card; its responses are cut into chunks as it likes.
  * `Lossy`            — a link in front of any transceiver, which loses frames and answers.
  * `receive_chunk`    — what this library makes of one chunk, on either side.
  * `SpecCard.Holds`   — the card has put chunk `j` of the response `i` on the air, and is ready to put
                         it there again.
  * `react_chained`, `react_last` — a command comes in, chunk by chunk.
  * `SpecCard.Offers`  — what the card makes of an R(ACK): the next chunk, or the last one again.

  `Offers` is the invariant of the recovery.  It says which chunk an R(ACK) with number `n` brings,
  whether none has arrived yet or several have whose answers were lost: so the reader may ask as often
  as it has to, and gets the same chunk each time.  `Iso14443.SpecPair` puts the two together.
-/
import Iso14443.Dialogue

namespace Iso14443

open ProtocolHandler

/-! ## The card of the tests

  The mock of the tests, method by method.  Where it returns `Err(MockError)` the answer is an
  error and the state is what it was at that point. -/

/-- `SpecCard`.  Rule C: the block number is initialised to 1.  Its state is that of the mock in
    the tests, field by field; the responses are given in advance, a list of chunks for every
    command. -/
structure SpecCard where
  blockNumber : Fin 2 := 1
  /-- One entry per command: the response, split into chained chunks. -/
  responses : List (List (List UInt8))
  command : Nat := 0
  chunk : Nat := 0
  lastSent : Option FrameVec := none
  /-- Commands as the card assembled them. -/
  received : List (List UInt8) := []
  partialCommand : List UInt8 := []
  /-- How often Rule 11 fired. -/
  repeats : Nat := 0
  frames : Nat := 0
  /-- The frames it takes in before it gives up: 50 in the source. -/
  patience : Nat := 50

namespace SpecCard

variable [Build]

/-- `send`. -/
def send (self : SpecCard) (frame : FrameVec) : Except Unit FrameVec × SpecCard :=
  (.ok frame, { self with lastSent := some frame })

/-- `to_vec().map_err(|_| MockError)?`, and `send`. -/
def sendBlock (self : SpecCard) (block : Block) : Except Unit FrameVec × SpecCard :=
  match block.toVec with
  | .ok frame => self.send frame
  | _ => (.error (), self)

/-- `send_rack`. -/
def sendRack (self : SpecCard) : Except Unit FrameVec × SpecCard :=
  self.sendBlock (rblock self.blockNumber .ack)

/-- `send_next_chunk`. -/
def sendNextChunk (self : SpecCard) : Except Unit FrameVec × SpecCard :=
  match self.responses[self.command]? with
  | none => (.error (), self)
  | some chunks =>
    match chunks[self.chunk]? with
    | none => (.error (), self)
    | some payload =>
      let chaining : Bool := self.chunk + 1 < chunks.length
      match (iblock self.blockNumber payload chaining).toVec with
      | .ok frame =>
        if chaining then { self with chunk := self.chunk + 1 }.send frame
        else { self with command := self.command + 1, chunk := 0 }.send frame
      | _ => (.error (), self)

/-- The `match` of `transceive`. -/
def react (self : SpecCard) (block : Block) : Except Unit FrameVec × SpecCard :=
  match block.blockType with
  | .iBlock =>
    -- Rule D
    let self := { self with
      blockNumber := 1 - self.blockNumber
      partialCommand := self.partialCommand ++ block.payload }
    if block.isChaining then self.sendRack
    else
      { self with received := self.received ++ [self.partialCommand]
                  partialCommand := [] }.sendNextChunk
  | .rBlock =>
    match block.pcb.rSubtype with
    | some .ack =>
      if block.blockNumber = self.blockNumber then
        -- Rule 11
        let self := { self with repeats := self.repeats + 1 }
        match self.lastSent with
        | some frame => (.ok frame, self)
        | none => (.error (), self)
      else
        -- Rules E and 13
        { self with blockNumber := 1 - self.blockNumber }.sendNextChunk
    | _ => (.error (), self)
  | .sBlock => (.error (), self)

/-- `transceive`: the frame is counted against the card's patience, read as a block and handled by
    its type; a frame that is no block is a failure. -/
instance : PcdTransceiver SpecCard Unit where
  transceive self frame :=
    let self := { self with frames := self.frames + 1 }
    if self.frames > self.patience then (.error (), self)
    else
      match Block.tryFrom frame.data with
      | .ok block => self.react block
      | _ => (.error (), self)
  tryEnableHwCrc self := (.error (), self)

end SpecCard

/-- A transceiver behind a link that loses frames and answers. -/
structure Lossy (T : Type) where
  inner : T
  fates : List Fate := []

/-- A lost frame never reaches the card; a lost answer is given and never arrives. -/
instance {T : Type} [PcdTransceiver T Unit] : PcdTransceiver (Lossy T) Unit where
  transceive self frame :=
    match self.fates with
    | .frameLost :: fates => (.error (), { self with fates })
    | .answerLost :: fates =>
      (.error (), ⟨(PcdTransceiver.transceive self.inner frame).2, fates⟩)
    | .delivered :: fates =>
      let (r, inner) := PcdTransceiver.transceive self.inner frame
      (r, ⟨inner, fates⟩)
    | [] =>
      let (r, inner) := PcdTransceiver.transceive self.inner frame
      (r, ⟨inner, []⟩)
  tryEnableHwCrc self :=
    let (r, inner) := PcdTransceiver.tryEnableHwCrc (E := Unit) self.inner
    (r, { self with inner })

namespace Lossy

variable {T : Type} [PcdTransceiver T Unit] {t : Lossy T}

/-- Where nothing is lost the link is the card. -/
theorem transceive_delivered (h : t.fates.getD 0 .delivered = .delivered) (frame : Frame) :
    PcdTransceiver.transceive t frame = ((PcdTransceiver.transceive t.inner frame).1,
      (⟨(PcdTransceiver.transceive t.inner frame).2, t.fates.drop 1⟩ : Lossy T)) := by
  obtain ⟨inner, fates⟩ := t
  cases fates with
  | nil => rfl
  | cons fate fates =>
    obtain rfl : fate = .delivered := h
    rfl

/-- Nothing comes back, and the frame has arrived or not. -/
theorem transceive_failed (h : t.fates.getD 0 .delivered ≠ .delivered) (frame : Frame) :
    ∃ t' : Lossy T, PcdTransceiver.transceive t frame = (.error (), t') ∧
      t'.fates = t.fates.drop 1 ∧
      (t.fates.take 1 = [.frameLost] ∧ t'.inner = t.inner ∨ t.fates.take 1 = [.answerLost] ∧
        t'.inner = (PcdTransceiver.transceive t.inner frame).2) := by
  obtain ⟨inner, fates⟩ := t
  cases fates with
  | nil => exact absurd rfl h
  | cons fate fates =>
    cases fate with
    | delivered => exact absurd rfl h
    | frameLost => exact ⟨_, rfl, rfl, Or.inl ⟨rfl, rfl⟩⟩
    | answerLost => exact ⟨_, rfl, rfl, Or.inr ⟨rfl, rfl⟩⟩

end Lossy

/-! ## What the card does with a block

  Equations for `react`, one for each kind of block that the reader sends. -/

namespace SpecCard

variable [Build] {c : SpecCard} {chunks : List (List UInt8)} {i j : Nat} {n : Fin 2}

/-- The block with chunk `j` of a response. -/
def cutBlock (n : Fin 2) (chunks : List (List UInt8)) (j : Nat) : Block :=
  iblock n (chunks.getD j []) (j + 1 < chunks.length)

omit [Build] in
/-- The block of a chunk is well formed. -/
theorem wellFormed_cutBlock (n : Fin 2) (chunks : List (List UInt8)) (j : Nat) :
    (cutBlock n chunks j).WellFormed :=
  ⟨⟨rfl, rfl⟩, fun hn => by cases hn⟩

/-- The chunks of a response fit the frames of the reader. -/
def Short (fsd : Nat) (chunks : List (List UInt8)) : Prop := ∀ chunk ∈ chunks, chunk.length + 3 ≤ fsd

/-- Being short enough is a comparison for each chunk. -/
instance (fsd : Nat) (chunks : List (List UInt8)) : Decidable (Short fsd chunks) :=
  inferInstanceAs (Decidable (∀ chunk ∈ chunks, _))

omit [Build] in
/-- Chunks for a small frame fit a larger one. -/
theorem Short.mono {m m' : Nat} (h : Short m chunks) (hle : m ≤ m') : Short m' chunks :=
  fun chunk hchunk => Nat.le_trans (h chunk hchunk) hle

omit [Build] in
/-- The block of a chunk fits the frame it was cut for. -/
theorem Short.length_cutBlock {fsd : Nat} (h : Short fsd chunks) (hj : j < chunks.length)
    (n : Fin 2) : (cutBlock n chunks j).bytes.length + 2 ≤ fsd := by
  have hget : chunks.getD j [] = chunks[j] := by
    rw [List.getD_eq_getElem?_getD, List.getElem?_eq_getElem hj, Option.getD_some]
  have hlen := h _ (List.getElem_mem hj)
  have hbytes : (cutBlock n chunks j).bytes.length = 1 + (chunks.getD j []).length := by
    simp [cutBlock, iblock, Block.length_bytes, Block.withPayload, Block.new]
  rw [hbytes, hget]
  omega

omit [Build] in
/-- The chunks so far, and the next one. -/
theorem flatten_take_succ (hj : j < chunks.length) :
    (chunks.take j).flatten ++ chunks.getD j [] = (chunks.take (j + 1)).flatten := by
  rw [List.take_succ_eq_append_getElem hj, List.flatten_append, List.flatten_singleton,
    List.getD_eq_getElem?_getD, List.getElem?_eq_getElem hj, Option.getD_some]

/-- **A handler that expects chunk `j` takes it in.** The chain is the chunks before it; the last
    one completes it, any other is acknowledged. -/
theorem receive_chunk {h : ProtocolHandler} (hrep : h.repeatsLastIblock (cutBlock n chunks j) = false)
    (hj : j < chunks.length) (hchain : h.chain = (chunks.take j).flatten)
    (hmax : chunks.flatten.length ≤ h.limits.maxChainLen) (hcap : Fits chainCap chunks.flatten.length)
    (hf : h.FrameOk) : h.receive (cutBlock n chunks j) =
      if j + 1 < chunks.length then (.ok (.reply h.advanced.buildRack),
        (h.counted.extended (chunks.getD j [])).advanced)
      else (.ok (.complete (chunks.take (j + 1)).flatten), h.counted.advanced.dropChain) := by
  have hlen : h.chain.length + (cutBlock n chunks j).payload.length ≤ chunks.flatten.length := by
    have hsplit : (chunks.take (j + 1)).flatten ++ (chunks.drop (j + 1)).flatten = chunks.flatten := by
      rw [← List.flatten_append, List.take_append_drop]
    have hsum := congrArg List.length hsplit
    rw [← flatten_take_succ hj, ← hchain, List.length_append, List.length_append] at hsum
    have hpay : (cutBlock n chunks j).payload = chunks.getD j [] := rfl
    rw [hpay]
    omega
  have hrep : ¬ h.repeatsLastIblock (cutBlock n chunks j) := by rw [hrep]; exact Bool.false_ne_true
  have hchaining : (cutBlock n chunks j).isChaining = decide (j + 1 < chunks.length) := rfl
  by_cases hmore : j + 1 < chunks.length
  · rw [if_pos hmore]
    exact Received.eq (.chained hf rfl hrep (Nat.le_trans hlen hmax) (hcap.mono hlen)
      (hchaining.trans (decide_eq_true hmore)))
  · rw [if_neg hmore]
    have hend : ¬ (cutBlock n chunks j).isChaining := by
      rw [hchaining, decide_eq_false hmore]
      exact Bool.false_ne_true
    have hdata : h.chain ++ (cutBlock n chunks j).payload = (chunks.take (j + 1)).flatten := by
      rw [hchain]
      exact flatten_take_succ hj
    rw [← hdata]
    exact Received.eq (.complete hf rfl hrep (Nat.le_trans hlen hmax) (hcap.mono hlen) hend)

omit [Build] in
/-- A reader expects the number that is its own. -/
theorem fresh_pcd {h : ProtocolHandler} (hrole : h.role = .pcd) (chunks : List (List UInt8)) (j : Nat) :
    h.repeatsLastIblock (cutBlock h.blockNumber chunks j) = false := by
  simp only [repeatsLastIblock, hrole]
  exact decide_eq_false fun hne => hne rfl

/-- The card has sent chunk `j` of the response `i`: its counters point to the next one, and what it
    would send again is this one. -/
structure Holds (c : SpecCard) (chunks : List (List UInt8)) (i j : Nat) : Prop where
  responses : c.responses[i]? = some chunks
  sent : j < chunks.length
  command : c.command = if j + 1 < chunks.length then i else i + 1
  chunk : c.chunk = if j + 1 < chunks.length then j + 1 else 0
  lastSent : c.lastSent = some ((cutBlock c.blockNumber chunks j).raw false)

/-- What a response leaves as it is. -/
structure Same (c c' : SpecCard) : Prop where
  responses : c'.responses = c.responses
  received : c'.received = c.received
  partialCommand : c'.partialCommand = c.partialCommand
  patience : c'.patience = c.patience

omit [Build] in
/-- What is the same over two stretches is the same over both. -/
theorem Same.trans {c' c'' : SpecCard} (h : Same c c') (h' : Same c' c'') : Same c c'' :=
  ⟨h'.responses.trans h.responses, h'.received.trans h.received,
    h'.partialCommand.trans h.partialCommand, h'.patience.trans h.patience⟩

/-- The card `c` has put its next chunk on the air, and is `c'` by now: nothing of it has changed
    but the place in its responses and the block sent last. -/
structure Sent (c : SpecCard) (chunks : List (List UInt8)) (c' : SpecCard) : Prop where
  holds : c'.Holds chunks c.command c.chunk
  same : Same c c'
  number : c'.blockNumber = c.blockNumber
  repeats : c'.repeats = c.repeats
  frames : c'.frames = c.frames

/-- `send_next_chunk`, where there is a chunk. -/
theorem sendNextChunk_eq {fsd : Nat} (hshort : Short fsd chunks) (hfsd : fsd ≤ 256)
    (hi : c.responses[c.command]? = some chunks) (hj : c.chunk < chunks.length) :
    ∃ c', c.sendNextChunk = (.ok ((cutBlock c.blockNumber chunks c.chunk).raw false), c') ∧
      c.Sent chunks c' := by
  have hget : chunks[c.chunk]? = some (chunks.getD c.chunk []) := by
    rw [List.getD_eq_getElem?_getD, List.getElem?_eq_getElem hj, Option.getD_some]
  have hlen := hshort.length_cutBlock hj c.blockNumber
  have hvec : (cutBlock c.blockNumber chunks c.chunk).toVec =
      .ok ((cutBlock c.blockNumber chunks c.chunk).raw false) := by
    rw [Block.toVec, Block.toBytesWithoutCrc_of_fits (fits_frameCap (by omega)), Res.ok_bind,
      appendCrcA_of_fits (fits_frameCap (by omega))]
    rfl
  by_cases hmore : c.chunk + 1 < chunks.length
  · have hblock : iblock c.blockNumber (chunks.getD c.chunk []) true =
        cutBlock c.blockNumber chunks c.chunk := by rw [cutBlock, decide_eq_true hmore]
    simp only [sendNextChunk, hi, hget, hmore, decide_true, if_true, hblock, hvec, send]
    exact ⟨_, rfl, ⟨hi, hj, (if_pos hmore).symm, (if_pos hmore).symm, rfl⟩, ⟨rfl, rfl, rfl, rfl⟩,
      rfl, rfl, rfl⟩
  · have hblock : iblock c.blockNumber (chunks.getD c.chunk []) false =
        cutBlock c.blockNumber chunks c.chunk := by rw [cutBlock, decide_eq_false hmore]
    simp only [sendNextChunk, hi, hget, hmore, decide_false, Bool.false_eq_true, if_false, hblock,
      hvec, send]
    exact ⟨_, rfl, ⟨hi, hj, (if_neg hmore).symm, (if_neg hmore).symm, rfl⟩, ⟨rfl, rfl, rfl, rfl⟩,
      rfl, rfl, rfl⟩

/-- A block that arrives. -/
theorem transceive_block {b : Block} (hwf : b.WellFormed) (hlen : b.bytes.length + 2 ≤ 256)
    (hp : c.frames + 1 ≤ c.patience) :
    PcdTransceiver.transceive c (.standard (b.raw false)) =
      ({ c with frames := c.frames + 1 } : SpecCard).react b.wire := by
  have hread : Block.tryFrom (b.raw false) = .ok b.wire := by
    have hpay : Fits frameCap b.payload.length := by
      have := b.length_bytes
      exact fits_frameCap (by omega)
    exact Block.tryFrom_withCrc_bytes hwf hpay
  show (if c.frames + 1 > c.patience then _ else _) = _
  rw [if_neg (by omega), Frame.data_standard, hread]

omit [Build] in
/-- An R(ACK) is one byte. -/
theorem length_rack (n : Fin 2) : (rblock n .ack).bytes.length = 1 := by
  simp [rblock, Block.length_bytes, Block.new]

/-- **A chunk with more to come** is acknowledged with the number it carries. -/
theorem react_chained {b : Block} (ht : b.blockType = .iBlock) (hc : b.isChaining = true) :
    c.react b.wire = (.ok ((rblock (1 - c.blockNumber) .ack).raw false),
      { c with
        blockNumber := 1 - c.blockNumber
        partialCommand := c.partialCommand ++ b.payload
        lastSent := some ((rblock (1 - c.blockNumber) .ack).raw false) }) := by
  have hlen := length_rack (1 - c.blockNumber)
  have hvec : (rblock (1 - c.blockNumber) .ack).toVec =
      .ok ((rblock (1 - c.blockNumber) .ack).raw false) := by
    rw [Block.toVec, Block.toBytesWithoutCrc_of_fits (fits_frameCap (by omega)), Res.ok_bind,
      appendCrcA_of_fits (fits_frameCap (by omega))]
    rfl
  rw [← Block.wire_blockType] at ht
  rw [← Block.wire_isChaining] at hc
  simp only [SpecCard.react, ht, hc, if_true, sendRack, sendBlock, hvec, send, Block.wire_payload]

/-- The card `c` has taken in the last chunk of a command, put the first chunk of the response on the
    air, and is `c'` by now. -/
structure Commanded (c : SpecCard) (chunks : List (List UInt8)) (payload : List UInt8)
    (c' : SpecCard) : Prop where
  holds : c'.Holds chunks c.command 0
  number : c'.blockNumber = 1 - c.blockNumber
  /-- The command is the chunks so far, and this one. -/
  received : c'.received = c.received ++ [c.partialCommand ++ payload]
  partialCommand : c'.partialCommand = []
  responses : c'.responses = c.responses
  patience : c'.patience = c.patience
  repeats : c'.repeats = c.repeats
  frames : c'.frames = c.frames

/-- **The last chunk** brings the first one of the response: the command is with the card, under the
    other number. -/
theorem react_last {fsd : Nat} (hshort : Short fsd chunks) (hfsd : fsd ≤ 256) {b : Block}
    (ht : b.blockType = .iBlock) (hc : b.isChaining = false)
    (hi : c.responses[c.command]? = some chunks) (hchunk : c.chunk = 0) (hne : chunks ≠ []) :
    ∃ c', c.react b.wire = (.ok ((cutBlock (1 - c.blockNumber) chunks 0).raw false), c') ∧
      c.Commanded chunks b.payload c' := by
  rw [← Block.wire_blockType] at ht
  rw [← Block.wire_isChaining] at hc
  let d : SpecCard := { c with
    blockNumber := 1 - c.blockNumber
    received := c.received ++ [c.partialCommand ++ b.payload]
    partialCommand := [] }
  have hreact : c.react b.wire = d.sendNextChunk := by
    simp only [SpecCard.react, ht, hc, Bool.false_eq_true, if_false, Block.wire_payload]
    rfl
  have hj : d.chunk < chunks.length := by
    show c.chunk < _
    rw [hchunk]
    exact List.length_pos_of_ne_nil hne
  obtain ⟨c', hrun, hsent⟩ := sendNextChunk_eq (c := d) hshort hfsd hi hj
  have hd : d.chunk = 0 := hchunk
  have hholds := hsent.holds
  rw [hd] at hrun hholds
  exact ⟨c', hreact.trans hrun,
    { holds := hholds
      number := hsent.number
      received := hsent.same.received
      partialCommand := hsent.same.partialCommand
      responses := hsent.same.responses
      patience := hsent.same.patience
      repeats := hsent.repeats
      frames := hsent.frames }⟩

/-- **What an R(ACK) with number `n` brings**, `a` of which have arrived: the chunk after `j`, or the
    same chunk again. -/
structure Offers (c : SpecCard) (chunks : List (List UInt8)) (i j : Nat) (n : Fin 2) (r a : Nat) :
    Prop where
  more : j + 1 < chunks.length
  state : (a = 0 ∧ c.Holds chunks i j ∧ c.blockNumber = 1 - n ∧ c.repeats = r) ∨
    (0 < a ∧ c.Holds chunks i (j + 1) ∧ c.blockNumber = n ∧ c.repeats + 1 = r + a)

/-- The first R(ACK) after chunk `j` moves the card on: its number is the other one, so the number
    of the card is toggled, and chunk `j + 1` goes out under it (Rules E and 13). -/
theorem Offers.react_first {r fsd : Nat} (h : c.Offers chunks i j n r 0) (hshort : Short fsd chunks)
    (hfsd : fsd ≤ 256) {rack : Block} (hrack : rack.IsRack n) :
    ∃ c', ({ c with frames := c.frames + 1 } : SpecCard).react rack.wire =
        (.ok ((cutBlock n chunks (j + 1)).raw false), c') ∧
      c'.Offers chunks i j n r 1 ∧ c.Same c' ∧ c'.frames = c.frames + 1 := by
  have hmore := h.more
  obtain ⟨ht, hs, hn⟩ := hrack
  rw [← Block.wire_blockType] at ht
  rw [← Block.wire_rSubtype] at hs
  rw [← Block.wire_blockNumber] at hn
  obtain ⟨-, hholds, hnum, hrep⟩ := h.state.resolve_right fun hlater => Nat.lt_irrefl 0 hlater.1
  have hne : rack.wire.blockNumber ≠ c.blockNumber := by
    rw [hn, hnum]
    exact ne_one_sub n
  let d : SpecCard := { c with frames := c.frames + 1, blockNumber := 1 - c.blockNumber }
  have hreact : ({ c with frames := c.frames + 1 } : SpecCard).react rack.wire = d.sendNextChunk := by
    simp only [SpecCard.react, ht, hs, if_neg hne]
    rfl
  -- where the card stands before it sends
  have hcommand : d.command = i := by
    show c.command = i
    rw [hholds.command, if_pos hmore]
  have hchunk : d.chunk = j + 1 := by
    show c.chunk = _
    rw [hholds.chunk, if_pos hmore]
  have hnext : d.blockNumber = n := by
    show 1 - c.blockNumber = n
    rw [hnum]
    exact one_sub_one_sub n
  have hi : d.responses[d.command]? = some chunks := by
    rw [hcommand]
    show c.responses[i]? = _
    rw [hholds.responses]
  have hj : d.chunk < chunks.length := by
    rw [hchunk]
    exact hmore
  obtain ⟨c', hrun, hsent⟩ := sendNextChunk_eq hshort hfsd hi hj
  have hholds' := hsent.holds
  rw [hchunk, hnext] at hrun
  rw [hchunk, hcommand] at hholds'
  have hsame := hsent.same
  refine ⟨c', hreact.trans hrun, ⟨hmore, Or.inr ⟨Nat.one_pos, hholds', hsent.number.trans hnext, ?_⟩⟩,
    ⟨hsame.responses, hsame.received, hsame.partialCommand, hsame.patience⟩, hsent.frames⟩
  rw [hsent.repeats]
  show c.repeats + 1 = _
  rw [hrep]

/-- Any later one finds its number at the card, which sends the same chunk again (Rule 11), and
    counts a repeat. -/
theorem Offers.react_later {r a : Nat} (h : c.Offers chunks i j n r (a + 1)) {rack : Block}
    (hrack : rack.IsRack n) :
    ∃ c', ({ c with frames := c.frames + 1 } : SpecCard).react rack.wire =
        (.ok ((cutBlock n chunks (j + 1)).raw false), c') ∧
      c'.Offers chunks i j n r (a + 2) ∧ c.Same c' ∧ c'.frames = c.frames + 1 := by
  obtain ⟨ht, hs, hn⟩ := hrack
  rw [← Block.wire_blockType] at ht
  rw [← Block.wire_rSubtype] at hs
  rw [← Block.wire_blockNumber] at hn
  obtain ⟨-, hholds, hnum, hrep⟩ := h.state.resolve_left fun hfirst => Nat.succ_ne_zero a hfirst.1
  have heq : rack.wire.blockNumber = c.blockNumber := hn.trans hnum.symm
  have hlast := hholds.lastSent
  rw [hnum] at hlast
  refine ⟨{ c with frames := c.frames + 1, repeats := c.repeats + 1 }, ?_, ⟨h.more, Or.inr ?_⟩,
    ⟨rfl, rfl, rfl, rfl⟩, rfl⟩
  · simp only [SpecCard.react, ht, hs, heq, if_true, hlast]
  · refine ⟨Nat.succ_pos _, ⟨hholds.responses, hholds.sent, hholds.command, hholds.chunk,
      hholds.lastSent⟩, hnum, ?_⟩
    show c.repeats + 1 + 1 = r + (a + 2)
    omega

/-- **An R(ACK) arrives.** The first one moves the card on to the next chunk (Rules E and 13); any
    other finds its number already there, and is answered by the same chunk (Rule 11). -/
theorem Offers.react {r a fsd : Nat} (h : c.Offers chunks i j n r a) (hshort : Short fsd chunks)
    (hfsd : fsd ≤ 256) {rack : Block} (hrack : rack.IsRack n) :
    ∃ c', ({ c with frames := c.frames + 1 } : SpecCard).react rack.wire =
        (.ok ((cutBlock n chunks (j + 1)).raw false), c') ∧
      c'.Offers chunks i j n r (a + 1) ∧ c.Same c' ∧ c'.frames = c.frames + 1 := by
  cases a with
  | zero => exact h.react_first hshort hfsd hrack
  | succ a => exact h.react_later hrack

end SpecCard

end Iso14443
