/-
  `src/type_a/protocol.rs`: the block protocol handler shared by both sides of the link.

  A handler holds the block number, the optional CID, the chain assembled so far and the counters
  of the exchange.  `processReceived` is its transition: it takes one block of the peer, and gives
  the action the caller must take.  It is written as the source is, an `Act` on the handler in
  which `?` is the bind, so that an error leaves the handler as it was at that point: what a failed
  block leaves behind is part of what the code does.

  * **One number, two roles.**  The two roles read block numbers in mirrored ways: an I-Block that
    carries the reader's own number is new to a reader, and the one that carries the card's own is
    a repeat to a card (`repeatsLastIblock`); the same goes for the numbers of R-Blocks
    (`processRblock`).  The numbers start at 0 and at 1 (rules A and C).
  * **Limits.**  Every block is counted first, and whatever passes a limit drops the chain and
    names the limit (`exceeded`).
  * **Builders.**  What is sent is built from the number and the CID alone.  Every block built here
    is well formed, so that its reader gets it back, and its length is known (`prologueLen`).
-/
import Mathlib.Tactic.Simps.Basic
import Iso14443.Block
import Iso14443.Limits

namespace Iso14443

/-- Which side of the link a handler drives. -/
inductive Role where
  | pcd
  | picc
deriving DecidableEq, Repr

/-- Rule A for the reader, Rule C for the card. -/
def Role.initialBlockNumber : Role → Fin 2
  | .pcd => 0
  | .picc => 1

/-- `Action`: what the caller must do after a block was processed. -/
inductive Action where
  | complete (data : ChainVec)
  | reply (block : Block)
  | chainingAck
  | chainingRetransmit
deriving DecidableEq, Repr

/-- `ProtocolHandler`: the state of the block protocol on one side.  The number is of two values,
    and the counters are those of the exchange that is going on. -/
structure ProtocolHandler where
  role : Role
  cid : Option Cid
  blockNumber : Fin 2
  chain : ChainVec
  limits : Limits
  counters : Counters
deriving DecidableEq

namespace ProtocolHandler

/-- `with_limits`. -/
def withLimits (role : Role) (cid : Option Cid) (limits : Limits) : ProtocolHandler :=
  { role, cid, blockNumber := role.initialBlockNumber, chain := [], limits, counters := {} }

/-- `new`. -/
def new [Build] (role : Role) (cid : Option Cid) : ProtocolHandler :=
  withLimits role cid Limits.default

/-- `set_limits`. -/
def setLimits (self : ProtocolHandler) (limits : Limits) : ProtocolHandler := { self with limits }

/-- `toggle_block_number`: `1 - n`, which cannot underflow on the two numbers there are. -/
def toggleBlockNumber (self : ProtocolHandler) : ProtocolHandler :=
  { self with blockNumber := 1 - self.blockNumber }

/-- `begin_exchange`. -/
@[simps]
def beginExchange (self : ProtocolHandler) : ProtocolHandler :=
  { self with chain := [], counters := Counters.reset }

/-- `reset`. -/
@[simps!]
def reset (self : ProtocolHandler) : ProtocolHandler :=
  beginExchange { self with blockNumber := self.role.initialBlockNumber }

/-- `exceeded`: fail the exchange, leaving no accumulated payload behind. -/
def exceeded {α : Type} (limit : Limit) : Act ProtocolHandler TypeAError α := do
  Act.modify fun self => { self with chain := [] }
  Act.throw (.limitExceeded limit)

/-- `if past { return Err(self.exceeded(limit)); }`. -/
def failIf (past : Prop) [Decidable past] (limit : Limit) : Act ProtocolHandler TypeAError Unit :=
  if past then exceeded limit else pure ()

/-- `note_frame`. -/
def noteFrame : Act ProtocolHandler TypeAError Unit := do
  Act.modify fun self => { self with counters := self.counters.countFrame }
  let self ← Act.get
  failIf (self.counters.frames > self.limits.maxFrames) .frames

/-! ## Block builders

  Nothing that a builder does depends on the state of the exchange, the number apart. -/

/-- A block under this session's CID. -/
def addCid (self : ProtocolHandler) (block : Block) : Block :=
  match self.cid with
  | some cid => block.withCid cid
  | none => block

/-- The CID costs a byte. -/
theorem length_addCid (self : ProtocolHandler) {block : Block} (hc : block.cid = none) :
    (self.addCid block).bytes.length =
      block.bytes.length + if self.cid.isSome then 1 else 0 := by
  cases hcid : self.cid with
  | none => simp [addCid, hcid]
  | some cid => simp [addCid, hcid, Block.length_bytes, hc, Block.withCid]; omega

/-- `build_iblock`. -/
def buildIblock [Build] (self : ProtocolHandler) (payload : List UInt8) (chaining : Bool) :
    Res TypeAError Block := do
  let pcb := ((Pcb.new .iBlock).withBlockNumber self.blockNumber).withChaining chaining
  let block := self.addCid (Block.new pcb)
  let p ← tryExtend frameCap [] payload
  .ok (block.withPayload p)

/-- `build_iblock` never panics; a payload past the frame buffer is `BufferFull`. -/
theorem buildIblock_returns [Build] (self : ProtocolHandler) (payload : List UInt8) (chaining : Bool) :
    (self.buildIblock payload chaining).Returns :=
  (tryExtend_returns _ _ _).bind fun _ _ => trivial

/-- The I-Block that `build_iblock` makes. -/
def iblockOf (self : ProtocolHandler) (payload : List UInt8) (chaining : Bool) : Block :=
  (self.addCid (Block.new
    (((Pcb.new .iBlock).withBlockNumber self.blockNumber).withChaining chaining))).withPayload payload

/-- A payload that fits makes an I-Block with the current number. -/
theorem buildIblock_of_fits [Build] (self : ProtocolHandler) {payload : List UInt8}
    (h : Fits frameCap payload.length) (chaining : Bool) :
    self.buildIblock payload chaining = .ok (self.iblockOf payload chaining) := by
  rw [buildIblock, tryExtend_of_fits (h.mono (by simp))]
  rfl

/-- `build_rack`, which cannot fail. -/
def buildRack (self : ProtocolHandler) : Block :=
  self.addCid (Block.new (((Pcb.new .rBlock).withBlockNumber self.blockNumber).withRSubtype .ack))

/-- `build_rnak`, which cannot fail. -/
def buildRnak (self : ProtocolHandler) : Block :=
  self.addCid (Block.new (((Pcb.new .rBlock).withBlockNumber self.blockNumber).withRSubtype .nak))

/-- `build_sblock`, which cannot fail. -/
def buildSblock (self : ProtocolHandler) (subtype : SBlockSubtype) : Block :=
  self.addCid (Block.new ((Pcb.new .sBlock).withSSubtype subtype))

/-- `build_wtx_response`: the same INF goes back. -/
def buildWtxResponse (self : ProtocolHandler) (request : Block) : Block :=
  (self.addCid (Block.new ((Pcb.new .sBlock).withSSubtype .wtx))).withPayload request.payload

/-! ## What the builders make

  Every block a handler builds is well formed, so its reader gets it back, and short. -/

/-- Adding the CID of the activation keeps a block well formed. -/
theorem wellFormed_addCid (self : ProtocolHandler) {b : Block} (h : b.WellFormed) :
    (self.addCid b).WellFormed := by
  unfold addCid
  split
  · exact ⟨h.pcb, fun hn => ⟨(h.nad hn).1, rfl⟩⟩
  · exact h

/-- Every I-Block this side builds is well formed. -/
theorem wellFormed_iblockOf (self : ProtocolHandler) (payload : List UInt8) (chaining : Bool) :
    (self.iblockOf payload chaining).WellFormed :=
  have h := self.wellFormed_addCid (b := Block.new
    (((Pcb.new .iBlock).withBlockNumber self.blockNumber).withChaining chaining))
    ⟨⟨rfl, rfl⟩, fun hn => by cases hn⟩
  ⟨h.pcb, h.nad⟩

/-- So is every R(ACK). -/
theorem wellFormed_buildRack (self : ProtocolHandler) : self.buildRack.WellFormed :=
  self.wellFormed_addCid ⟨⟨rfl, rfl, rfl⟩, fun hn => by cases hn⟩

/-- So is every S-Block of the two kinds that the code sends. -/
theorem wellFormed_buildSblock (self : ProtocolHandler) {subtype : SBlockSubtype}
    (h : subtype = .deselect ∨ subtype = .wtx) : (self.buildSblock subtype).WellFormed := by
  refine self.wellFormed_addCid ⟨⟨rfl, rfl, ?_⟩, fun hn => by cases hn⟩
  rcases h with rfl | rfl
  · exact Or.inl rfl
  · exact Or.inr rfl

/-- So is every answer to a waiting time extension. -/
theorem wellFormed_buildWtxResponse (self : ProtocolHandler) (request : Block) :
    (self.buildWtxResponse request).WellFormed :=
  have h := self.wellFormed_addCid (b := Block.new ((Pcb.new .sBlock).withSSubtype .wtx))
    ⟨⟨rfl, rfl, Or.inr rfl⟩, fun hn => by cases hn⟩
  ⟨h.pcb, h.nad⟩

/-- The bytes around the payload of a block built here: the control byte and the CID. -/
def prologueLen (self : ProtocolHandler) : Nat := 1 + if self.cid.isSome then 1 else 0

/-- An I-Block is its prologue and its payload. -/
theorem length_iblockOf (self : ProtocolHandler) (payload : List UInt8) (chaining : Bool) :
    (self.iblockOf payload chaining).bytes.length = self.prologueLen + payload.length := by
  cases hcid : self.cid <;>
    simp [iblockOf, addCid, hcid, prologueLen, Block.length_bytes, Block.withPayload, Block.withCid,
      Block.new]

/-- An R(ACK) is a prologue alone. -/
theorem length_buildRack (self : ProtocolHandler) : self.buildRack.bytes.length = self.prologueLen :=
  self.length_addCid rfl

/-- So is an R(NAK). -/
theorem length_buildRnak (self : ProtocolHandler) : self.buildRnak.bytes.length = self.prologueLen :=
  self.length_addCid rfl

/-- So is an S-Block without INF. -/
theorem length_buildSblock (self : ProtocolHandler) (subtype : SBlockSubtype) :
    (self.buildSblock subtype).bytes.length = self.prologueLen :=
  self.length_addCid rfl

/-- The answer to a waiting time extension carries the INF that was asked. -/
theorem length_buildWtxResponse (self : ProtocolHandler) (request : Block) :
    (self.buildWtxResponse request).bytes.length = self.prologueLen + request.payload.length := by
  cases hcid : self.cid <;>
    simp [buildWtxResponse, addCid, hcid, prologueLen, Block.length_bytes, Block.withPayload,
      Block.withCid, Block.new]

/-- A prologue is a PCB and at most a CID. -/
theorem prologueLen_le (self : ProtocolHandler) : self.prologueLen ≤ 2 := by
  unfold prologueLen
  split <;> omega

/-! ## Incoming blocks

  Each kind of block in the order of the source: the frame is counted, the kind looked at, a repeat
  told from a new block, and limits checked before anything is taken in. -/

/-- `repeats_last_iblock`: in step, a reader gets its own number back and a card the other one. -/
def repeatsLastIblock (self : ProtocolHandler) (block : Block) : Bool :=
  match self.role with
  | .pcd => block.blockNumber ≠ self.blockNumber
  | .picc => block.blockNumber = self.blockNumber

/-- `note_retransmit`. -/
def noteRetransmit : Act ProtocolHandler TypeAError Unit := do
  Act.modify fun self => { self with counters := self.counters.countRetransmission }
  let self ← Act.get
  failIf (self.counters.retransmissions > self.limits.maxRetransmissions) .retransmissions

/-- `self.chain.try_extend(payload)?`. -/
def extendChain [Build] (payload : List UInt8) : Act ProtocolHandler TypeAError Unit := do
  let self ← Act.get
  let chain ← Act.lift id (tryExtend chainCap self.chain payload)
  Act.modify fun self => { self with chain }

/-- `process_iblock`. -/
def processIblock [Build] (block : Block) : Act ProtocolHandler TypeAError Action := do
  let self ← Act.get
  if self.repeatsLastIblock block then do
    noteRetransmit
    let self ← Act.get
    pure (.reply self.buildRack)
  else if self.chain.length + block.payload.length > self.limits.maxChainLen then
    exceeded .chainLength
  else do
    Act.modify fun self => { self with counters := self.counters.noteProgress }
    extendChain block.payload
    Act.modify toggleBlockNumber
    let self ← Act.get
    if block.isChaining then pure (.reply self.buildRack)
    else do
      Act.modify fun self => { self with chain := [] }
      pure (.complete self.chain)

/-- `process_rblock`. -/
def processRblock (block : Block) : Act ProtocolHandler TypeAError Action := do
  let self ← Act.get
  let matchesOurs := block.blockNumber = self.blockNumber
  match self.role, block.pcb.rSubtype with
  | .pcd, some .ack =>
    -- Rule 7 for our own number, Rule 6 for the other one
    if matchesOurs then do
      Act.modify fun self => { self with counters := self.counters.noteProgress }
      Act.modify toggleBlockNumber
      pure .chainingAck
    else do
      noteRetransmit
      pure .chainingRetransmit
  | .pcd, some .nak => do
    noteRetransmit
    pure .chainingRetransmit
  | .picc, some subtype =>
    -- Rule 11 for our own number, Rules E and 13 or Rule 12 for the other one
    if matchesOurs then do
      noteRetransmit
      pure .chainingRetransmit
    else match subtype with
      | .ack => do
        Act.modify fun self => { self with counters := self.counters.noteProgress }
        Act.modify toggleBlockNumber
        pure .chainingAck
      | .nak => pure (.reply self.buildRack)
  | _, none => Act.throw .invalidPcb

/-- The WTXM of an S(WTX) request: the low six bits of a one-byte INF, in the range 1 to 59. -/
def validWtx (payload : List UInt8) : Bool :=
  match payload with
  | [inf] => 1 ≤ inf &&& 0x3f && inf &&& 0x3f ≤ 59
  | _ => false

/-- `check_wtx`. -/
def checkWtx (block : Block) : Act ProtocolHandler TypeAError Unit :=
  if validWtx block.payload then do
    Act.modify fun self => { self with counters := self.counters.countConsecutiveWtx }
    let self ← Act.get
    failIf (self.counters.consecutiveWtx > self.limits.maxConsecutiveWtx) .consecutiveWtx
    Act.modify fun self => { self with counters := self.counters.countTotalWtx }
    let self ← Act.get
    failIf (self.counters.totalWtx > self.limits.maxTotalWtx) .totalWtx
  else exceeded .wtxValue

/-- `process_sblock`. -/
def processSblock (block : Block) : Act ProtocolHandler TypeAError Action :=
  match block.pcb.sSubtype with
  | some .wtx => do
    checkWtx block
    let self ← Act.get
    pure (.reply (self.buildWtxResponse block))
  | some .deselect => do
    let self ← Act.get
    Act.modify reset
    pure (.reply (self.buildSblock .deselect))
  | _ => Act.throw .other

/-- `process_received`. -/
def processReceived [Build] (block : Block) : Act ProtocolHandler TypeAError Action := do
  noteFrame
  match block.blockType with
  | .iBlock => processIblock block
  | .rBlock => processRblock block
  | .sBlock => processSblock block

end ProtocolHandler

end Iso14443
