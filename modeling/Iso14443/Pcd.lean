/-
  `src/type_a/pcd.rs`: the reader.

  A `Pcd` drives the block protocol over any transceiver: `PcdTransceiver T E` is the trait, a
  state `T` of which each call gives a result and the next one, so that nothing is assumed of what
  the card answers.

  * `transceiveBlock`        — one block out, one block in.
  * `transceiveWithRecovery` — the same with the retries of §7.5.5: an R(NAK), or an R(ACK) while a
                               chain is received, twice at most.
  * `sendLoop`, `collectResponse` — the two loops of `exchange`.  The peer drives them, so they are
    recursions on fuel, and what they do without fuel is `Act.outOfFuel`.  A result that says an
    exchange returns says which fuel is enough.

  The two loops are not alike, and the differences are the source's: the send loop has no recovery,
  and takes anything but an acknowledgement or a response for an error.
-/
import Iso14443.Ats
import Iso14443.Pps
import Iso14443.Protocol

namespace Iso14443

/-- `PcdTransceiver`: the hardware, or whatever stands for it. -/
class PcdTransceiver (T : Type) (E : outParam Type) where
  transceive : T → Frame → Except E FrameVec × T
  tryEnableHwCrc : T → Except E Unit × T

/-- `PcdError`. -/
inductive PcdError (E : Type) where
  | pcdTransceiver (error : E)
  | protocol (error : TypeAError)
deriving DecidableEq, Repr

/-- `Pcd`: a session with one card.  `fsc` is the frame size of the card, which bounds what is sent;
    `fsd` is the reader's own, which bounds what may come back. -/
structure Pcd (T : Type) where
  transceiver : T
  hwCrc : Bool
  fsc : Nat
  fsd : Nat
  handler : ProtocolHandler

/-- `MAX_RETRIES`. -/
def maxRetries : Nat := 2

namespace Pcd

variable {T E α : Type}

/-- `new`: for callers who handled RATS and ATS themselves. -/
def new [Build] (transceiver : T) (ats : Ats) (fsdi : Fsdi) (cid : Option Cid) (hwCrc : Bool) :
    Pcd T :=
  { transceiver, hwCrc, fsc := ats.format.fsci.fsc, fsd := fsdi.fsd,
    handler := ProtocolHandler.new .pcd cid }

/-- `set_limits`. -/
def setLimits (self : Pcd T) (limits : Limits) : Pcd T :=
  { self with handler := self.handler.setLimits limits }

/-! ## One block out, one block in

  The answer is compared with the frame size of the reader before it is read.  A transceiver with
  CRC support has taken two bytes off, which are counted in. -/

/-- A fallible computation under `?`. -/
def lift (x : Res TypeAError α) : Act (Pcd T) (PcdError E) α := Act.lift .protocol x

/-- A method of the handler under `?`. -/
def onHandler (m : Act ProtocolHandler TypeAError α) : Act (Pcd T) (PcdError E) α :=
  Act.zoom Pcd.handler (fun handler self => { self with handler }) .protocol m

/-- The result of a transceiver call. -/
def ofExcept (r : Except E α) : Res (PcdError E) α :=
  match r with
  | .ok a => .ok a
  | .error e => .err (.pcdTransceiver e)

/-- `self.transceiver.transceive(&frame).map_err(PcdError::PcdTransceiver)?`. -/
def transceive [PcdTransceiver T E] (frame : Frame) : Act (Pcd T) (PcdError E) FrameVec where
  run self :=
    let (r, transceiver) := PcdTransceiver.transceive self.transceiver frame
    (ofExcept r, { self with transceiver })

/-- `parse_block_response`. -/
def parseBlockResponse [Build] (self : Pcd T) (raw : List UInt8) : Res TypeAError Block :=
  if self.hwCrc then
    -- the transceiver has stripped the CRC: two bytes more on the air
    if raw.length + 2 > self.fsd then .err (.limitExceeded .frameSize)
    else Block.fromCrcVerified raw
  else if raw.length > self.fsd then .err (.limitExceeded .frameSize)
  else Block.tryFrom raw

variable [Build] [PcdTransceiver T E]

/-- `transceive_block`. -/
def transceiveBlock (block : Block) : Act (Pcd T) (PcdError E) Block := do
  let data ← lift block.toBytesWithoutCrc
  let self ← Act.get
  let frame ← lift (frameOf self.hwCrc data)
  let resp ← transceive frame
  let self ← Act.get
  lift (self.parseBlockResponse resp)

/-- The retries of `transceive_with_recovery`: Rule 5 while receiving a chain, Rule 4 otherwise. -/
def retry (receivingChain : Bool) : Nat → Act (Pcd T) (PcdError E) Block
  | 0 => Act.throw (.protocol .other)
  | n + 1 => do
    let self ← Act.get
    let recovery := if receivingChain then self.handler.buildRack else self.handler.buildRnak
    match ← Act.attempt (transceiveBlock recovery) with
    | .ok resp => pure resp
    | .error _ => retry receivingChain n

/-- `transceive_with_recovery`. -/
def transceiveWithRecovery (block : Block) (receivingChain : Bool) :
    Act (Pcd T) (PcdError E) Block := do
  match ← Act.attempt (transceiveBlock block) with
  | .ok resp => pure resp
  | .error _ => retry receivingChain maxRetries

/-! ## Exchanges

  `exchange` sends the command with the first loop, and what that brings is the first block of the
  response, for the second one. -/

/-- The loop of `collect_response`. -/
def collectResponse : Nat → Block → Act (Pcd T) (PcdError E) ChainVec
  | 0, _ => Act.outOfFuel
  | fuel + 1, block => do
    match ← onHandler (ProtocolHandler.processReceived block) with
    | .complete data => pure data
    | .reply reply => do
      let block ← transceiveWithRecovery reply true
      collectResponse fuel block
    | _ => Act.throw (.protocol .other)

/-- The first loop of `exchange`: the chunks of the command, each acknowledged but the last. -/
def sendLoop (apdu : List UInt8) (maxInf : Nat) :
    Nat → Nat → Option Block → Act (Pcd T) (PcdError E) (Option Block)
  | fuel, offset, lastResp =>
    if offset < apdu.length then
      match fuel with
      | 0 => Act.outOfFuel
      | fuel + 1 => do
        let stop := min (offset + maxInf) apdu.length
        let chaining : Bool := stop < apdu.length
        let self ← Act.get
        let chunk ← lift (Res.slice apdu offset stop)
        let iblock ← lift (self.handler.buildIblock chunk chaining)
        let resp ← transceiveBlock iblock
        if chaining then
          match ← onHandler (ProtocolHandler.processReceived resp) with
          | .chainingAck => sendLoop apdu maxInf fuel stop lastResp
          | .chainingRetransmit => sendLoop apdu maxInf fuel offset lastResp
          | _ => Act.throw (.protocol .other)
        else sendLoop apdu maxInf fuel stop (some resp)
    else pure lastResp

/-- The bytes a block needs around its payload: control byte, optional CID, CRC. -/
def overheadOf (block : Block) : Nat := 1 + (if block.cid.isSome then 1 else 0) + 2

/-- `exchange`. -/
def exchange (fuel : Nat) (apdu : List UInt8) : Act (Pcd T) (PcdError E) ChainVec := do
  Act.modify fun self => { self with handler := self.handler.beginExchange }
  let self ← Act.get
  let empty ← lift (self.handler.buildIblock [] false)
  let maxInf := self.fsc - overheadOf empty
  if maxInf = 0 then Act.throw (.protocol .other)
  else do
    let lastResp ← sendLoop apdu maxInf fuel 0 none
    let first ← lift (Res.okOr .other lastResp)
    collectResponse fuel first

/-- The answer `deselect` waits for. -/
def isDeselected (resp : Block) : Bool :=
  resp.blockType = .sBlock && resp.pcb.sSubtype = some .deselect

/-- `deselect`: Rule 8 allows one retry. -/
def deselect : Act (Pcd T) (PcdError E) Unit := do
  let self ← Act.get
  let request := self.handler.buildSblock .deselect
  let again : Act (Pcd T) (PcdError E) Unit := do
    let resp ← transceiveBlock request
    if isDeselected resp then pure () else Act.throw (.protocol .other)
  match ← Act.attempt (transceiveBlock request) with
  | .ok resp => if isDeselected resp then pure () else again
  | .error _ => again

/-! ## Setting up

  The two operations that set parameters: PPS inside a session, `connect` before it. -/

/-- `pps`. -/
def pps (dri dsi : Dxi) : Act (Pcd T) (PcdError E) Unit := do
  let self ← Act.get
  let cid := self.handler.buildRack.cid.getD 0
  let pps1 := PpsParam.toByte ⟨cid, dri, dsi⟩
  let frame ← lift (frameOf self.hwCrc [0xd0 + cid.value, 0x11, pps1])
  let resp ← transceive frame
  let _ ← lift (if self.hwCrc then PpsResp.fromCrcVerified resp else PpsResp.tryFrom resp)
  pure ()

/-- `connect`: probe the CRC support, send RATS, read the ATS. -/
def connect (fsdi : Fsdi) (cid : Cid) : Act T (PcdError E) (Pcd T × Ats) where
  run t :=
    let (probe, t) := PcdTransceiver.tryEnableHwCrc t
    let hwCrc := match probe with | .ok _ => true | .error _ => false
    let m : Act T (PcdError E) (Pcd T × Ats) := do
      let frame ← Act.lift .protocol (frameOf hwCrc [0xe0, RatsParam.toByte ⟨fsdi, cid⟩])
      let resp ← ⟨fun t =>
        let (r, t) := PcdTransceiver.transceive t frame
        (ofExcept r, t)⟩
      let ats ← Act.lift .protocol (if hwCrc then Ats.fromCrcVerified resp else Ats.tryFrom resp)
      let t ← Act.get
      pure (new t ats fsdi (some cid) hwCrc, ats)
    m.run t

end Pcd

end Iso14443
