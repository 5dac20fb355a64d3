/-
  `src/type_a/picc.rs`, with `atqa.rs` and `sak.rs`: the card.

  A `Picc` is driven by the frames it receives, so its methods are cut where they wait for the next
  one.  A call either returns (`Next.ret`) or is left waiting in `receive()` (`Next.wait`), with
  the locals it needs when it goes on; each method is what it does before its first `receive()` and
  what it does with one frame.

  * `PiccTransceiver T E` — the trait, less `receive`: what is received is the input of the
    machine.
  * `PiccState`           — the state the source keeps in a field.  It is not the call that waits:
                            the two are set at different moments, and some defects live in the gap.
  * `PiccCall`            — the calls that wait, and for each the body of its loop.
  * `PiccSession.step`    — the card with its caller: API calls and frames, in any order.

  Since every loop waits for a frame once per round, no loop is left in the model: a round is a
  function, and a run of the card is a list of inputs.  Sending happens in between, to a
  transceiver that may fail; a failure leaves the card as it was at that point.
-/
import Iso14443.Ats
import Iso14443.Pps
import Iso14443.Protocol

namespace Iso14443

/-- `PiccTransceiver`: what a card can do besides waiting for a frame. -/
class PiccTransceiver (T : Type) (E : outParam Type) where
  send : T → Frame → Except E Unit × T
  tryEnableHwCrc : T → Except E Unit × T

/-- `PiccError`. -/
inductive PiccError (E : Type) where
  | piccTransceiver (error : E)
  | protocol (error : TypeAError)
  | deselected
deriving DecidableEq, Repr

/-! ## What a card says of itself

  The encoders of ATQA and SAK, and the UID by cascade levels. -/

/-- `UidSize`. -/
inductive UidSize where
  | single | double | triple
deriving DecidableEq, Repr

/-- `self as u8`. -/
def UidSize.toByte : UidSize → UInt8
  | single => 0 | double => 1 | triple => 2

/-- `BitFrameAntiCollision`. -/
inductive BitFrameAntiCollision where
  | slot1 | slot2 | slot4 | slot8 | slot16
deriving DecidableEq, Repr

/-- `self as u8`. -/
def BitFrameAntiCollision.toByte : BitFrameAntiCollision → UInt8
  | slot1 => 1 | slot2 => 2 | slot4 => 4 | slot8 => 8 | slot16 => 16

/-- `AtqA`. -/
structure AtqA where
  uidSize : UidSize
  bitFrameAc : BitFrameAntiCollision
  proprietaryCoding : UInt8
deriving DecidableEq, Repr

/-- `to_bytes`. -/
def AtqA.toBytes (self : AtqA) : List UInt8 :=
  [(self.uidSize.toByte <<< 6) ||| self.bitFrameAc.toByte, self.proprietaryCoding &&& 0b1111]

/-- `Sak`. -/
structure Sak where
  uidComplete : Bool
  iso144434Compliant : Bool
deriving DecidableEq, Repr

/-- `to_byte`. -/
def Sak.toByte (self : Sak) : UInt8 :=
  let sak := if self.uidComplete then 0 else 0 ||| 0x04
  if self.iso144434Compliant then sak ||| 0x20 else sak

/-- The SEL byte of the first cascade level. -/
def selCl1 : UInt8 := 0x93

/-- The SEL byte of the second cascade level. -/
def selCl2 : UInt8 := 0x95

/-- The SEL byte of the third cascade level. -/
def selCl3 : UInt8 := 0x97

/-- `Uid`: 4, 7 or 10 bytes. -/
inductive Uid where
  | single (u : Vector UInt8 4)
  | double (u : Vector UInt8 7)
  | triple (u : Vector UInt8 10)
deriving DecidableEq, Repr

namespace Uid

/-- `uid_size`. -/
def uidSize : Uid → UidSize
  | single _ => .single
  | double _ => .double
  | triple _ => .triple

/-- `as_slice`. -/
def asSlice : Uid → List UInt8
  | single u => u.toList
  | double u => u.toList
  | triple u => u.toList

/-- `cascade_levels`. -/
def cascadeLevels : Uid → Nat
  | single _ => 1
  | double _ => 2
  | triple _ => 3

end Uid

/-- `PiccConfig`: who the card is.  A card without an ATS knows no block protocol, and says so in
    its SAK. -/
structure PiccConfig where
  uid : Uid
  bitFrameAc : BitFrameAntiCollision := .slot1
  ats : Option Ats := none
deriving DecidableEq, Repr

namespace PiccConfig

/-- `is_14443_4`. -/
def is144434 (self : PiccConfig) : Bool := self.ats.isSome

/-- `atqa`. -/
def atqa (self : PiccConfig) : AtqA :=
  { uidSize := self.uid.uidSize, bitFrameAc := self.bitFrameAc, proprietaryCoding := 0 }

end PiccConfig

/-! ## The session

  The fields of `Picc`, and the calls that wait with their locals. -/

/-- `PiccState`: the states of the activation, the session after it, and the end of it. -/
inductive PiccState where
  | idle
  | ready (cascadeLevel : Nat)
  | active
  | protocol
  | halted
deriving DecidableEq, Repr

/-- `Picc`: a card, with its configuration, the handler of its session, and the state of its
    activation. -/
structure Picc (T : Type) where
  transceiver : T
  hwCrc : Bool
  config : PiccConfig
  handler : ProtocolHandler
  state : PiccState
  /-- The frame size of the reader, from RATS. -/
  fsd : Nat
  /-- The block a reader that missed it asks for again. -/
  lastSent : Option Block

/-- A call that waits for a frame, with its locals.  The loops of the source are cut at `receive`,
    so that between two frames a card is a value of its own. -/
inductive PiccCall where
  | waitForActivation
  | waitForRats
  | receiveCommand
  | sendResponse (data : List UInt8) (maxInf stop : Nat) (iblock : Block)
deriving DecidableEq, Repr

/-- What a call returns: nothing, or the APDU of `receive_command`. -/
inductive Outcome where
  | unit
  | apdu (data : ChainVec)
deriving DecidableEq, Repr

/-- How far a call got. -/
inductive Next where
  | wait (call : PiccCall)
  | ret (outcome : Outcome)
deriving DecidableEq, Repr

namespace Picc

variable {T E α : Type}

/-- `set_limits`. -/
def setLimits (self : Picc T) (limits : Limits) : Picc T :=
  { self with handler := self.handler.setLimits limits }

/-- A fallible computation under `?`. -/
def lift (x : Res TypeAError α) : Act (Picc T) (PiccError E) α := Act.lift .protocol x

/-- A method of the handler under `?`. -/
def onHandler (m : Act ProtocolHandler TypeAError α) : Act (Picc T) (PiccError E) α :=
  Act.zoom Picc.handler (fun handler self => { self with handler }) .protocol m

/-- `self.state = state`. -/
def setState (state : PiccState) : Act (Picc T) (PiccError E) Unit :=
  Act.modify fun self => { self with state }

/-- `fsc`: the frame size advertised in the ATS. -/
def fsc (self : Picc T) : Nat :=
  match self.config.ats with
  | some ats => ats.format.fsci.fsc
  | none => 256

/-- `strip_crc`. -/
def stripCrc (self : Picc T) (raw : List UInt8) : Res TypeAError (List UInt8) :=
  if self.hwCrc then .ok raw else splitCrcA raw

/-- `parse_block`. -/
def parseBlock [Build] (self : Picc T) (raw : List UInt8) : Res TypeAError Block := do
  let onAirLen := if self.hwCrc then raw.length + 2 else raw.length
  if onAirLen > self.fsc then .err (.limitExceeded .frameSize)
  else do
    let data ← self.stripCrc raw
    Block.fromCrcVerified data

/-- `is_last_cascade_level`. -/
def isLastCascadeLevel (self : Picc T) (level : Nat) : Bool :=
  level + 1 ≥ self.config.uid.cascadeLevels

/-- `uid_bcc_for_level`: four bytes, led by the cascade tag where more follow, and their BCC. -/
def uidBccForLevel (self : Picc T) (level : Nat) : Res TypeAError (List UInt8) := do
  let uid := self.config.uid.asSlice
  let bytes ← match self.config.uid.cascadeLevels, level with
    | 1, 0 => Res.slice uid 0 4
    | 2, 0 => do .ok (0x88 :: (← Res.slice uid 0 3))
    | 2, 1 => Res.slice uid 3 7
    | 3, 0 => do .ok (0x88 :: (← Res.slice uid 0 3))
    | 3, 1 => do .ok (0x88 :: (← Res.slice uid 3 6))
    | 3, 2 => Res.slice uid 6 10
    | _, _ => .err .other
  let bcc := bytes.foldl (· ^^^ ·) 0
  .ok (bytes ++ [bcc])

variable [Build] [PiccTransceiver T E]

/-- `new`. -/
def new (transceiver : T) (config : PiccConfig) : Picc T :=
  let (probe, transceiver) := PiccTransceiver.tryEnableHwCrc transceiver
  { transceiver, hwCrc := match probe with | .ok _ => true | .error _ => false, config,
    handler := ProtocolHandler.new .picc none, state := .idle, fsd := 256, lastSent := none }

/-! ## Sending

  All frames leave through `send`.  A block that is sent is remembered, for Rule 11. -/

/-- `self.transceiver.send(&frame).map_err(PiccError::PiccTransceiver)?`. -/
def send (frame : Frame) : Act (Picc T) (PiccError E) Unit where
  run self :=
    let (r, transceiver) := PiccTransceiver.send self.transceiver frame
    (match r with | .ok () => .ok () | .error e => .err (.piccTransceiver e),
      { self with transceiver })

/-- Data in a standard frame, under this session's CRC strategy. -/
def sendStandard (data : List UInt8) : Act (Picc T) (PiccError E) Unit := do
  let self ← Act.get
  let frame ← lift (frameOf self.hwCrc data)
  send frame

/-- `send_atqa`. -/
def sendAtqa : Act (Picc T) (PiccError E) Unit := do
  let self ← Act.get
  let data ← lift (tryExtend frameCap [] self.config.atqa.toBytes)
  send (.short data)

/-- `send_sak`. -/
def sendSak (sak : Sak) : Act (Picc T) (PiccError E) Unit := sendStandard [sak.toByte]

/-- `send_ats`. -/
def sendAts : Act (Picc T) (PiccError E) Unit := do
  let self ← Act.get
  let ats ← lift (Res.okOr .other self.config.ats)
  let atsBytes ← lift ats.toBytes
  sendStandard atsBytes

/-- `send_block`. -/
def sendBlock (block : Block) : Act (Picc T) (PiccError E) Unit := do
  Act.modify fun self => { self with lastSent := some block }
  let self ← Act.get
  let frame ← lift (frameFor self.hwCrc block)
  send frame

/-! ## Activation

  What the card does with a frame before a session starts. -/

/-- `handle_idle`: REQA and WUPA. -/
def handleIdle (raw : List UInt8) : Act (Picc T) (PiccError E) Unit :=
  if raw = [0x26] ∨ raw = [0x52] then do
    sendAtqa
    setState (.ready 0)
  else pure ()

/-- The SEL byte a card at this level listens to. -/
def expectedSel : Nat → Option UInt8
  | 0 => some selCl1
  | 1 => some selCl2
  | 2 => some selCl3
  | _ => none

/-- `handle_ready`: anticollision and SELECT at one cascade level. -/
def handleReady (raw : List UInt8) (cascadeLevel : Nat) : Act (Picc T) (PiccError E) Unit := do
  if raw.length < 2 then pure ()
  else do
    let sel ← lift (Res.index raw 0)
    let expected ← lift (Res.okOr .other (expectedSel cascadeLevel))
    if sel ≠ expected then pure ()
    else if raw.length = 2 then do
      let self ← Act.get
      let uidBcc ← lift (self.uidBccForLevel cascadeLevel)
      let resp ← lift (tryExtend frameCap [] uidBcc)
      send (.bitOriented resp)
    else do
      let nvb ← lift (Res.index raw 1)
      if nvb = 0x70 then do
        let self ← Act.get
        let data ← lift (self.stripCrc raw)
        -- five bytes of UID and BCC follow, and nothing is asked of them
        if data.length ≠ 7 then pure ()
        else do
          let isLastLevel := self.isLastCascadeLevel cascadeLevel
          sendSak { uidComplete := isLastLevel, iso144434Compliant := self.config.is144434 }
          if isLastLevel then setState .active else setState (.ready (cascadeLevel + 1))
      else pure ()

/-- The session RATS starts: a fresh handler under the limits of the old one. -/
def beginSession (rats : RatsParam) (self : Picc T) : Picc T :=
  let cid := match self.config.ats with
    | some ats => if ats.cidSupported then Cid.new rats.cid.value else none
    | none => none
  { self with fsd := rats.fsdi.fsd, handler := ProtocolHandler.withLimits .picc cid self.handler.limits }

/-- The parameter byte of a RATS. -/
def ratsByte (data : List UInt8) : Res TypeAError UInt8 :=
  match data with
  | [0xe0, param] => .ok param
  | _ => .err .invalidLength

/-- `handle_active`: RATS and HLTA. -/
def handleActive (raw : List UInt8) : Act (Picc T) (PiccError E) Unit :=
  if raw.isEmpty then pure ()
  else do
    let self ← Act.get
    let first ← lift (Res.index raw 0)
    if first = 0xe0 then do
      let data ← lift (self.stripCrc raw)
      let paramByte ← lift (ratsByte data)
      let rats ← lift (RatsParam.tryFrom paramByte)
      Act.modify (beginSession rats)
      sendAts
      setState .protocol
    else if first = 0x50 then do
      let data ← lift (self.stripCrc raw)
      if data = [0x50, 0x00] then setState .halted else pure ()
    else pure ()

/-- `handle_pps`. -/
def handlePps (raw : List UInt8) : Act (Picc T) (PiccError E) Unit := do
  let self ← Act.get
  let data ← lift (self.stripCrc raw)
  let pps ← lift (PpsParam.fromCrcVerified data)
  sendStandard [0xd0 + pps.cid.value]

/-! ## The calls, one frame at a time

  The bodies of the four loops, each a function of the frame. -/

/-- `wait_for_activation`: one round of its loop. -/
def waitForActivation (raw : List UInt8) : Act (Picc T) (PiccError E) Next := do
  let self ← Act.get
  match self.state with
  | .idle => handleIdle raw
  | .halted =>
    if raw = [0x52] then do
      sendAtqa
      setState (.ready 0)
    else pure ()
  | .ready cascadeLevel => handleReady raw cascadeLevel
  | .active | .protocol => Act.panic
  let self ← Act.get
  if self.state = .active then pure (.ret .unit) else pure (.wait .waitForActivation)

/-- `wait_for_rats`. -/
def waitForRats (raw : List UInt8) : Act (Picc T) (PiccError E) Next := do
  handleActive raw
  let self ← Act.get
  if self.state = .protocol then pure (.ret .unit) else Act.throw (.protocol .other)

/-- The reply to an S(DESELECT). -/
def isDeselectReply (reply : Block) : Bool := reply.pcb.sSubtype = some .deselect

/-- `receive_command`: one round of its loop. -/
def receiveCommand (raw : List UInt8) : Act (Picc T) (PiccError E) Next := do
  let first ← lift (if raw.isEmpty then .ok 0 else Res.index raw 0)
  if !raw.isEmpty && first &&& 0xF0 = 0xD0 then do
    onHandler ProtocolHandler.noteFrame
    handlePps raw
    pure (.wait .receiveCommand)
  else do
    let self ← Act.get
    let block ← lift (self.parseBlock raw)
    match ← onHandler (ProtocolHandler.processReceived block) with
    | .complete data => pure (.ret (.apdu data))
    | .reply reply => do
      sendBlock reply
      if isDeselectReply reply then do
        setState .halted
        Act.throw .deselected
      else pure (.wait .receiveCommand)
    | .chainingRetransmit => do
      -- Rule 11, from whatever was sent last
      let self ← Act.get
      let last ← lift (Res.okOr .other self.lastSent)
      sendBlock last
      pure (.wait .receiveCommand)
    | .chainingAck => Act.throw (.protocol .other)

/-- One round of the outer loop of `send_response`: the chunk at `offset`. -/
def sendChunk (data : List UInt8) (maxInf offset : Nat) : Act (Picc T) (PiccError E) Next := do
  let self ← Act.get
  let stop := min (offset + maxInf) data.length
  let chaining : Bool := stop < data.length
  let chunk ← lift (Res.slice data offset stop)
  let iblock ← lift (self.handler.buildIblock chunk chaining)
  sendBlock iblock
  if chaining then pure (.wait (.sendResponse data maxInf stop iblock)) else pure (.ret .unit)

/-- `send_response`: one round of its inner loop. -/
def sendResponse (data : List UInt8) (maxInf stop : Nat) (iblock : Block) (raw : List UInt8) :
    Act (Picc T) (PiccError E) Next := do
  let self ← Act.get
  let block ← lift (self.parseBlock raw)
  match ← onHandler (ProtocolHandler.processReceived block) with
  | .chainingAck => sendChunk data maxInf stop
  | .chainingRetransmit => do
    sendBlock iblock
    pure (.wait (.sendResponse data maxInf stop iblock))
  | .reply reply => do
    sendBlock reply
    if isDeselectReply reply then do
      setState .halted
      Act.throw .deselected
    else pure (.wait (.sendResponse data maxInf stop iblock))
  | .complete _ => Act.throw (.protocol .other)

end Picc

/-! ## The card and its caller

  A call of the API is an input like a frame, so that "any order of calls and frames" is any
  list. -/

/-- The calls of the API, as an application makes them. -/
inductive PiccApi where
  | waitForActivation
  | waitForRats
  | receiveCommand
  | sendResponse (data : List UInt8)
deriving DecidableEq, Repr

namespace PiccApi

variable {T E : Type} [Build] [PiccTransceiver T E]

/-- What a call does before it waits for a frame. -/
def begin : PiccApi → Act (Picc T) (PiccError E) Next
  | waitForActivation => do
    Picc.setState .idle
    pure (.wait .waitForActivation)
  | waitForRats => pure (.wait .waitForRats)
  | receiveCommand => do
    Act.modify fun self => { self with handler := self.handler.beginExchange }
    pure (.wait .receiveCommand)
  | sendResponse data => do
    let self ← Act.get
    let empty ← Picc.lift (self.handler.buildIblock [] false)
    let cidLen := if empty.cid.isSome then 1 else 0
    let overhead := 1 + cidLen + 2
    let maxInf := self.fsd - overhead
    if maxInf = 0 then Act.throw (.protocol .other)
    else Picc.sendChunk data maxInf 0

end PiccApi

namespace PiccCall

variable {T E : Type} [Build] [PiccTransceiver T E]

/-- What a waiting call does with the result of `receive()`. -/
def resume (call : PiccCall) (received : Except E FrameVec) : Act (Picc T) (PiccError E) Next :=
  match received with
  | .error e => Act.throw (.piccTransceiver e)
  | .ok raw =>
    match call with
    | waitForActivation => Picc.waitForActivation raw
    | waitForRats => Picc.waitForRats raw
    | receiveCommand => Picc.receiveCommand raw
    | sendResponse data maxInf stop iblock => Picc.sendResponse data maxInf stop iblock raw

end PiccCall

/-- A card, and the call that is waiting, if one is. -/
structure PiccSession (T : Type) where
  picc : Picc T
  call : Option PiccCall := none

/-- What happens to a card: its owner calls, or a frame arrives. -/
inductive PiccInput (E : Type) where
  | call (api : PiccApi)
  | frame (received : Except E FrameVec)
deriving Repr

namespace PiccSession

variable {T E : Type} [Build] [PiccTransceiver T E]

/-- A call goes on: it returns, with what it returns, or waits for another frame. -/
def advance (picc : Picc T) (m : Act (Picc T) (PiccError E) Next) :
    Option (Res (PiccError E) Outcome) × PiccSession T :=
  match m.run picc with
  | (.ok (.wait call), picc) => (none, { picc, call := some call })
  | (.ok (.ret outcome), picc) => (some (.ok outcome), { picc })
  | (.err e, picc) => (some (.err e), { picc })
  | (.panic, picc) => (some .panic, { picc })
  | (.outOfFuel, picc) => (some .outOfFuel, { picc })

/-- One step.  A call while another one waits, and a frame nobody waits for, do not happen: the
    borrow checker and the trait see to that. -/
def step (self : PiccSession T) (input : PiccInput E) :
    Option (Res (PiccError E) Outcome) × PiccSession T :=
  match self.call, input with
  | none, .call api => advance self.picc api.begin
  | some call, .frame received => advance self.picc (call.resume received)
  | _, _ => (none, self)

end PiccSession

end Iso14443
