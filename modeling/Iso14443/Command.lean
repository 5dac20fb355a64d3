/-
  `src/type_a/mod.rs`: the commands of a reader, and the answers to them.

  * `Command.toFrame`, `toVec` — a command on the wire, its CRC_A computed in software.
  * `tryFrom`           — a command off the wire; `fromCrcVerified` — the same after a transceiver
                          has checked and stripped the CRC_A.
  * `parseAnswer`, `parseAnswerCrcVerified` — the answer to a command, likewise.

  The two entry points share `parseStandard`, and each matches the frames without CRC_A first: REQA
  and WUPA, and an anticollision of a SEL and an NVB alone.  They do not match the same frames:
  `tryFrom` checks the CRC_A of an anticollision with all its UID bytes, which has none.
  `Iso14443.CommandCodec` says where this shows.
-/
import Iso14443.Anticol

namespace Iso14443

/-- `Answer`: what a card answers to a command, one constructor for each kind. -/
inductive Answer where
  | atqA (atqa : AtqA)
  | uidCl (uidCl : UidCl)
  | sak (sak : Sak)
  | ats (ats : Ats)
  | pps (cid : Cid)
  | block (block : Block)
deriving DecidableEq

/-- `Command`: what a reader sends.  A SELECT is a command of its own, though it has the code of an
    anticollision command: its NVB tells them apart. -/
inductive Command where
  | reqA
  | wupA
  | antiCollision (cascade : Cascade) (nvb : NumberOfValidBits)
  | select (cascade : Cascade)
  | hltA
  | rats (param : RatsParam)
  | pps (param : PpsParam)
  | iBlock (block : Block)
  | rBlock (block : Block)
  | sBlock (block : Block)
deriving DecidableEq

namespace Command

variable [Build]

/-! ## To the wire

  REQA and WUPA are short frames of seven bits, an anticollision is bit-oriented, and everything
  else is a standard frame with a CRC_A. -/

/-- `to_vec`. -/
def toVec : Command → Res TypeAError FrameVec
  | reqA => tryPush frameCap [] 0x26
  | wupA => tryPush frameCap [] 0x52
  | antiCollision cascade nvb => cascade.raw nvb.toByte
  | select cascade => do
    let data ← cascade.raw 0x70
    appendCrcA data
  | hltA => appendCrcA [0x50, 0x00]
  | rats param => appendCrcA [0xe0, param.toByte]
  | pps param => appendCrcA [0xd0 + param.cid.value, 0x11, param.toByte]
  | iBlock block => block.toVec
  | rBlock block => block.toVec
  | sBlock block => block.toVec

/-- `to_frame`. -/
def toFrame (self : Command) : Res TypeAError Frame :=
  match self with
  | reqA | wupA => do
    let data ← self.toVec
    .ok (.short data)
  | antiCollision _ _ => do
    let data ← self.toVec
    .ok (.bitOriented data)
  | _ => do
    let data ← self.toVec
    .ok (.standard data)

/-! ## From the wire

  The first byte says what a frame is, but for PPS requests and blocks, which are tried last and
  one after the other. -/

/-- `Cascade::try_from(..).map_err(|_| TypeAError::UnknownOpcode(sel))`. -/
def cascadeOf (sel : UInt8) (uidCl : Vector UInt8 5) : Res TypeAError Cascade :=
  (Cascade.tryFrom sel uidCl).mapErr fun _ => .unknownOpcode sel

/-- The arm of a SEL and an NVB alone, in both entry points. -/
def parseAnticollision (sel nvb : UInt8) : Res TypeAError Command := do
  let cascade ← cascadeOf sel #v[0, 0, 0, 0, 0]
  let nvb ← NumberOfValidBits.tryFrom nvb
  .ok (antiCollision cascade nvb)

/-- The arm of a SEL, an NVB and five bytes. -/
def parseSelect (sel nvb : UInt8) (uidCl : Vector UInt8 5) : Res TypeAError Command := do
  let cascade ← cascadeOf sel uidCl
  let nvb ← NumberOfValidBits.tryFrom nvb
  if nvb.has40DataBits then .ok (select cascade) else .ok (antiCollision cascade nvb)

/-- The command a block is. -/
def ofBlock (block : Block) : Command :=
  match block.blockType with
  | .iBlock => iBlock block
  | .rBlock => rBlock block
  | .sBlock => sBlock block

/-- The last arm of `parse_standard`: a PPS request, or a block. -/
def parseOther (data : List UInt8) : Res TypeAError Command :=
  if data.isEmpty then .err .invalidLength
  else do
    let first ← Res.index data 0
    if first &&& 0xF0 = 0xD0 then do
      let param ← PpsParam.fromCrcVerified data
      .ok (pps param)
    else match Block.fromCrcVerified data with
      | .ok block => .ok (ofBlock block)
      | .err _ => .err (.unknownOpcode first)
      | .panic => .panic
      | .outOfFuel => .outOfFuel

/-- `parse_standard`. -/
def parseStandard (data : List UInt8) : Res TypeAError Command :=
  match data with
  | [first, second] =>
    if first = 0x50 ∧ second = 0x00 then .ok hltA
    else if first = 0xe0 then do
      let param ← RatsParam.tryFrom second
      .ok (rats param)
    else parseOther data
  | [sel, nvb, uid0, uid1, uid2, uid3, bcc] =>
    if Cascade.checkSel sel then parseSelect sel nvb (uidBccOf uid0 uid1 uid2 uid3 bcc)
    else parseOther data
  | _ => parseOther data

/-- `from_crc_verified`. -/
def fromCrcVerified (data : List UInt8) : Res TypeAError Command :=
  match data with
  | [first] =>
    if first = 0x26 then .ok reqA
    else if first = 0x52 then .ok wupA
    else parseStandard data
  | [sel, nvb] => if Cascade.checkSel sel then parseAnticollision sel nvb else parseStandard data
  | _ => parseStandard data

/-- The last arm of `try_from`: a standard frame, with its CRC_A. -/
def parseClosed (value : List UInt8) : Res TypeAError Command := do
  let data ← splitCrcA value
  parseStandard data

/-- `TryFrom<&[u8]> for Command`. -/
def tryFrom (value : List UInt8) : Res TypeAError Command :=
  match value with
  | [first] =>
    if first = 0x26 then .ok reqA
    else if first = 0x52 then .ok wupA
    else parseClosed value
  | [sel, nvb] => if Cascade.checkSel sel then parseAnticollision sel nvb else parseClosed value
  | _ => parseClosed value

/-! ## The answers

  An answer cannot be told from its bytes; the command it answers says what to read. -/

/-- `parse_answer`.  There is no answer to HLTA, and the arm for it is marked unreachable. -/
def parseAnswer (self : Command) (raw : List UInt8) : Res TypeAError Answer :=
  match self with
  | reqA | wupA => do
    let atqa ← AtqA.tryFrom raw
    .ok (.atqA atqa)
  | antiCollision _ _ => do
    let uidCl ← UidCl.tryFrom raw
    .ok (.uidCl uidCl)
  | select _ => do
    let sak ← Sak.tryFrom raw
    .ok (.sak sak)
  | hltA => .panic
  | rats _ => do
    let ats ← Ats.tryFrom raw
    .ok (.ats ats)
  | pps _ => do
    let cid ← PpsResp.tryFrom raw
    .ok (.pps cid)
  | iBlock _ | rBlock _ | sBlock _ => do
    let block ← Block.tryFrom raw
    .ok (.block block)

/-- `parse_answer_crc_verified`. -/
def parseAnswerCrcVerified (self : Command) (raw : List UInt8) : Res TypeAError Answer :=
  match self with
  | reqA | wupA => do
    let atqa ← AtqA.tryFrom raw
    .ok (.atqA atqa)
  | antiCollision _ _ => do
    let uidCl ← UidCl.tryFrom raw
    .ok (.uidCl uidCl)
  | select _ => do
    let sak ← Sak.fromCrcVerified raw
    .ok (.sak sak)
  | hltA => .panic
  | rats _ => do
    let ats ← Ats.fromCrcVerified raw
    .ok (.ats ats)
  | pps _ => do
    let cid ← PpsResp.fromCrcVerified raw
    .ok (.pps cid)
  | iBlock _ | rBlock _ | sBlock _ => do
    let block ← Block.fromCrcVerified raw
    .ok (.block block)

end Command

end Iso14443
