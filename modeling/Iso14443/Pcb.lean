/-
  `src/type_a/pcb.rs`: the protocol control byte.

  A `Pcb` keeps some facts twice: in the raw `flags` the byte was read from, and in fields of
  their own.  The encoder reads the fields, except for the two bits that announce a CID and a NAD,
  which it takes from `flags`.  A decoded byte has both in agreement; a `Pcb` put together by the
  builders need not.

  1. **The code**: flags, builders, `tryFrom` and `toByte`, bit for bit.
  2. **Which control bytes make sense** (`WellFormed`): only an I-Block chains, an R-Block says ACK
     or NAK, an S-Block DESELECT or WTX.  The builders do not insist on it; every block that the
     two sides send has it.
  3. **The byte of a block** (`wireByte`): `Block::to_bytes_without_crc` sets the two announcement
     bits anew before it encodes, so the byte depends on `flags` in no other way.
  4. **The round trip** (`tryFrom_wireByte`): all fields come back, and `flags` becomes the bits of
     the byte (`wireFlags`).  There are twelve well-formed bytes up to the announcement bits
     (`shapes`), and a fact about all of them is checked on these (`mem_shapes`).
-/
import Iso14443.Basic

namespace Iso14443

/-- `BlockType`: the two high bits of a PCB. -/
inductive BlockType where
  | iBlock
  | rBlock
  | sBlock
deriving DecidableEq, Repr

/-- `RBlockSubtype`: what bit 4 of an R-Block says. -/
inductive RBlockSubtype where
  | ack
  | nak
deriving DecidableEq, Repr

/-- `SBlockSubtype`: what bits 4 and 5 of an S-Block say. -/
inductive SBlockSubtype where
  | deselect
  | wtx
  | rBlock
  | sBlock
deriving DecidableEq, Repr

namespace PcbFlags

/-- `PcbFlags::BLOCK_NUMBER`. -/
def blockNumber : UInt8 := 0b00000001

/-- `PcbFlags::BIT1_RESERVED`. -/
def bit1Reserved : UInt8 := 0b00000010

/-- `PcbFlags::CID_FOLLOWING`. -/
def cidFollowing : UInt8 := 0b00001000

/-- `PcbFlags::NAD_FOLLOWING`. -/
def nadFollowing : UInt8 := 0b00000100

/-- `PcbFlags::CHAINING`. -/
def chaining : UInt8 := 0b00010000

/-- `PcbFlags::BLOCK_TYPE_MASK`. -/
def blockTypeMask : UInt8 := 0b11000000

/-- All defined flags. -/
def all : UInt8 :=
  blockNumber ||| bit1Reserved ||| cidFollowing ||| nadFollowing ||| chaining ||| blockTypeMask

/-- `from_bits_truncate`. -/
def fromBitsTruncate (bits : UInt8) : UInt8 := bits &&& all

/-- `contains`. -/
def contains (flags flag : UInt8) : Bool := flags &&& flag = flag

/-- `!flag`: all defined flags but this one. -/
def complement (flag : UInt8) : UInt8 := fromBitsTruncate (~~~ flag)

end PcbFlags

/-- The protocol control byte, decoded.  The number, the chaining bit and the subtypes are fields of
    their own beside the raw flags, as in the source; encoding takes no more than the CID and NAD
    bits from the flags. -/
structure Pcb where
  flags : UInt8
  blockType : BlockType
  blockNumber : Fin 2
  chaining : Bool
  rSubtype : Option RBlockSubtype
  sSubtype : Option SBlockSubtype
deriving DecidableEq, Repr

namespace Pcb

/-- `Pcb::new`. -/
def new (blockType : BlockType) : Pcb :=
  { flags := 0, blockType, blockNumber := 0, chaining := false, rSubtype := none, sSubtype := none }

/-- `with_block_number`; the number is already one of the two. -/
def withBlockNumber (self : Pcb) (blockNumber : Fin 2) : Pcb :=
  { self with
    blockNumber
    flags := if blockNumber = 1 then self.flags ||| PcbFlags.blockNumber else self.flags }

/-- `with_chaining`. -/
def withChaining (self : Pcb) (chaining : Bool) : Pcb :=
  { self with chaining, flags := if chaining then self.flags ||| PcbFlags.chaining else self.flags }

/-- `with_r_subtype`. -/
def withRSubtype (self : Pcb) (subtype : RBlockSubtype) : Pcb := { self with rSubtype := some subtype }

/-- `with_s_subtype`. -/
def withSSubtype (self : Pcb) (subtype : SBlockSubtype) : Pcb := { self with sSubtype := some subtype }

/-- `with_cid_following`. -/
def withCidFollowing (self : Pcb) (cidFollowing : Bool) : Pcb :=
  { self with
    flags := if cidFollowing then self.flags ||| PcbFlags.cidFollowing
      else self.flags &&& PcbFlags.complement PcbFlags.cidFollowing }

/-- `with_nad_following`. -/
def withNadFollowing (self : Pcb) (nadFollowing : Bool) : Pcb :=
  { self with
    flags := if nadFollowing then self.flags ||| PcbFlags.nadFollowing
      else self.flags &&& PcbFlags.complement PcbFlags.nadFollowing }

/-- `cid_following`. -/
def cidFollowing (self : Pcb) : Bool := PcbFlags.contains self.flags PcbFlags.cidFollowing

/-- `nad_following`. -/
def nadFollowing (self : Pcb) : Bool := PcbFlags.contains self.flags PcbFlags.nadFollowing

/-- The block type of a control byte. -/
def blockTypeOf (byte : UInt8) : Res TypeAError BlockType :=
  let bits := byte &&& PcbFlags.blockTypeMask
  if bits = 0b00000000 then .ok .iBlock
  else if bits = 0b10000000 then .ok .rBlock
  else if bits = 0b11000000 then .ok .sBlock
  else .err .invalidPcb

/-- The subtypes of a control byte; the wildcard arm of the R-Block is `unreachable!()`. -/
def subtypesOf (blockType : BlockType) (byte : UInt8) :
    Res TypeAError (Option RBlockSubtype × Option SBlockSubtype) :=
  match blockType with
  | .rBlock =>
    let bits := (byte >>> 4) &&& 0x01
    if bits = 0 then .ok (some .ack, none)
    else if bits = 1 then .ok (some .nak, none)
    else .panic
  | .sBlock =>
    let bits := (byte >>> 4) &&& 0x03
    if bits = 0b00 then .ok (none, some .deselect)
    else if bits = 0b11 then .ok (none, some .wtx)
    else .err .invalidPcb
  | .iBlock => .ok (none, none)

/-- `TryFrom<u8> for Pcb`. -/
def tryFrom (byte : UInt8) : Res TypeAError Pcb := do
  let flags := PcbFlags.fromBitsTruncate byte
  let blockType ← blockTypeOf byte
  if byte &&& 0b00000010 = 0 then .err .invalidPcb
  else if blockType = .iBlock ∧ byte &&& 0b00100000 ≠ 0 then .err .invalidPcb
  else if blockType = .rBlock ∧ byte &&& 0b00100000 = 0 then .err .invalidPcb
  else
    let blockNumber : Fin 2 := if PcbFlags.contains flags PcbFlags.blockNumber then 1 else 0
    let chaining :=
      if blockType = .iBlock then PcbFlags.contains flags PcbFlags.chaining else false
    let (rSubtype, sSubtype) ← subtypesOf blockType byte
    .ok { flags, blockType, blockNumber, chaining, rSubtype, sSubtype }

/-- The block type bits. -/
def typeBits : BlockType → UInt8
  | .iBlock => 0b00000000
  | .rBlock => 0b10000000
  | .sBlock => 0b11000000

/-- The last step of the encoder: bits 4 and 5 of R- and S-Blocks. -/
def setSubtypeBits (pcb : Pcb) (byte : UInt8) : UInt8 :=
  match pcb.blockType with
  | .rBlock =>
    let byte := byte ||| 0b00100000
    match pcb.rSubtype with
    | some .ack => byte &&& ~~~ 0b00010000
    | some .nak => byte ||| 0b00010000
    | none => byte
  | .sBlock =>
    match pcb.sSubtype with
    | some .deselect => byte ||| 0b00000000
    | some .wtx => byte ||| 0b00110000
    | _ => byte
  | .iBlock => byte

/-- `From<Pcb> for u8`. -/
def toByte (pcb : Pcb) : UInt8 :=
  let byte : UInt8 := 0b00000010 ||| typeBits pcb.blockType
  let byte := if pcb.blockNumber = 1 then byte ||| PcbFlags.blockNumber else byte
  let byte := if pcb.chaining then byte ||| PcbFlags.chaining else byte
  let byte := byte ||| (pcb.flags &&& (PcbFlags.cidFollowing ||| PcbFlags.nadFollowing))
  setSubtypeBits pcb byte

/-! ## The byte and back

  Which control bytes are well formed, and how the encoder's byte depends on the fields. -/

/-- The fields fit the block type: only an I-Block chains, an R-Block says ACK or NAK and an
    S-Block DESELECT or WTX, and no block has the subtype of another type. -/
def WellFormed (pcb : Pcb) : Prop :=
  match pcb.blockType with
  | .iBlock => pcb.rSubtype = none ∧ pcb.sSubtype = none
  | .rBlock => pcb.chaining = false ∧ pcb.rSubtype.isSome ∧ pcb.sSubtype = none
  | .sBlock => pcb.chaining = false ∧ pcb.rSubtype = none ∧
      (pcb.sSubtype = some .deselect ∨ pcb.sSubtype = some .wtx)

/-- Being well formed is a comparison of fields. -/
instance (pcb : Pcb) : Decidable pcb.WellFormed := by
  unfold WellFormed; split <;> infer_instance

/-- The two announcement bits as the block encoder leaves them. -/
def announce (cid nad : Bool) : UInt8 :=
  (if cid then PcbFlags.cidFollowing else 0) ||| (if nad then PcbFlags.nadFollowing else 0)

/-- Whatever `flags` was, the encoder sees the two bits the block asks for. -/
theorem announced_flags (pcb : Pcb) (cid nad : Bool) :
    ((pcb.withCidFollowing cid).withNadFollowing nad).flags &&&
      (PcbFlags.cidFollowing ||| PcbFlags.nadFollowing) = announce cid nad := by
  obtain ⟨flags, _, _, _, _, _⟩ := pcb
  simp only [withCidFollowing, withNadFollowing]
  revert flags
  apply Byte.forall_of_fin
  revert cid nad
  decide +kernel

/-- The control byte of a block: it depends on `flags` in no other way. -/
def wireByte (pcb : Pcb) (cid nad : Bool) : UInt8 :=
  toByte { pcb with flags := announce cid nad }

/-- The two bits are all that the mask lets through. -/
theorem announce_masked (cid nad : Bool) :
    announce cid nad &&& (PcbFlags.cidFollowing ||| PcbFlags.nadFollowing) = announce cid nad := by
  revert cid nad; decide

/-- What the block encoder writes for a PCB, whatever its raw flags were. -/
theorem toByte_announced (pcb : Pcb) (cid nad : Bool) :
    ((pcb.withCidFollowing cid).withNadFollowing nad).toByte = wireByte pcb cid nad := by
  simp only [wireByte, toByte, announced_flags, announce_masked]
  rfl

/-- The flags a decoder reads back. -/
def wireFlags (pcb : Pcb) (cid nad : Bool) : UInt8 :=
  PcbFlags.fromBitsTruncate (wireByte pcb cid nad)

/-! ### Facts about the byte

  The byte of a well-formed block depends on its type, its number, its chaining bit and its subtype,
  and on nothing else: `flags` is replaced before the byte is made.  So there are twelve control bytes
  up to the two announcement bits (`shapes`), and a decidable fact about all of them is checked on
  these. -/

/-- The well-formed control bytes, without flags. -/
def shapes : List Pcb :=
  let numbers : List (Fin 2) := [0, 1]
  numbers.flatMap fun blockNumber =>
    [ ⟨0, .iBlock, blockNumber, false, none, none⟩,
      ⟨0, .iBlock, blockNumber, true, none, none⟩,
      ⟨0, .rBlock, blockNumber, false, some .ack, none⟩,
      ⟨0, .rBlock, blockNumber, false, some .nak, none⟩,
      ⟨0, .sBlock, blockNumber, false, none, some .deselect⟩,
      ⟨0, .sBlock, blockNumber, false, none, some .wtx⟩ ]

/-- **There are no other shapes.** -/
theorem WellFormed.mem_shapes {pcb : Pcb} (h : pcb.WellFormed) : { pcb with flags := 0 } ∈ shapes := by
  obtain ⟨flags, ty, n, ch, r, s⟩ := pcb
  cases ty with
  | iBlock =>
    obtain ⟨rfl, rfl⟩ := h
    show (⟨0, .iBlock, n, ch, none, none⟩ : Pcb) ∈ shapes
    revert n ch
    decide
  | rBlock =>
    obtain ⟨rfl, hr, rfl⟩ := h
    obtain ⟨r, rfl⟩ := Option.isSome_iff_exists.mp hr
    show (⟨0, .rBlock, n, false, some r, none⟩ : Pcb) ∈ shapes
    clear hr
    revert n
    cases r <;> decide
  | sBlock =>
    obtain ⟨rfl, rfl, rfl | rfl⟩ := h
    · show (⟨0, .sBlock, n, false, none, some .deselect⟩ : Pcb) ∈ shapes
      revert n
      decide
    · show (⟨0, .sBlock, n, false, none, some .wtx⟩ : Pcb) ∈ shapes
      revert n
      decide

/-- **The control byte decodes to the fields it was made from.** -/
theorem tryFrom_wireByte {pcb : Pcb} (h : pcb.WellFormed) (cid nad : Bool) :
    tryFrom (wireByte pcb cid nad) = .ok { pcb with flags := wireFlags pcb cid nad } := by
  have hall : ∀ pcb ∈ shapes, ∀ cid nad, tryFrom (wireByte pcb cid nad) =
      .ok { pcb with flags := wireFlags pcb cid nad } := by decide +kernel
  exact hall _ h.mem_shapes cid nad

/-- No byte makes the decoder panic: the arm marked unreachable is unreachable. -/
theorem tryFrom_returns (byte : UInt8) : (tryFrom byte).Returns := by
  have hall : ∀ byte : UInt8, tryFrom byte ≠ .panic ∧ tryFrom byte ≠ .outOfFuel :=
    Byte.forall_of_fin (by decide +kernel)
  obtain ⟨h1, h2⟩ := hall byte
  cases h : tryFrom byte with
  | ok _ => trivial
  | err _ => trivial
  | panic => exact (h1 h).elim
  | outOfFuel => exact (h2 h).elim

/-- The announcement bits are read back as well. -/
theorem following_wireByte {pcb : Pcb} (h : pcb.WellFormed) (cid nad : Bool) :
    PcbFlags.contains (wireFlags pcb cid nad) PcbFlags.cidFollowing = cid ∧
      PcbFlags.contains (wireFlags pcb cid nad) PcbFlags.nadFollowing = nad := by
  have hall : ∀ pcb ∈ shapes, ∀ cid nad,
      PcbFlags.contains (wireFlags pcb cid nad) PcbFlags.cidFollowing = cid ∧
        PcbFlags.contains (wireFlags pcb cid nad) PcbFlags.nadFollowing = nad := by decide +kernel
  exact hall _ h.mem_shapes cid nad

/-- The first two bits are those of the block type. -/
theorem wireByte_typeBits {pcb : Pcb} (h : pcb.WellFormed) (cid nad : Bool) :
    wireByte pcb cid nad &&& PcbFlags.blockTypeMask = typeBits pcb.blockType := by
  have hall : ∀ pcb ∈ shapes, ∀ cid nad,
      wireByte pcb cid nad &&& PcbFlags.blockTypeMask = typeBits pcb.blockType := by decide +kernel
  exact hall _ h.mem_shapes cid nad

/-- No block starts like a PPS request. -/
theorem wireByte_ne_pps {pcb : Pcb} (h : pcb.WellFormed) (cid nad : Bool) :
    wireByte pcb cid nad &&& 0xF0 ≠ 0xD0 := by
  have hall : ∀ pcb ∈ shapes, ∀ cid nad, wireByte pcb cid nad &&& 0xF0 ≠ 0xD0 := by decide +kernel
  exact hall _ h.mem_shapes cid nad

end Pcb

end Iso14443
