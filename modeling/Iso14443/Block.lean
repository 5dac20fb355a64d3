/-
  `src/type_a/block.rs`: blocks and their bytes.

  `Block.bytes` is the layout (control byte, optional CID, optional NAD, payload) as a plain list.
  `toBytesWithoutCrc` makes exactly it when the frame buffer is large enough
  (`toBytesWithoutCrc_eq_ok`), and `fromCrcVerified` reads a well-formed block back from it
  (`fromCrcVerified_bytes`), up to the raw `flags` of its control byte (`Block.wire`), which
  nothing but the two announcement bits is ever read from.

  Over it are the two things that both sides do with blocks:

  * `frameFor` is how a block becomes a frame.  A transceiver with CRC support closes the frame
    itself, without it the library does; `raw` is what passes the transceiver in either mode.
  * `readBlock` is how a frame becomes a block again.  `readBlock_raw` is the one fact the link
    between the two sides rests on: what one sends, the other reads, in either mode.

  `fromCrcVerified_returns`: no bytes make the parser panic.  Both prologue bytes are read through
  `get`, and the payload is the rest.
-/
import Iso14443.Crc
import Iso14443.Pcb

namespace Iso14443

/-- `Block`: the control byte with what follows it in the frame, an optional CID, an optional NAD,
    and the payload.  Nothing ties the optional bytes to the flags of the control byte: encoding
    goes by the bytes. -/
structure Block where
  pcb : Pcb
  cid : Option Cid := none
  nad : Option UInt8 := none
  payload : FrameVec := []
deriving DecidableEq, Repr

namespace Block

/-- `Block::new`. -/
def new (pcb : Pcb) : Block := { pcb }

/-- `with_cid`. -/
def withCid (self : Block) (cid : Cid) : Block := { self with cid := some cid }

/-- `with_nad`. -/
def withNad (self : Block) (nad : UInt8) : Block := { self with nad := some nad }

/-- `with_payload`. -/
def withPayload (self : Block) (payload : FrameVec) : Block := { self with payload }

/-- `is_chaining`. -/
def isChaining (self : Block) : Bool := self.pcb.chaining

/-- `block_number`. -/
def blockNumber (self : Block) : Fin 2 := self.pcb.blockNumber

/-- `block_type`. -/
def blockType (self : Block) : BlockType := self.pcb.blockType

section Codec

variable [Build]

/-- `if let Some(x) = o { bytes.try_push(x)? }`. -/
def pushSome (bytes : FrameVec) (o : Option UInt8) : Res TypeAError FrameVec :=
  match o with
  | some x => tryPush frameCap bytes x
  | none => .ok bytes

/-- `to_bytes_without_crc`. -/
def toBytesWithoutCrc (self : Block) : Res TypeAError FrameVec := do
  let pcb := (self.pcb.withCidFollowing self.cid.isSome).withNadFollowing self.nad.isSome
  let bytes ← tryPush frameCap [] pcb.toByte
  let bytes ← pushSome bytes (self.cid.map Cid.value)
  let bytes ← pushSome bytes self.nad
  tryExtend frameCap bytes self.payload

/-- `to_vec`. -/
def toVec (self : Block) : Res TypeAError FrameVec := do
  appendCrcA (← self.toBytesWithoutCrc)

/-- The CID a block carries, if its control byte announces one, and where the prologue goes on. -/
def takeCid (data : List UInt8) (pcb : Pcb) (offset : Nat) : Res TypeAError (Option Cid × Nat) :=
  if pcb.cidFollowing then
    if offset < data.length then do
      let byte ← Res.index data offset
      let cidValue := byte &&& 0x0F
      if cidValue ≤ 14 then do
        let cid ← Res.unwrap (Cid.new cidValue)
        .ok (some cid, offset + 1)
      else .err (.unknownOpcode byte)
    else .err .invalidLength
  else .ok (none, offset)

/-- The NAD, which only an I-Block with a CID may carry. -/
def takeNad (data : List UInt8) (pcb : Pcb) (cid : Option Cid) (offset : Nat) :
    Res TypeAError (Option UInt8 × Nat) :=
  if pcb.nadFollowing then
    if pcb.blockType ≠ .iBlock then .err .other
    else if cid.isNone then .err .other
    else if offset < data.length then do
      let nad ← Res.index data offset
      .ok (some nad, offset + 1)
    else .err .invalidLength
  else .ok (none, offset)

/-- `data.get(offset..)`. -/
def restFrom (data : List UInt8) (offset : Nat) : Option (List UInt8) :=
  if offset ≤ data.length then some (data.drop offset) else none

/-- `from_crc_verified`. -/
def fromCrcVerified (data : List UInt8) : Res TypeAError Block :=
  if data.isEmpty then .err .invalidLength
  else do
    let pcb ← Pcb.tryFrom (← Res.index data 0)
    let (cid, offset) ← takeCid data pcb 1
    let (nad, offset) ← takeNad data pcb cid offset
    let payload ← tryExtend frameCap [] (← Res.okOr .invalidLength (restFrom data offset))
    .ok { pcb, cid, nad, payload }

/-- `TryFrom<&[u8]> for Block`. -/
def tryFrom (data : List UInt8) : Res TypeAError Block := do
  fromCrcVerified (← splitCrcA data)

end Codec

/-! ## The layout

  The bytes of a block as a list, and the two directions against it. -/

/-- The fields of a block fit its type, as the parser leaves them: a control byte that names its
    subtype, and a NAD only where one may stand. -/
structure WellFormed (b : Block) : Prop where
  pcb : b.pcb.WellFormed
  /-- A NAD only on an I-Block that has a CID. -/
  nad : b.nad.isSome → b.blockType = .iBlock ∧ b.cid.isSome

/-- What follows the control byte and precedes the payload. -/
def prologue (b : Block) : List UInt8 := (b.cid.map Cid.value).toList ++ b.nad.toList

/-- The bytes of a block. -/
def bytes (b : Block) : List UInt8 :=
  Pcb.wireByte b.pcb b.cid.isSome b.nad.isSome :: (b.prologue ++ b.payload)

/-- What passes the transceiver: hardware adds and strips the CRC itself. -/
def raw (hwCrc : Bool) (b : Block) : List UInt8 := closed hwCrc b.bytes

/-- A block as its reader sees it: the flags are those of the byte. -/
def wire (b : Block) : Block :=
  { b with pcb := { b.pcb with flags := Pcb.wireFlags b.pcb b.cid.isSome b.nad.isSome } }

/-- The type of a block is on the wire. -/
@[simp] theorem wire_blockType (b : Block) : b.wire.blockType = b.blockType := rfl
/-- So is its number. -/
@[simp] theorem wire_blockNumber (b : Block) : b.wire.blockNumber = b.blockNumber := rfl
/-- So is its chaining bit. -/
@[simp] theorem wire_isChaining (b : Block) : b.wire.isChaining = b.isChaining := rfl
/-- So is what an R-Block says. -/
@[simp] theorem wire_rSubtype (b : Block) : b.wire.pcb.rSubtype = b.pcb.rSubtype := rfl
/-- So is what an S-Block asks. -/
@[simp] theorem wire_sSubtype (b : Block) : b.wire.pcb.sSubtype = b.pcb.sSubtype := rfl
/-- So is its CID. -/
@[simp] theorem wire_cid (b : Block) : b.wire.cid = b.cid := rfl
/-- So is its INF field. -/
@[simp] theorem wire_payload (b : Block) : b.wire.payload = b.payload := rfl

/-- How long a block is: PCB, CID, NAD, INF. -/
theorem length_bytes (b : Block) : b.bytes.length =
    1 + (if b.cid.isSome then 1 else 0) + (if b.nad.isSome then 1 else 0) + b.payload.length := by
  cases hc : b.cid <;> cases hn : b.nad <;> simp [bytes, prologue, hc, hn] <;> omega

/-- An optional prologue byte is pushed when there is room. -/
theorem pushSome_of_fits [Build] {v : FrameVec} {o : Option UInt8}
    (h : Fits frameCap (v.length + o.toList.length)) : pushSome v o = .ok (v ++ o.toList) := by
  cases o with
  | none => simp [pushSome]
  | some x => exact tryPush_of_fits (by simpa using h)

/-- Pushing an optional byte appends it and nothing else. -/
theorem pushSome_eq_ok [Build] {v w : FrameVec} {o : Option UInt8} (h : pushSome v o = .ok w) :
    w = v ++ o.toList := by
  cases o with
  | none => simpa [pushSome, eq_comm] using h
  | some x => exact (tryPush_eq_ok.mp h).2

/-- `to_bytes_without_crc` writes exactly `bytes`, or fails for want of room. -/
theorem toBytesWithoutCrc_eq_ok [Build] {b : Block} {data : List UInt8} :
    b.toBytesWithoutCrc = .ok data ↔ Fits frameCap b.bytes.length ∧ data = b.bytes := by
  simp only [toBytesWithoutCrc, Pcb.toByte_announced]
  constructor
  · intro h
    obtain ⟨_, h0, h⟩ := Res.bind_eq_ok.mp h
    obtain ⟨-, rfl⟩ := tryPush_eq_ok.mp h0
    obtain ⟨_, h1, h⟩ := Res.bind_eq_ok.mp h
    obtain rfl := pushSome_eq_ok h1
    obtain ⟨_, h2, h⟩ := Res.bind_eq_ok.mp h
    obtain rfl := pushSome_eq_ok h2
    obtain ⟨hf, rfl⟩ := tryExtend_eq_ok.mp h
    exact ⟨hf.mono (by simp [bytes, prologue]; omega), by simp [bytes, prologue]⟩
  · rintro ⟨hf, rfl⟩
    have hlen : b.bytes.length = 1 + (b.cid.map Cid.value).toList.length + b.nad.toList.length
        + b.payload.length := by
      simp [bytes, prologue]; omega
    rw [hlen] at hf
    rw [tryPush_of_fits (hf.mono (by simp; omega)), Res.ok_bind,
      pushSome_of_fits (hf.mono (by simp; omega)), Res.ok_bind,
      pushSome_of_fits (hf.mono (by simp; omega)), Res.ok_bind,
      tryExtend_of_fits (hf.mono (by
        simp only [List.length_append, List.length_cons, List.length_nil]
        omega))]
    simp [bytes, prologue]

/-- A block that fits a frame is written. -/
theorem toBytesWithoutCrc_of_fits [Build] {b : Block} (h : Fits frameCap b.bytes.length) :
    b.toBytesWithoutCrc = .ok b.bytes :=
  toBytesWithoutCrc_eq_ok.mpr ⟨h, rfl⟩

/-- The CID byte is in range, so its `unwrap` is too. -/
theorem cidByte (cid : Cid) : cid.value &&& 0x0F = cid.value ∧ cid.value ≤ 14 := by
  revert cid; decide

/-- **Reading a block back.** -/
theorem fromCrcVerified_bytes [Build] {b : Block} (h : b.WellFormed)
    (hp : Fits frameCap b.payload.length) : fromCrcVerified b.bytes = .ok b.wire := by
  have hpay : Fits frameCap (([] : List UInt8).length + b.payload.length) := hp.mono (by simp)
  have htry := Pcb.tryFrom_wireByte h.pcb b.cid.isSome b.nad.isSome
  obtain ⟨hcf, hnf⟩ := Pcb.following_wireByte h.pcb b.cid.isSome b.nad.isSome
  have hnad := h.nad
  obtain ⟨pcb, cid, nad, payload⟩ := b
  simp only [fromCrcVerified, bytes, prologue, List.isEmpty_cons, Bool.false_eq_true, if_false,
    Res.index_zero_cons, Res.ok_bind, htry, takeCid, takeNad, Pcb.cidFollowing,
    Pcb.nadFollowing, hcf, hnf]
  cases cid with
  | none =>
    cases nad with
    | none => simp [restFrom, tryExtend_of_fits hpay, wire]
    | some n => exact absurd (hnad rfl).2 (by simp)
  | some c =>
    have hc : Res.index (Pcb.wireByte pcb true nad.isSome :: ([c.value] ++ nad.toList ++ payload)) 1
        = (Res.ok c.value : Res TypeAError UInt8) := by simp
    cases nad with
    | none => simp [(cidByte c).1, (cidByte c).2, restFrom, tryExtend_of_fits hpay, wire]
    | some n =>
      have ht : pcb.blockType = .iBlock := (hnad rfl).1
      have hn : ∀ x y z : UInt8, Res.index (x :: y :: z :: payload) 2
          = (Res.ok z : Res TypeAError UInt8) := fun _ _ _ => rfl
      simp [(cidByte c).1, (cidByte c).2, restFrom, tryExtend_of_fits hpay, wire, ht, hn]

/-- **Reading a block off the wire.** -/
theorem tryFrom_withCrc_bytes [Build] {b : Block} (h : b.WellFormed)
    (hp : Fits frameCap b.payload.length) : tryFrom (withCrc b.bytes) = .ok b.wire := by
  rw [tryFrom, splitCrcA_withCrc, Res.ok_bind, fromCrcVerified_bytes h hp]

/-- What the transceiver hands over, read as a block. -/
def readBlock [Build] (hwCrc : Bool) (raw : List UInt8) : Res TypeAError Block :=
  if hwCrc then fromCrcVerified raw else tryFrom raw

/-- **The other side reads the block that was sent**, in either CRC mode. -/
theorem readBlock_raw [Build] (hwCrc : Bool) {b : Block} (h : b.WellFormed)
    (hlen : b.bytes.length ≤ 256) : readBlock hwCrc (b.raw hwCrc) = .ok b.wire := by
  have hp : Fits frameCap b.payload.length := by
    have := b.length_bytes
    exact fits_frameCap (by omega)
  cases hwCrc with
  | true => exact fromCrcVerified_bytes h hp
  | false => exact tryFrom_withCrc_bytes h hp

/-! ## No panics

  The two prologue bytes and the payload are read through `get`, so what is missing is an error. -/

/-- Writing a block never panics. -/
theorem toBytesWithoutCrc_returns [Build] (b : Block) : b.toBytesWithoutCrc.Returns := by
  have hpush : ∀ (v : FrameVec) (o : Option UInt8), (pushSome v o).Returns := by
    intro v o
    cases o with
    | none => trivial
    | some x => exact tryExtend_returns _ _ _
  refine (tryExtend_returns _ _ _).bind fun _ _ => ?_
  refine (hpush _ _).bind fun _ _ => ?_
  exact (hpush _ _).bind fun _ _ => tryExtend_returns _ _ _

/-- Reading the CID byte never panics: the length is looked at first. -/
theorem takeCid_returns (data : List UInt8) (pcb : Pcb) (offset : Nat) :
    (takeCid data pcb offset).Returns := by
  unfold takeCid
  split
  · split
    · rename_i hlt
      refine (Res.returns_index hlt).bind fun byte _ => ?_
      dsimp only
      split
      · rename_i hle
        -- a CID in range is one, so the `unwrap` holds
        have hcid : ∃ cid, Cid.new (byte &&& 0x0F) = some cid := by
          have hle : (byte &&& 0x0F).toNat ≤ 14 := hle
          exact ⟨_, dif_pos hle⟩
        obtain ⟨cid, hcid⟩ := hcid
        rw [hcid]
        trivial
      · trivial
    · trivial
  · trivial

/-- Nor does reading the NAD byte. -/
theorem takeNad_returns (data : List UInt8) (pcb : Pcb) (cid : Option Cid) (offset : Nat) :
    (takeNad data pcb cid offset).Returns := by
  unfold takeNad
  split
  · split
    · trivial
    · split
      · trivial
      · split
        · rename_i hlt
          exact (Res.returns_index hlt).bind fun _ _ => trivial
        · trivial
  · trivial

/-- **No frame makes the parser panic.** -/
theorem fromCrcVerified_returns [Build] (data : List UInt8) : (fromCrcVerified data).Returns := by
  unfold fromCrcVerified
  split
  · trivial
  · rename_i hne
    have hlt : 0 < data.length := by
      cases data with
      | nil => exact absurd rfl hne
      | cons _ _ => simp
    refine (Res.returns_index hlt).bind fun byte _ => ?_
    refine (Pcb.tryFrom_returns byte).bind fun pcb _ => ?_
    refine (takeCid_returns _ _ _).bind fun p _ => ?_
    refine (takeNad_returns _ _ _ _).bind fun q _ => ?_
    refine (Res.returns_okOr _ _).bind fun _ _ => ?_
    exact (tryExtend_returns _ _ _).bind fun _ _ => trivial

/-- `Block::try_from` has no panic on any bytes. -/
theorem tryFrom_returns [Build] (data : List UInt8) : (tryFrom data).Returns :=
  (splitCrcA_returns data).bind fun body _ => fromCrcVerified_returns body

end Block

/-! ## The frame that carries a block

  A block is written, and closed unless the transceiver does that.  The result is a standard
  frame. -/

/-- The frame that carries a block. -/
def frameFor [Build] (hwCrc : Bool) (block : Block) : Res TypeAError Frame := do
  let data ← block.toBytesWithoutCrc
  frameOf hwCrc data

/-- A frame can always be made of a block that is short enough. -/
theorem frameFor_of_fits [Build] (hwCrc : Bool) {block : Block} (h : block.bytes.length + 2 ≤ 256) :
    frameFor hwCrc block = .ok (.standard (block.raw hwCrc)) := by
  have hbytes := Block.toBytesWithoutCrc_of_fits (b := block) (fits_frameCap (by omega))
  rw [frameFor, hbytes, Res.ok_bind, frameOf_of_fits hwCrc h]
  rfl

/-- The one way in which a block fails to make a frame. -/
theorem frameFor_eq_err [Build] {hwCrc : Bool} {block : Block} {e : TypeAError}
    (h : frameFor hwCrc block = .err e) : e = .bufferFull := by
  have hpush : ∀ {v : FrameVec} {o : Option UInt8}, Block.pushSome v o = .err e → e = .bufferFull := by
    intro v o ho
    cases o with
    | none => cases ho
    | some x => exact tryExtend_eq_err ho
  rcases Res.bind_eq_err h with h | ⟨data, -, h⟩
  · rcases Res.bind_eq_err h with h | ⟨_, -, h⟩
    · exact tryExtend_eq_err h
    · rcases Res.bind_eq_err h with h | ⟨_, -, h⟩
      · exact hpush h
      · rcases Res.bind_eq_err h with h | ⟨_, -, h⟩
        · exact hpush h
        · exact tryExtend_eq_err h
  · cases hwCrc with
    | true => cases h
    | false =>
      rcases Res.bind_eq_err h with h | ⟨_, -, h⟩
      · rcases Res.bind_eq_err h with h | ⟨_, -, h⟩
        · exact tryExtend_eq_err h
        · rcases Res.bind_eq_err h with h | ⟨_, -, h⟩ <;> exact tryExtend_eq_err h
      · cases h

/-- Nor has closing a block to a frame. -/
theorem frameFor_returns [Build] (hwCrc : Bool) (block : Block) : (frameFor hwCrc block).Returns :=
  (Block.toBytesWithoutCrc_returns block).bind fun data _ => frameOf_returns hwCrc data

end Iso14443
