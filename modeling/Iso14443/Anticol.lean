/-
  `src/type_a/anticol_select.rs`, and the reading half of `atqa.rs` and `sak.rs`: the frames of an
  activation, as a reader writes and reads them.

  * `UidCl`, `Cascade`    — the four bytes of one cascade level, and which level they are of.  A
                            level that is not the last one starts with the cascade tag, and brings
                            three bytes to the UID instead of four.
  * `NumberOfValidBits`   — NVB, whose two halves carry their bounds.
  * `AtqA.tryFrom`, `Sak.tryFrom` — what the answers of a card say.

  Each parser is proved against the encoder of the other side: `AtqA.tryFrom_toBytes` and
  `Sak.fromRaw_toByte` undo what the card writes, `tryFrom_bytes` and `bytes_tryFrom` say of a
  level that it is read back as it was written, and that only such bytes are read.  None of them
  panics.
-/
import Iso14443.Picc

namespace Iso14443

/-! ## The bytes of a cascade level

  A level is sent as four bytes and their BCC.  Whether it is the last one is told by the first
  byte: the cascade tag starts no last level. -/

/-- `UidCl`: the last level of a UID, or a cascade tag and three bytes more to come. -/
inductive UidCl where
  | final (uid0 uid1 uid2 uid3 : UInt8)
  | next (uid0 uid1 uid2 : UInt8)
deriving DecidableEq, Repr

/-- The `[u8; 5]` of these bytes. -/
abbrev uidBccOf (a b c d e : UInt8) : Vector UInt8 5 := #v[a, b, c, d, e]

namespace UidCl

/-- `TryFrom<&[u8; 5]>`. -/
def tryFromArray (value : Vector UInt8 5) : Res TypeAError UidCl :=
  if value.toList.foldl (· ^^^ ·) 0 ≠ 0 then .err .invalidBcc
  else if value[0] = 0x88 then .ok (.next value[1] value[2] value[3])
  else .ok (.final value[0] value[1] value[2] value[3])

/-- `TryFrom<&[u8]>`. -/
def tryFrom (value : List UInt8) : Res TypeAError UidCl :=
  match value with
  | [a, b, c, d, e] => tryFromArray (uidBccOf a b c d e)
  | _ => .err .invalidLength

/-- The five bytes of a level: four bytes and their BCC. -/
def bytes : UidCl → List UInt8
  | final uid0 uid1 uid2 uid3 => [uid0, uid1, uid2, uid3, uid0 ^^^ uid1 ^^^ uid2 ^^^ uid3]
  | next uid0 uid1 uid2 => [0x88, uid0, uid1, uid2, uid0 ^^^ uid1 ^^^ uid2 ^^^ 0x88]

/-- What the parser produces: a last level does not start with the cascade tag. -/
def Parsed : UidCl → Prop
  | final uid0 _ _ _ => uid0 ≠ 0x88
  | next _ _ _ => True

end UidCl

/-- `Cascade`: a level, with the five bytes of it that go over the air. -/
inductive Cascade where
  | level1 (uidCl : UidCl)
  | level2 (uidCl : UidCl)
  | level3 (uidCl : UidCl)
deriving DecidableEq, Repr

namespace Cascade

/-- `check_sel`. -/
def checkSel (sel : UInt8) : Bool := sel = selCl1 || sel = selCl2 || sel = selCl3

/-- `Cascade::try_from`. -/
def tryFrom (sel : UInt8) (uidCl : Vector UInt8 5) : Res TypeAError Cascade :=
  if sel = selCl1 then do
    let uidCl ← UidCl.tryFromArray uidCl
    .ok (.level1 uidCl)
  else if sel = selCl2 then do
    let uidCl ← UidCl.tryFromArray uidCl
    .ok (.level2 uidCl)
  else if sel = selCl3 then do
    let uidCl ← UidCl.tryFromArray uidCl
    .ok (.level3 uidCl)
  else .err (.unknownOpcode sel)

/-- `code`. -/
def code : Cascade → UInt8
  | level1 _ => selCl1
  | level2 _ => selCl2
  | level3 _ => selCl3

/-- `uid_cl`. -/
def uidCl : Cascade → UidCl
  | level1 uidCl => uidCl
  | level2 uidCl => uidCl
  | level3 uidCl => uidCl

/-- `raw`: SEL, NVB, and the five bytes. -/
def raw [Build] (self : Cascade) (nvb : UInt8) : Res TypeAError FrameVec := do
  let raw ← tryPush frameCap [] self.code
  let raw ← tryPush frameCap raw nvb
  match self.uidCl with
  | .final uid0 uid1 uid2 uid3 => do
    let raw ← tryPush frameCap raw uid0
    let raw ← tryPush frameCap raw uid1
    let raw ← tryPush frameCap raw uid2
    let raw ← tryPush frameCap raw uid3
    tryPush frameCap raw (uid0 ^^^ uid1 ^^^ uid2 ^^^ uid3)
  | .next uid0 uid1 uid2 => do
    let raw ← tryPush frameCap raw 0x88
    let raw ← tryPush frameCap raw uid0
    let raw ← tryPush frameCap raw uid1
    let raw ← tryPush frameCap raw uid2
    tryPush frameCap raw (uid0 ^^^ uid1 ^^^ uid2 ^^^ 0x88)

end Cascade

/-! ## NVB

  The number of valid bits, as bytes and bits: `20` for a SEL and an NVB alone, `70` for a SELECT
  with all five bytes. -/

/-- `NumberOfValidBits`: `BoundedU8<2, 7>` bytes and `BoundedU8<0, 7>` bits.  The bounds of the two
    types are fields, so a value out of bounds cannot be built. -/
structure NumberOfValidBits where
  byteCnt : UInt8
  bitCnt : UInt8
  byteCnt_ge : 2 ≤ byteCnt
  byteCnt_le : byteCnt ≤ 7
  bitCnt_le : bitCnt ≤ 7
deriving DecidableEq

namespace NumberOfValidBits

/-- `From<&NumberOfValidBits> for u8`. -/
def toByte (self : NumberOfValidBits) : UInt8 := (self.byteCnt <<< 4) ||| self.bitCnt

/-- `TryFrom<u8>`. -/
def tryFrom (value : UInt8) : Res TypeAError NumberOfValidBits :=
  if hbyte : (2 : UInt8) ≤ value >>> 4 ∧ value >>> 4 ≤ (7 : UInt8) then
    if hbit : value &&& 0x0F ≤ (7 : UInt8) then
      .ok ⟨value >>> 4, value &&& 0x0F, hbyte.1, hbyte.2, hbit⟩
    else .err (.unknownOpcode (value &&& 0x0F))
  else .err (.unknownOpcode (value >>> 4))

/-- `anticollision`: SEL and NVB alone. -/
def anticollision : NumberOfValidBits := ⟨2, 0, by decide, by decide, by decide⟩

/-- `select`: SEL, NVB, UID and BCC. -/
def select : NumberOfValidBits := ⟨7, 0, by decide, by decide, by decide⟩

/-- `has_40_data_bits`. -/
def has40DataBits (self : NumberOfValidBits) : Bool := self.byteCnt = 7 && self.bitCnt = 0

end NumberOfValidBits

/-! ## The answers

  The reading half of `atqa.rs` and `sak.rs`.  The two bits of a size or of the time slots are
  looked up in the table of the enumeration, and what is not there is an error. -/

/-- `TryFromPrimitive for UidSize`. -/
def UidSize.tryFrom (value : UInt8) : Option UidSize := [single, double, triple][value.toNat]?

/-- `TryFromPrimitive for BitFrameAntiCollision`. -/
def BitFrameAntiCollision.tryFrom (value : UInt8) : Option BitFrameAntiCollision :=
  if value = 1 then some slot1
  else if value = 2 then some slot2
  else if value = 4 then some slot4
  else if value = 8 then some slot8
  else if value = 16 then some slot16
  else none

/-- `TryFrom<&[u8]> for AtqA`. -/
def AtqA.tryFrom (value : List UInt8) : Res TypeAError AtqA :=
  if value.length = 2 then do
    let byte0 ← Res.index value 0
    let uidSize ← Res.okOr (.unknownOpcode (byte0 >>> 6)) (UidSize.tryFrom ((byte0 >>> 6) &&& 0b11))
    let bitFrameAc ← Res.okOr (.unknownOpcode (byte0 &&& 0b11111))
      (BitFrameAntiCollision.tryFrom (byte0 &&& 0b11111))
    let byte1 ← Res.index value 1
    .ok { uidSize, bitFrameAc, proprietaryCoding := byte1 &&& 0b1111 }
  else .err .invalidLength

namespace Sak

/-- `from_raw`. -/
def fromRaw (sak : UInt8) : Sak where
  uidComplete := sak &&& 0x04 ≠ 0x04
  iso144434Compliant := sak &&& 0x20 = 0x20

/-- `from_crc_verified`. -/
def fromCrcVerified (value : List UInt8) : Res TypeAError Sak :=
  match value with
  | [sak] => .ok (fromRaw sak)
  | _ => .err .invalidLength

/-- `TryFrom<&[u8]> for Sak`. -/
def tryFrom (value : List UInt8) : Res TypeAError Sak := do
  let data ← splitCrcA value
  fromCrcVerified data

end Sak

/-! ## No panics

  Each of these compares the length first, and each index is below it. -/

/-- Reading five bytes as a UID level never panics. -/
theorem UidCl.tryFromArray_returns (value : Vector UInt8 5) : (UidCl.tryFromArray value).Returns := by
  unfold UidCl.tryFromArray
  split
  · trivial
  · split <;> trivial

/-- Nor does reading a slice: its length is looked at first. -/
theorem UidCl.tryFrom_returns (value : List UInt8) : (UidCl.tryFrom value).Returns := by
  unfold UidCl.tryFrom
  split
  · exact UidCl.tryFromArray_returns _
  · trivial

/-- Reading an ATQA never panics. -/
theorem AtqA.tryFrom_returns (value : List UInt8) : (AtqA.tryFrom value).Returns := by
  unfold AtqA.tryFrom
  split
  · refine (Res.returns_index (by omega)).bind fun _ _ => ?_
    refine (Res.returns_okOr _ _).bind fun _ _ => (Res.returns_okOr _ _).bind fun _ _ => ?_
    exact (Res.returns_index (by omega)).bind fun _ _ => trivial
  · trivial

/-- Reading a SAK whose CRC_A was checked never panics. -/
theorem Sak.fromCrcVerified_returns (value : List UInt8) : (Sak.fromCrcVerified value).Returns := by
  unfold Sak.fromCrcVerified
  split <;> trivial

/-- Nor does reading one with its CRC_A. -/
theorem Sak.tryFrom_returns (value : List UInt8) : (Sak.tryFrom value).Returns :=
  (splitCrcA_returns value).bind fun data _ => Sak.fromCrcVerified_returns data

/-! ## Reading back what was written

  The reader's parsers against the card's encoders, and the other way round. -/

/-- **The reader reads the ATQA of the card.** -/
theorem AtqA.tryFrom_toBytes (self : AtqA) : AtqA.tryFrom self.toBytes =
    .ok { self with proprietaryCoding := self.proprietaryCoding &&& 0b1111 } := by
  obtain ⟨size, slots, coding⟩ := self
  have hmask : coding &&& 0b1111 &&& 0b1111 = coding &&& 0b1111 := by
    rw [UInt8.and_assoc]
    rfl
  cases size <;> cases slots <;> simp [tryFrom, toBytes, hmask] <;> rfl

/-- **And its SAK.** -/
@[simp] theorem Sak.fromRaw_toByte (self : Sak) : Sak.fromRaw self.toByte = self := by
  obtain ⟨complete, compliant⟩ := self
  cases complete <;> cases compliant <;> decide

/-- **Each half of an NVB is read back.** -/
@[simp] theorem NumberOfValidBits.tryFrom_toByte (self : NumberOfValidBits) :
    tryFrom self.toByte = .ok self := by
  obtain ⟨bytes, bits, hge, hle, hbits⟩ := self
  have hsmall : ∀ b : UInt8, b ≤ 7 → b ∈ [0, 1, 2, 3, 4, 5, 6, 7] :=
    Byte.forall_of_fin (by decide +kernel)
  have hhalves : ∀ a ∈ ([0, 1, 2, 3, 4, 5, 6, 7] : List UInt8), ∀ b ∈ ([0, 1, 2, 3, 4, 5, 6, 7] :
      List UInt8), ((a <<< 4) ||| b) >>> 4 = a ∧ ((a <<< 4) ||| b) &&& 0x0F = b := by
    decide +kernel
  obtain ⟨hhi, hlo⟩ := hhalves bytes (hsmall bytes hle) bits (hsmall bits hbits)
  simp only [tryFrom, toByte, hhi, hlo]
  rw [dif_pos ⟨hge, hle⟩, dif_pos hbits]

/-- The NVB of a SELECT. -/
theorem NumberOfValidBits.toByte_of_has40DataBits {self : NumberOfValidBits}
    (h : self.has40DataBits = true) : self.toByte = 0x70 := by
  simp only [has40DataBits, Bool.and_eq_true, decide_eq_true_eq] at h
  rw [toByte, h.1, h.2]
  rfl

/-- An NVB is read as the byte it was. -/
theorem NumberOfValidBits.toByte_tryFrom {value : UInt8} {nvb : NumberOfValidBits}
    (h : tryFrom value = .ok nvb) : nvb.toByte = value := by
  have hjoin : ∀ v : UInt8, ((v >>> 4) <<< 4) ||| (v &&& 0x0F) = v :=
    Byte.forall_of_fin (by decide +kernel)
  unfold tryFrom at h
  split at h
  · split at h
    · cases h
      exact hjoin value
    · cases h
  · cases h

/-- The BCC is the byte that makes the five of them vanish. -/
theorem foldl_xor_eq_zero (a b c d e : UInt8) :
    [a, b, c, d, e].foldl (· ^^^ ·) 0 = 0 ↔ e = a ^^^ b ^^^ c ^^^ d := by
  simp only [List.foldl_cons, List.foldl_nil, UInt8.zero_xor, UInt8.xor_eq_zero_iff]
  exact eq_comm

namespace UidCl

/-- A UID level is five bytes. -/
theorem length_bytes (self : UidCl) : self.bytes.length = 5 := by
  cases self <;> rfl

/-- The parser, on five bytes. -/
theorem tryFrom_five (a b c d e : UInt8) : tryFrom [a, b, c, d, e] =
    if [a, b, c, d, e].foldl (· ^^^ ·) 0 ≠ 0 then .err .invalidBcc
    else if a = 0x88 then .ok (.next b c d) else .ok (.final a b c d) := rfl

/-- **A level is read back as it was written.** -/
theorem tryFrom_bytes {self : UidCl} (h : self.Parsed) : tryFrom self.bytes = .ok self := by
  cases self with
  | final a b c d =>
    have hbcc : [a, b, c, d, a ^^^ b ^^^ c ^^^ d].foldl (· ^^^ ·) 0 = 0 :=
      (foldl_xor_eq_zero _ _ _ _ _).mpr rfl
    rw [bytes, tryFrom_five, if_neg (not_not.mpr hbcc), if_neg h]
  | next a b c =>
    have hbcc : [0x88, a, b, c, a ^^^ b ^^^ c ^^^ 0x88].foldl (· ^^^ ·) 0 = 0 :=
      (foldl_xor_eq_zero _ _ _ _ _).mpr (by ac_rfl)
    rw [bytes, tryFrom_five, if_neg (not_not.mpr hbcc), if_pos rfl]

/-- **And only what `bytes` makes is read.** -/
theorem bytes_tryFrom {value : List UInt8} {uidCl : UidCl} (h : tryFrom value = .ok uidCl) :
    value = uidCl.bytes ∧ uidCl.Parsed := by
  match value with
  | [a, b, c, d, e] =>
    rw [tryFrom_five] at h
    split at h
    · cases h
    · rename_i hbcc
      have he : e = a ^^^ b ^^^ c ^^^ d := (foldl_xor_eq_zero _ _ _ _ _).mp (not_not.mp hbcc)
      split at h
      · rename_i htag
        cases h
        obtain rfl : a = 0x88 := htag
        refine ⟨?_, trivial⟩
        rw [he]
        show [_, _, _, _, _] = [_, _, _, _, _]
        congr 5
        show (0x88 : UInt8) ^^^ b ^^^ c ^^^ d = b ^^^ c ^^^ d ^^^ 0x88
        ac_rfl
      · rename_i htag
        cases h
        exact ⟨by rw [he]; rfl, htag⟩
  | [] | [_] | [_, _] | [_, _, _] | [_, _, _, _] | _ :: _ :: _ :: _ :: _ :: _ :: _ => cases h

end UidCl

namespace Cascade

/-- What `raw` makes: seven bytes, which fit any buffer. -/
theorem raw_eq [Build] (self : Cascade) (nvb : UInt8) :
    self.raw nvb = .ok (self.code :: nvb :: self.uidCl.bytes) := by
  have hpush : ∀ (v : FrameVec) (b : UInt8), v.length < 7 → tryPush frameCap v b = .ok (v ++ [b]) :=
    fun v b hv => tryPush_of_fits (fits_frameCap (by omega))
  rw [raw, hpush _ _ (by simp), Res.ok_bind, hpush _ _ (by simp), Res.ok_bind]
  cases self.uidCl with
  | final a b c d =>
    simp only
    rw [hpush _ _ (by simp), Res.ok_bind, hpush _ _ (by simp), Res.ok_bind, hpush _ _ (by simp),
      Res.ok_bind, hpush _ _ (by simp), Res.ok_bind, hpush _ _ (by simp)]
    rfl
  | next a b c =>
    simp only
    rw [hpush _ _ (by simp), Res.ok_bind, hpush _ _ (by simp), Res.ok_bind, hpush _ _ (by simp),
      Res.ok_bind, hpush _ _ (by simp), Res.ok_bind, hpush _ _ (by simp)]
    rfl

/-- The three SEL codes are known. -/
theorem checkSel_code (self : Cascade) : checkSel self.code = true := by
  cases self <;> rfl

/-- **A level is read back under its SEL.** -/
theorem tryFrom_code {self : Cascade} (h : self.uidCl.Parsed) {a b c d e : UInt8}
    (hb : self.uidCl.bytes = [a, b, c, d, e]) :
    tryFrom self.code #v[a, b, c, d, e] = .ok self := by
  have hread : UidCl.tryFromArray #v[a, b, c, d, e] = .ok self.uidCl := by
    show UidCl.tryFrom [a, b, c, d, e] = _
    rw [← hb, UidCl.tryFrom_bytes h]
  cases self with
  | level1 u => rw [tryFrom, code, if_pos rfl, hread]; rfl
  | level2 u => rw [tryFrom, code, if_neg (by decide), if_pos rfl, hread]; rfl
  | level3 u => rw [tryFrom, code, if_neg (by decide), if_neg (by decide), if_pos rfl, hread]; rfl

end Cascade

end Iso14443
