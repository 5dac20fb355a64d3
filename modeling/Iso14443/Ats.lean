/-
  `src/type_a/ats.rs` and `src/type_a/rats.rs`: what the two sides agree on when a session starts.

  The reader proposes a frame size (FSDI) and a CID in the parameter byte of RATS; the card answers
  with the ATS, which carries its own frame size (FSCI).  What the block protocol needs of them is
  that each side reads the frame size the other one wrote (`tryFrom_toByte`, `fsci_of_toBytes`),
  and that every frame size lies between 16 and 256.

  * **The parser** is a cursor: TL, then T0 if TL says there is one, then the interface bytes that
    T0 announces, and the historical bytes are what is left.  `takeIf` is one step of it.
  * **The encoder** writes the same fields, and patches TL in at the end; TL is one byte, so from
    256 bytes on it is wrong.
  * `bytes` is the layout, and `Canonical` what it takes of an `Ats` to come back as it was: only
    defined flags, and the defaults where a byte is not sent.

  The grammar of the bytes that are accepted is in `Iso14443.AtsGrammar`.
-/
import Iso14443.Crc

namespace Iso14443

/-! ## Frame sizes

  Both tables have the same nine values; what differs is which side announces them. -/

/-- `Fsci`: the frame size of the card, as coded in the ATS. -/
inductive Fsci where
  | fsc16 | fsc24 | fsc32 | fsc40 | fsc48 | fsc64 | fsc96 | fsc128 | fsc256
deriving DecidableEq, Repr

namespace Fsci

/-- `self as u8`. -/
def toByte : Fsci → UInt8
  | fsc16 => 0 | fsc24 => 1 | fsc32 => 2 | fsc40 => 3 | fsc48 => 4
  | fsc64 => 5 | fsc96 => 6 | fsc128 => 7 | fsc256 => 8

/-- `TryFromPrimitive`. -/
def tryFrom (value : UInt8) : Option Fsci :=
  [fsc16, fsc24, fsc32, fsc40, fsc48, fsc64, fsc96, fsc128, fsc256][value.toNat]?

/-- `fsc`: the largest frame the card accepts. -/
def fsc : Fsci → Nat
  | fsc16 => 16 | fsc24 => 24 | fsc32 => 32 | fsc40 => 40 | fsc48 => 48
  | fsc64 => 64 | fsc96 => 96 | fsc128 => 128 | fsc256 => 256

/-- A card's frame size is between 16 and 256 bytes. -/
theorem fsc_bounds (f : Fsci) : 16 ≤ f.fsc ∧ f.fsc ≤ 256 := by cases f <;> decide

end Fsci

/-- `Fsdi`: the frame size of the reader, as coded in RATS. -/
inductive Fsdi where
  | fsd16 | fsd24 | fsd32 | fsd40 | fsd48 | fsd64 | fsd96 | fsd128 | fsd256
deriving DecidableEq, Repr

namespace Fsdi

/-- `self as u8`. -/
def toByte : Fsdi → UInt8
  | fsd16 => 0 | fsd24 => 1 | fsd32 => 2 | fsd40 => 3 | fsd48 => 4
  | fsd64 => 5 | fsd96 => 6 | fsd128 => 7 | fsd256 => 8

/-- `TryFromPrimitive`. -/
def tryFrom (value : UInt8) : Option Fsdi :=
  [fsd16, fsd24, fsd32, fsd40, fsd48, fsd64, fsd96, fsd128, fsd256][value.toNat]?

/-- `fsd`: the largest frame the reader accepts. -/
def fsd : Fsdi → Nat
  | fsd16 => 16 | fsd24 => 24 | fsd32 => 32 | fsd40 => 40 | fsd48 => 48
  | fsd64 => 64 | fsd96 => 96 | fsd128 => 128 | fsd256 => 256

/-- So is a reader's. -/
theorem fsd_bounds (f : Fsdi) : 16 ≤ f.fsd ∧ f.fsd ≤ 256 := by cases f <;> decide

end Fsdi

/-! ## The parameter byte of RATS -/

/-- `RatsParam`. -/
structure RatsParam where
  fsdi : Fsdi
  cid : Cid
deriving DecidableEq, Repr

namespace RatsParam

/-- `From<&RatsParam> for u8`. -/
def toByte (self : RatsParam) : UInt8 := (self.fsdi.toByte <<< 4) ||| self.cid.value

/-- `TryFrom<u8> for RatsParam`. -/
def tryFrom (value : UInt8) : Res TypeAError RatsParam := do
  let fsdi ← Res.okOr .other (Fsdi.tryFrom (value >>> 4))
  let cid ← Res.okOr .other (Cid.new (value &&& 0x0F))
  .ok ⟨fsdi, cid⟩

/-- Reading the parameter of a RATS never panics. -/
theorem tryFrom_returns (value : UInt8) : (tryFrom value).Returns :=
  (Res.returns_okOr _ _).bind fun _ _ => (Res.returns_okOr _ _).bind fun _ _ => trivial

/-- **The card reads what the reader wrote.** -/
@[simp] theorem tryFrom_toByte (self : RatsParam) : tryFrom self.toByte = .ok self := by
  obtain ⟨fsdi, cid⟩ := self
  cases fsdi <;> revert cid <;> decide

end RatsParam

/-! ## The ATS

  T0 announces up to three interface bytes.  A byte that is not announced is not written, and is
  read as its default. -/

/-- `Format`: the frame size, and which interface bytes follow. -/
structure Format where
  fsci : Fsci := .fsc32
  taTransmitted : Bool := false
  tbTransmitted : Bool := false
  tcTransmitted : Bool := false
deriving DecidableEq, Repr

/-- `TryFrom<u8> for Format`. -/
def Format.tryFrom (value : UInt8) : Res TypeAError Format := do
  let fsci ← Res.okOr .other (Fsci.tryFrom (value &&& 0b00001111))
  .ok { fsci
        taTransmitted := value &&& 0b00010000 = 0b00010000
        tbTransmitted := value &&& 0b00100000 = 0b00100000
        tcTransmitted := value &&& 0b01000000 = 0b01000000 }

/-- Nor does reading a format byte. -/
theorem Format.tryFrom_returns (value : UInt8) : (Format.tryFrom value).Returns :=
  (Res.returns_okOr _ _).bind fun _ _ => trivial

/-- T0: the FSCI and the presence bits. -/
def Format.t0 (self : Format) : UInt8 :=
  let t0 := self.fsci.toByte
  let t0 := if self.taTransmitted then t0 ||| 0b00010000 else t0
  let t0 := if self.tbTransmitted then t0 ||| 0b00100000 else t0
  if self.tcTransmitted then t0 ||| 0b01000000 else t0

/-- T0 is read back as it was written. -/
@[simp] theorem Format.tryFrom_t0 (self : Format) : Format.tryFrom self.t0 = .ok self := by
  obtain ⟨fsci, ta, tb, tc⟩ := self
  cases fsci <;> revert ta tb tc <;> decide

/-- `Tb`: start-up guard time and frame waiting time, each in the range from 0 to 14. -/
structure Tb where
  sfgi : Fin 15 := 0
  fwi : Fin 15 := 4
deriving DecidableEq, Repr

/-- `TryFrom<u8> for Tb`; 15 is out of range for either half. -/
def Tb.tryFrom (value : UInt8) : Res TypeAError Tb := do
  let sfgi ← Res.okOr .other (Cid.new (value &&& 0x0F))
  let fwi ← Res.okOr .other (Cid.new (value >>> 4))
  .ok ⟨sfgi, fwi⟩

/-- Nor does reading a `Tb`. -/
theorem Tb.tryFrom_returns (value : UInt8) : (Tb.tryFrom value).Returns :=
  (Res.returns_okOr _ _).bind fun _ _ => (Res.returns_okOr _ _).bind fun _ _ => trivial

namespace Tc

/-- The defined flags of TC(1). -/
def nadSupp : UInt8 := 0b00000001

/-- `Tc::CID_SUPP`. -/
def cidSupp : UInt8 := 0b00000010

end Tc

/-- The defined flags of TA(1). -/
def taAll : UInt8 := 0b11110111

/-- `Ats`.  TA(1) and TC(1) are flag sets, kept as their bits. -/
structure Ats where
  length : UInt8 := 0
  format : Format
  ta : UInt8 := 0
  tb : Tb := {}
  tc : UInt8 := Tc.cidSupp
  historicalBytes : FrameVec := []
deriving DecidableEq, Repr

namespace Ats

/-- `Ats::new`: all interface bytes present. -/
def new (fsci : Fsci) (ta : UInt8) (tb : Tb) (tc : UInt8) : Ats where
  format := { fsci, taTransmitted := true, tbTransmitted := true, tcTransmitted := true }
  ta := ta
  tb := tb
  tc := tc

/-- `ats.tc.contains(Tc::CID_SUPP)`. -/
def cidSupported (self : Ats) : Bool := self.tc &&& Tc.cidSupp = Tc.cidSupp

/-- An interface byte that is written only when it is announced. -/
def pushIf [Build] (present : Bool) (data : FrameVec) (byte : UInt8) : Res TypeAError FrameVec :=
  if present then tryPush frameCap data byte else .ok data

/-- `to_bytes`: TL is patched in at the end, modulo 256. -/
def toBytes [Build] (self : Ats) : Res TypeAError FrameVec := do
  let data ← tryPush frameCap [] 0
  let data ← tryPush frameCap data self.format.t0
  let data ← pushIf self.format.taTransmitted data self.ta
  let data ← pushIf self.format.tbTransmitted data
    ((UInt8.ofNat self.tb.fwi.val <<< 4) ||| UInt8.ofNat self.tb.sfgi.val)
  let data ← pushIf self.format.tcTransmitted data self.tc
  let data ← tryExtend frameCap data self.historicalBytes
  .ok (data.set 0 (UInt8.ofNat data.length))

/-- `take_byte`: the byte at the cursor, and the cursor behind it. -/
def takeByte (body : List UInt8) (offset : Nat) : Res TypeAError (UInt8 × Nat) := do
  let byte ← Res.okOr .invalidLength body[offset]?
  .ok (byte, offset + 1)

/-- An interface byte that is read only when it is announced. -/
def takeIf {α : Type} (present : Bool) (body : List UInt8) (offset : Nat) (absent : α)
    (read : UInt8 → Res TypeAError α) : Res TypeAError (α × Nat) :=
  if present then do
    let (byte, offset) ← takeByte body offset
    let value ← read byte
    .ok (value, offset)
  else .ok (absent, offset)

/-- `from_crc_verified`. -/
def fromCrcVerified [Build] (body : List UInt8) : Res TypeAError Ats := do
  let length ← Res.okOr .invalidLength body.head?
  if length.toNat ≠ body.length then .err .invalidLength
  else do
    let (format, offset) ← takeIf (1 < length) body 1 {} Format.tryFrom
    let (ta, offset) ← takeIf format.taTransmitted body offset 0 fun b => .ok (b &&& taAll)
    let (tb, offset) ← takeIf format.tbTransmitted body offset {} Tb.tryFrom
    let (tc, offset) ← takeIf format.tcTransmitted body offset Tc.cidSupp
      fun b => .ok (b &&& (Tc.nadSupp ||| Tc.cidSupp))
    if offset ≤ body.length then do
      let historicalBytes ← tryExtend frameCap [] (body.drop offset)
      .ok { length, format, ta, tb, tc, historicalBytes }
    else .err .invalidLength

/-- `TryFrom<&[u8]> for Ats`. -/
def tryFrom [Build] (value : List UInt8) : Res TypeAError Ats := do
  let body ← splitCrcA value
  fromCrcVerified body

/-! ## The layout

  What `to_bytes` makes, as a list: TL and T0, then each interface byte if it is announced, then
  the historical bytes. -/

/-- An interface byte on the wire, if it is announced. -/
def optional (present : Bool) (byte : UInt8) : List UInt8 := if present then [byte] else []

/-- TB(1). -/
def tbByte (tb : Tb) : UInt8 := (UInt8.ofNat tb.fwi.val <<< 4) ||| UInt8.ofNat tb.sfgi.val

/-- What follows TL and T0: the interface bytes and the historical bytes. -/
def rest (self : Ats) : List UInt8 :=
  optional self.format.taTransmitted self.ta ++ (optional self.format.tbTransmitted (tbByte self.tb) ++
    (optional self.format.tcTransmitted self.tc ++ self.historicalBytes))

/-- The bytes of an ATS, with TL in front. -/
def bytes (self : Ats) : List UInt8 :=
  UInt8.ofNat (2 + self.rest.length) :: self.format.t0 :: self.rest

/-- An ATS is a length byte, a format byte and what that announces. -/
@[simp] theorem length_bytes (self : Ats) : self.bytes.length = 2 + self.rest.length := by
  simp [bytes]; omega

/-- An optional interface byte is pushed when it is present. -/
theorem pushIf_eq_ok [Build] {present : Bool} {v w : List UInt8} {b : UInt8}
    (h : pushIf present v b = .ok w) : w = v ++ optional present b := by
  cases present with
  | false => simpa [pushIf, optional, eq_comm] using h
  | true => exact (tryPush_eq_ok.mp h).2

/-- What `to_bytes` makes. -/
theorem toBytes_eq_ok [Build] {self : Ats} {data : FrameVec} (h : self.toBytes = .ok data) :
    data = self.bytes := by
  obtain ⟨d0, h0, h⟩ := Res.bind_eq_ok.mp h
  obtain ⟨d1, h1, h⟩ := Res.bind_eq_ok.mp h
  obtain ⟨d2, h2, h⟩ := Res.bind_eq_ok.mp h
  obtain ⟨d3, h3, h⟩ := Res.bind_eq_ok.mp h
  obtain ⟨d4, h4, h⟩ := Res.bind_eq_ok.mp h
  obtain ⟨d5, h5, h⟩ := Res.bind_eq_ok.mp h
  obtain ⟨-, rfl⟩ := tryPush_eq_ok.mp h0
  obtain ⟨-, rfl⟩ := tryPush_eq_ok.mp h1
  obtain rfl := pushIf_eq_ok h2
  obtain rfl := pushIf_eq_ok h3
  obtain rfl := pushIf_eq_ok h4
  obtain ⟨-, rfl⟩ := tryExtend_eq_ok.mp h5
  obtain rfl := Res.ok.inj h
  have hlen : ∀ n : Nat, n + 1 + 1 = 2 + n := fun n => by omega
  simp [bytes, rest, tbByte, hlen]

/-- Writing an ATS never panics. -/
theorem toBytes_returns [Build] (self : Ats) : self.toBytes.Returns := by
  have hpush : ∀ (present : Bool) (v : FrameVec) (b : UInt8), (pushIf present v b).Returns := by
    intro present v b
    cases present with
    | false => trivial
    | true => exact tryExtend_returns _ _ _
  refine (tryExtend_returns _ _ _).bind fun _ _ => ?_
  refine (tryExtend_returns _ _ _).bind fun _ _ => ?_
  refine (hpush _ _ _).bind fun _ _ => (hpush _ _ _).bind fun _ _ => ?_
  refine (hpush _ _ _).bind fun _ _ => (tryExtend_returns _ _ _).bind fun _ _ => ?_
  trivial

/-- Reading an optional byte never panics when reading the byte does not. -/
theorem takeIf_returns {α : Type} (present : Bool) (body : List UInt8) (offset : Nat) (absent : α)
    {read : UInt8 → Res TypeAError α} (hread : ∀ b, (read b).Returns) :
    (takeIf present body offset absent read).Returns := by
  unfold takeIf
  split
  · refine Res.Returns.bind ((Res.returns_okOr _ _).bind fun _ _ => trivial) fun p _ => ?_
    exact (hread p.1).bind fun _ _ => trivial
  · trivial

/-- **No bytes make the parser panic.** -/
theorem fromCrcVerified_returns [Build] (body : List UInt8) : (fromCrcVerified body).Returns := by
  refine (Res.returns_okOr _ _).bind fun length _ => ?_
  dsimp only
  split
  · trivial
  · refine (takeIf_returns _ _ _ _ Format.tryFrom_returns).bind fun p _ => ?_
    refine (takeIf_returns _ _ _ _ fun _ => Res.returns_ok _).bind fun p _ => ?_
    refine (takeIf_returns _ _ _ _ Tb.tryFrom_returns).bind fun p _ => ?_
    refine (takeIf_returns _ _ _ _ fun _ => Res.returns_ok _).bind fun p _ => ?_
    split
    · exact (tryExtend_returns _ _ _).bind fun _ _ => trivial
    · trivial

/-- `Ats::try_from` has no panic on any bytes. -/
theorem tryFrom_returns [Build] (value : List UInt8) : (tryFrom value).Returns :=
  (splitCrcA_returns value).bind fun body _ => fromCrcVerified_returns body

/-! ## The way through the ATS

  First the one field the block protocol needs, whatever else the ATS says; then all of them, for
  an ATS that is canonical. -/

/-- **Whoever reads an ATS reads the frame size that was written**, and the same presence bits: the
    byte T0 comes back as it was, whatever the rest of the ATS is. -/
theorem fsci_of_toBytes [Build] {self ats : Ats} {data : FrameVec} (hw : self.toBytes = .ok data)
    (hr : fromCrcVerified data = .ok ats) : ats.format = self.format := by
  obtain rfl := toBytes_eq_ok hw
  obtain ⟨length, hlen, hr⟩ := Res.bind_eq_ok.mp hr
  split at hr
  · cases hr
  · rename_i hne
    have hne := not_not.mp hne
    have hlong : 1 < length := by
      rw [UInt8.lt_iff_toNat_lt, hne, length_bytes]
      exact Nat.lt_add_right _ (by decide)
    obtain ⟨⟨format, offset⟩, hf, hr⟩ := Res.bind_eq_ok.mp hr
    obtain ⟨⟨ta, offset⟩, -, hr⟩ := Res.bind_eq_ok.mp hr
    obtain ⟨⟨tb, offset⟩, -, hr⟩ := Res.bind_eq_ok.mp hr
    obtain ⟨⟨tc, offset⟩, -, hr⟩ := Res.bind_eq_ok.mp hr
    have hformat : format = self.format := by
      have ht0 : self.bytes[1]? = some self.format.t0 := rfl
      simp only [takeIf, hlong, decide_true, if_true, takeByte, ht0, Res.okOr_some, Res.ok_bind,
        Format.tryFrom_t0] at hf
      cases hf
      rfl
    dsimp only at hr
    split at hr
    · obtain ⟨hist, -, hr⟩ := Res.bind_eq_ok.mp hr
      cases hr
      exact hformat
    · cases hr

/-- Only defined flags, and the defaults where an interface byte is not sent.  These are the values
    that parsing can give: what an ATS says beyond them is lost on the way, since bits without a
    name are cut off and a byte that is not announced is not sent. -/
structure Canonical (ats : Ats) : Prop where
  ta : ats.ta &&& taAll = ats.ta
  tc : ats.tc &&& (Tc.nadSupp ||| Tc.cidSupp) = ats.tc
  taAbsent : ats.format.taTransmitted = false → ats.ta = 0
  tbAbsent : ats.format.tbTransmitted = false → ats.tb = {}
  tcAbsent : ats.format.tcTransmitted = false → ats.tc = Tc.cidSupp

/-- An ATS from `new`, whatever its historical bytes. -/
theorem canonical_new (fsci : Fsci) {ta tc : UInt8} (tb : Tb) (hta : ta &&& taAll = ta)
    (htc : tc &&& (Tc.nadSupp ||| Tc.cidSupp) = tc) (historicalBytes : FrameVec) :
    ({ new fsci ta tb tc with historicalBytes } : Ats).Canonical := by
  refine ⟨hta, htc, ?_, ?_, ?_⟩ <;> exact fun h => by cases h

/-- TB(1) is read back as it was written. -/
@[simp] theorem tryFrom_tbByte (tb : Tb) : Tb.tryFrom (tbByte tb) = .ok tb := by
  obtain ⟨sfgi, fwi⟩ := tb
  revert sfgi fwi
  decide +kernel

/-- An announced byte is read, and the cursor moves behind it. -/
theorem takeIf_optional {α : Type} {present : Bool} {b : UInt8} {absent v : α}
    {read : UInt8 → Res TypeAError α} {body pre post : List UInt8} (hread : read b = .ok v)
    (habsent : present = false → v = absent) (hbody : body = pre ++ (optional present b ++ post)) :
    takeIf present body pre.length absent read =
      .ok (v, (pre ++ optional present b).length) := by
  subst hbody
  cases present with
  | false => simp [takeIf, optional, habsent rfl]
  | true => simp [takeIf, takeByte, optional, hread]

/-- **Reading an ATS back.** What is canonical and short enough for TL comes back field by field,
    with TL filled in. -/
theorem fromCrcVerified_bytes [Build] {self : Ats} (h : self.Canonical)
    (hlen : self.bytes.length ≤ 255) :
    fromCrcVerified self.bytes = .ok { self with length := UInt8.ofNat self.bytes.length } := by
  have hdata := self.length_bytes
  have htl : (UInt8.ofNat (2 + self.rest.length)).toNat = self.bytes.length := by
    rw [UInt8.toNat_ofNat']
    omega
  have hlong : 1 < UInt8.ofNat (2 + self.rest.length) := by
    rw [UInt8.lt_iff_toNat_lt, htl, hdata]
    exact Nat.lt_add_right _ (by decide)
  have hhead : self.bytes.head? = some (UInt8.ofNat (2 + self.rest.length)) := rfl
  -- the cursor, field by field
  let pre0 : List UInt8 := [UInt8.ofNat (2 + self.rest.length), self.format.t0]
  let pre1 := pre0 ++ optional self.format.taTransmitted self.ta
  let pre2 := pre1 ++ optional self.format.tbTransmitted (tbByte self.tb)
  let pre3 := pre2 ++ optional self.format.tcTransmitted self.tc
  have hbytes : self.bytes = pre3 ++ self.historicalBytes := by
    simp [bytes, rest, pre3, pre2, pre1, pre0]
  have hformat : takeIf (1 < UInt8.ofNat (2 + self.rest.length)) self.bytes 1 {} Format.tryFrom =
      .ok (self.format, pre0.length) := by
    have ht0 : self.bytes[1]? = some self.format.t0 := rfl
    simp only [takeIf, hlong, decide_true, if_true, takeByte, ht0, Res.okOr_some, Res.ok_bind,
      Format.tryFrom_t0]
    rfl
  have hta : takeIf self.format.taTransmitted self.bytes pre0.length 0
      (fun b => .ok (b &&& taAll)) = .ok (self.ta, pre1.length) :=
    takeIf_optional (congrArg Res.ok h.ta) h.taAbsent (by rw [hbytes]; simp [pre3, pre2, pre1]; rfl)
  have htb : takeIf self.format.tbTransmitted self.bytes pre1.length {} Tb.tryFrom =
      .ok (self.tb, pre2.length) :=
    takeIf_optional (tryFrom_tbByte self.tb) h.tbAbsent (by rw [hbytes]; simp [pre3, pre2]; rfl)
  have htc : takeIf self.format.tcTransmitted self.bytes pre2.length Tc.cidSupp
      (fun b => .ok (b &&& (Tc.nadSupp ||| Tc.cidSupp))) = .ok (self.tc, pre3.length) :=
    takeIf_optional (congrArg Res.ok h.tc) h.tcAbsent (by rw [hbytes]; simp [pre3]; rfl)
  have hrest : pre3.length ≤ self.bytes.length := by rw [hbytes]; simp
  have hhist : tryExtend frameCap [] (self.bytes.drop pre3.length) = .ok self.historicalBytes := by
    have hle : self.historicalBytes.length ≤ 255 := by
      rw [hbytes, List.length_append] at hlen
      omega
    rw [hbytes, List.drop_left]
    exact tryExtend_of_fits (fits_frameCap (by simpa using Nat.le_succ_of_le hle))
  simp only [fromCrcVerified, hhead, Res.okOr_some, Res.ok_bind, htl, ne_eq, not_true, if_false,
    hformat, hta, htb, htc, if_pos hrest, hhist]
  rw [hdata]

end Ats

end Iso14443
