/-
  `src/type_a/pps.rs`: protocol and parameter selection, the one request answered outside the block
  layer.

  A PPS request is three bytes, or two without PPS1: the start byte with the CID in its lower half,
  a byte that says whether a third one follows, and the bit rate divisors.  The answer repeats the
  start byte.  `fromCrcVerified_bytes`: the card reads the parameters that the reader wrote.
-/
import Iso14443.Crc

namespace Iso14443

/-- `Dxi`: a bit rate divisor. -/
inductive Dxi where
  | dx1 | dx2 | dx4 | dx8
deriving DecidableEq, Repr

namespace Dxi

/-- `self as u8`. -/
def toByte : Dxi → UInt8
  | dx1 => 0 | dx2 => 1 | dx4 => 2 | dx8 => 3

/-- `TryFromPrimitive`. -/
def tryFrom (value : UInt8) : Option Dxi := [dx1, dx2, dx4, dx8][value.toNat]?

end Dxi

/-- `PpsParam`. -/
structure PpsParam where
  cid : Cid
  dri : Dxi
  dsi : Dxi
deriving DecidableEq, Repr

namespace PpsParam

/-- `From<&PpsParam> for u8`: PPS1. -/
def toByte (self : PpsParam) : UInt8 := (self.dsi.toByte <<< 2) ||| self.dri.toByte

/-- `from_crc_verified`: PPSS, PPS0 and the optional PPS1. -/
def fromCrcVerified (value : List UInt8) : Res TypeAError PpsParam := do
  if value.length < 2 then .err .invalidLength
  else do
    let ppss ← Res.index value 0
    let cid ← Res.okOr .other (Cid.new (ppss &&& 0x0F))
    let pps0 ← Res.index value 1
    if pps0 = 0x11 then
      if value.length ≠ 3 then .err .invalidLength
      else do
        let pps1 ← Res.index value 2
        let dsi ← Res.okOr .other (Dxi.tryFrom ((pps1 >>> 2) &&& 0b11))
        let dri ← Res.okOr .other (Dxi.tryFrom (pps1 &&& 0b11))
        .ok ⟨cid, dri, dsi⟩
    else if value.length ≠ 2 then .err .invalidLength
    else .ok ⟨cid, .dx1, .dx1⟩

/-- **The card reads what the reader wrote.** -/
theorem fromCrcVerified_bytes (self : PpsParam) :
    fromCrcVerified [0xd0 + self.cid.value, 0x11, self.toByte] = .ok self := by
  obtain ⟨cid, dri, dsi⟩ := self
  cases dri <;> cases dsi <;> revert cid <;> decide

/-- Reading a PPS parameter never panics. -/
theorem fromCrcVerified_returns (value : List UInt8) : (fromCrcVerified value).Returns := by
  unfold fromCrcVerified
  split
  · trivial
  · refine (Res.returns_index (by omega)).bind fun _ _ => ?_
    refine (Res.returns_okOr _ _).bind fun _ _ => ?_
    refine (Res.returns_index (by omega)).bind fun _ _ => ?_
    split
    · split
      · trivial
      · refine (Res.returns_index (by omega)).bind fun _ _ => ?_
        refine (Res.returns_okOr _ _).bind fun _ _ => ?_
        exact (Res.returns_okOr _ _).bind fun _ _ => trivial
    · split <;> trivial

end PpsParam

/-- `PpsResp::from_crc_verified`: the PPSS byte alone. -/
def PpsResp.fromCrcVerified (value : List UInt8) : Res TypeAError Cid :=
  match value with
  | [ppss] => Res.okOr .other (Cid.new (ppss &&& 0x0F))
  | _ => .err .invalidLength

/-- `TryFrom<&[u8]> for PpsResp`. -/
def PpsResp.tryFrom (value : List UInt8) : Res TypeAError Cid := do
  let body ← splitCrcA value
  PpsResp.fromCrcVerified body

/-- Reading the answer to a PPS never panics. -/
theorem PpsResp.fromCrcVerified_returns (value : List UInt8) :
    (PpsResp.fromCrcVerified value).Returns := by
  unfold PpsResp.fromCrcVerified
  split
  · exact Res.returns_okOr _ _
  · trivial

/-- Nor does it with the CRC_A still there. -/
theorem PpsResp.tryFrom_returns (value : List UInt8) : (PpsResp.tryFrom value).Returns :=
  (splitCrcA_returns value).bind fun body _ => PpsResp.fromCrcVerified_returns body

end Iso14443
