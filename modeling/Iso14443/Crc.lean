/-
  `src/type_a/crc.rs`: the CRC_A epilogue of standard frames.

  `crcA` is the bit-serial register of the source: a byte is xored in, eight bits are shifted out.
  What the block protocol needs of it is little, and none of it looks inside the register:

  * `appendCrcA` adds two bytes or fails for want of room, and nothing else (`appendCrcA_eq_ok`);
  * `splitCrcA` opens exactly the frames that `appendCrcA` closes (`splitCrcA_eq_ok`).  It may
    compare the two bytes with those it computes over the rest, whatever the CRC is;
  * `closed` is the frame as a transceiver is given it: with support in hardware the two bytes are
    the transceiver's business.

  Which errors of the air the CRC_A catches is another matter, for `Iso14443.CrcBurst`.
-/
import Iso14443.Basic

namespace Iso14443

/-- One bit of the shift register, `POLY = 0x8408`. -/
def crcShift (crc : UInt16) : UInt16 :=
  if crc &&& 0x0001 ≠ 0 then (crc >>> 1) ^^^ 0x8408 else crc >>> 1

/-- One byte: it is xored in, then eight bits are shifted out. -/
def crcByte (crc : UInt16) (b : UInt8) : UInt16 :=
  Nat.repeat crcShift 8 (crc ^^^ b.toUInt16)

/-- `crc_a`: the register after all bytes, low byte first. -/
def crcA (data : List UInt8) : UInt8 × UInt8 :=
  let crc := data.foldl crcByte 0x6363
  ((crc &&& 0x00FF).toUInt8, (crc >>> 8).toUInt8)

/-- `split_crc_a`: the data of a frame whose last two bytes are the CRC_A over it. -/
def splitCrcA (frame : List UInt8) : Res TypeAError (List UInt8) := do
  if frame.length < 2 then .err .invalidLength
  else
    let dataLen := frame.length - 2
    let data := frame.take dataLen
    let crc := frame.drop dataLen
    let good := crcA data
    let crc0 ← Res.index crc 0
    let crc1 ← Res.index crc 1
    if good ≠ (crc0, crc1) then .err (.invalidCrc good)
    else .ok data

/-- `append_crc_a`. -/
def appendCrcA [Build] (data : List UInt8) : Res TypeAError FrameVec := do
  let res ← tryExtend frameCap [] data
  let res ← tryPush frameCap res (crcA data).1
  tryPush frameCap res (crcA data).2

/-- The frame that carries `data`: the CRC_A is software's business without hardware support. -/
def frameOf [Build] (hwCrc : Bool) (data : List UInt8) : Res TypeAError Frame :=
  if hwCrc then .ok (.standard data)
  else do
    let data ← appendCrcA data
    .ok (.standard data)

/-- What `append_crc_a` makes, when the buffer holds it. -/
def withCrc (data : List UInt8) : List UInt8 := data ++ [(crcA data).1, (crcA data).2]

/-- A CRC_A is two bytes. -/
@[simp] theorem length_withCrc (data : List UInt8) : (withCrc data).length = data.length + 2 := by
  simp [withCrc]

/-- Both bytes are pushed when there is room for both. -/
theorem appendCrcA_of_fits [Build] {data : List UInt8} (h : Fits frameCap (data.length + 2)) :
    appendCrcA data = .ok (withCrc data) := by
  have h0 : Fits frameCap (([] : List UInt8).length + data.length) := h.mono (by simp)
  have h1 : Fits frameCap (([] ++ data).length + 1) := h.mono (by simp)
  have h2 : Fits frameCap (([] ++ data ++ [(crcA data).1]).length + 1) := h.mono (by simp)
  simp only [appendCrcA]
  rw [tryExtend_of_fits h0, Res.ok_bind, tryPush_of_fits h1, Res.ok_bind, tryPush_of_fits h2]
  simp [withCrc]

/-- A CRC_A is appended whole or not at all. -/
theorem appendCrcA_eq_ok [Build] {data w : List UInt8} :
    appendCrcA data = .ok w ↔ Fits frameCap (data.length + 2) ∧ w = withCrc data := by
  constructor
  · intro h
    obtain ⟨_, h0, h⟩ := Res.bind_eq_ok.mp h
    obtain ⟨_, h1, h2⟩ := Res.bind_eq_ok.mp h
    obtain ⟨-, rfl⟩ := tryExtend_eq_ok.mp h0
    obtain ⟨-, rfl⟩ := tryPush_eq_ok.mp h1
    obtain ⟨hf, rfl⟩ := tryPush_eq_ok.mp h2
    exact ⟨by simpa using hf, by simp [withCrc]⟩
  · rintro ⟨hf, rfl⟩
    exact appendCrcA_of_fits hf

/-- The bytes a transceiver is given: hardware closes the frame itself. -/
def closed (hwCrc : Bool) (data : List UInt8) : List UInt8 := if hwCrc then data else withCrc data

/-- How long a frame is once the side that sends it has closed it. -/
theorem length_closed (hwCrc : Bool) (data : List UInt8) :
    (closed hwCrc data).length = data.length + if hwCrc then 0 else 2 := by
  cases hwCrc <;> simp [closed]

/-- Short data always makes a frame. -/
theorem frameOf_of_fits [Build] (hwCrc : Bool) {data : List UInt8} (h : data.length + 2 ≤ 256) :
    frameOf hwCrc data = .ok (.standard (closed hwCrc data)) := by
  cases hwCrc with
  | true => rfl
  | false =>
    rw [frameOf, if_neg (by simp), appendCrcA_of_fits (fits_frameCap h)]
    rfl

/-- Opening a closed frame gives the data back. -/
@[simp] theorem splitCrcA_withCrc (data : List UInt8) : splitCrcA (withCrc data) = .ok data := by
  simp [splitCrcA, withCrc]

/-- Only closed frames open. -/
theorem splitCrcA_eq_ok {frame data : List UInt8} :
    splitCrcA frame = .ok data ↔ frame = withCrc data := by
  constructor
  · intro h
    unfold splitCrcA at h
    split at h
    · exact absurd h (by simp)
    · rename_i hlen
      have hdrop : (frame.drop (frame.length - 2)).length = 2 := by
        rw [List.length_drop]; omega
      obtain ⟨a, b, hab⟩ := List.length_eq_two.mp hdrop
      simp only [hab, Res.index_zero_cons, Res.index_one_cons, Res.ok_bind] at h
      split at h
      · exact absurd h (by simp)
      · rename_i hgood
        have hgood := not_not.mp hgood
        obtain rfl : frame.take (frame.length - 2) = data := by simpa using h
        rw [withCrc, hgood, ← hab, List.take_append_drop]
  · rintro rfl
    exact splitCrcA_withCrc data

/-- Neither direction panics. -/
theorem splitCrcA_returns (frame : List UInt8) : (splitCrcA frame).Returns := by
  unfold splitCrcA
  split
  · trivial
  · rename_i hlen
    have hdrop : (frame.drop (frame.length - 2)).length = 2 := by
      rw [List.length_drop]; omega
    refine (Res.returns_index (by omega)).bind fun _ _ => ?_
    refine (Res.returns_index (by omega)).bind fun _ _ => ?_
    split <;> trivial

/-- A frame without room for its CRC_A is an error, never a panic. -/
theorem appendCrcA_returns [Build] (data : List UInt8) : (appendCrcA data).Returns :=
  (tryExtend_returns _ _ _).bind fun _ _ => (tryExtend_returns _ _ _).bind fun _ _ =>
    tryExtend_returns _ _ _

/-- A frame is made of the data, or an error returned. -/
theorem frameOf_returns [Build] (hwCrc : Bool) (data : List UInt8) : (frameOf hwCrc data).Returns := by
  unfold frameOf
  split
  · trivial
  · exact (appendCrcA_returns data).bind fun _ _ => trivial

example : crcA [0x50, 0x00] = (0x57, 0xcd) := by decide +kernel

end Iso14443
