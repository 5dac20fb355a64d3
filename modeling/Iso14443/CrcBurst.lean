/-
  `src/type_a/crc.rs`: which errors the CRC_A catches.

  1. **The register.**  The bit-serial register of `crc_a` is a shift register of 16 bits, fed with
     the bits of the frame in the order in which they are transmitted, each byte lowest bit first
     (`foldl_crcByte`).  Everything further is about shift registers in general
     (`Iso14443.Lib.ShiftRegister`), at the polynomial of the source.
  2. **A whole frame.**  Fed with a frame, its two CRC bytes included, the register ends at zero
     (`register_withCrc`).
  3. **The crux.**  The register is linear: what is xored into the frame is xored into the register,
     from zero.  So an error gets past `split_crc_a` only if, fed to an empty register, it leaves it
     empty.  Before the burst the register stays empty.  A burst within 16 bits is as good as its own
     bits put into the register (`run_eq_run_xor`), which is then not zero; and from there on nothing
     gets lost, since the last bit of the polynomial is set and a shift can be undone.

  `splitCrcA_burst` is the result, for frames and bursts of any place and any length up to 16 bits.
-/
import Iso14443.Crc
import Iso14443.Lib.ShiftRegister

namespace Iso14443

open ShiftRegister

/-- `POLY`. -/
def crcPoly : BitVec 16 := 0x8408#16

/-- The bits of a byte as they are transmitted. -/
def bitsOf (b : UInt8) : List Bool := (List.range 8).map b.toBitVec.getLsbD

/-- The bits of a frame as they are transmitted. -/
def transmitted (frame : List UInt8) : List Bool := frame.flatMap bitsOf

/-- A byte is eight bits on the air. -/
@[simp] theorem length_bitsOf (b : UInt8) : (bitsOf b).length = 8 := by simp [bitsOf]

/-- Bytes go out one after the other. -/
@[simp] theorem transmitted_cons (b : UInt8) (frame : List UInt8) :
    transmitted (b :: frame) = bitsOf b ++ transmitted frame := rfl

/-- How many bits a frame is on the air. -/
theorem length_transmitted (frame : List UInt8) : (transmitted frame).length = 8 * frame.length := by
  induction frame with
  | nil => rfl
  | cons b frame ih => rw [transmitted_cons, List.length_append, ih, length_bitsOf, List.length_cons]; omega

/-! ## The register of the source

  Bits and bytes of the source against the general register: the source xors a byte in and shifts
  eight times, the register takes one bit after the other. -/

/-- One step of the loop of `calculate_crc_a` is one shift of the register. -/
theorem crcShift_toBitVec (crc : UInt16) : (crcShift crc).toBitVec = shift crcPoly crc.toBitVec := by
  have hlow : crc &&& 0x0001 ≠ 0 ↔ crc.toBitVec.getLsbD 0 = true := by
    rw [ne_eq, ← UInt16.toBitVec_inj, UInt16.toBitVec_and]
    show ¬ crc.toBitVec &&& 1#16 = 0#16 ↔ _
    rw [BitVec.and_one_eq_setWidth_ofBool_getLsbD]
    cases crc.toBitVec.getLsbD 0 <;> decide
  rw [crcShift, shift]
  by_cases h : crc &&& 0x0001 ≠ 0
  · rw [if_pos h, if_pos (hlow.mp h)]
    rfl
  · rw [if_neg h, if_neg (fun hb => h (hlow.mpr hb))]
    rfl

/-- Shifting is feeding zeros. -/
theorem repeat_crcShift (k : Nat) (crc : UInt16) :
    (Nat.repeat crcShift k crc).toBitVec = run crcPoly crc.toBitVec (List.replicate k false) := by
  induction k with
  | zero => rfl
  | succ k ih =>
    rw [List.replicate_succ', run_append, ← ih]
    show (crcShift (Nat.repeat crcShift k crc)).toBitVec = feed crcPoly _ false
    rw [crcShift_toBitVec, feed, bit_false, BitVec.xor_zero]

/-- The bits of a byte go out with the least significant one first. -/
theorem getD_bitsOf (b : UInt8) (i : Nat) : (bitsOf b).getD i false = b.toBitVec.getLsbD i := by
  rw [List.getD_eq_getElem?_getD]
  by_cases h : i < 8
  · rw [List.getElem?_eq_getElem (by simpa using h)]
    simp [bitsOf]
  · rw [List.getElem?_eq_none (by simpa using h), BitVec.getLsbD_of_ge _ _ (Nat.not_lt.mp h)]
    rfl

/-- One byte is eight bits. -/
theorem crcByte_toBitVec (crc : UInt16) (b : UInt8) :
    (crcByte crc b).toBitVec = run crcPoly crc.toBitVec (bitsOf b) := by
  have hword : (word (bitsOf b) : BitVec 16) = b.toUInt16.toBitVec := by
    apply BitVec.eq_of_getLsbD_eq
    intro i hi
    rw [getLsbD_word _ hi, getD_bitsOf, UInt8.toBitVec_toUInt16, BitVec.getLsbD_setWidth]
    simp [hi]
  have hrun : run crcPoly crc.toBitVec (bitsOf b) = run crcPoly (crc.toBitVec ^^^ word (bitsOf b))
      (List.replicate (bitsOf b).length false) := run_eq_run_xor (by simp)
  rw [hrun, hword, length_bitsOf, crcByte, repeat_crcShift, UInt16.toBitVec_xor]

/-- The CRC of a frame is the register after all its transmitted bits. -/
theorem foldl_crcByte (frame : List UInt8) (crc : UInt16) :
    (frame.foldl crcByte crc).toBitVec = run crcPoly crc.toBitVec (transmitted frame) := by
  induction frame generalizing crc with
  | nil => rfl
  | cons b frame ih => rw [List.foldl_cons, ih, crcByte_toBitVec, transmitted_cons, run_append]

/-! ## The register of a whole frame

  The two CRC bytes are the register itself, low byte first, so feeding them cancels it. -/

/-- The two CRC bytes are the bits of the register, lowest first. -/
theorem word_crc (crc : UInt16) :
    (word (bitsOf (crc &&& 0x00FF).toUInt8 ++ bitsOf (crc >>> 8).toUInt8) : BitVec 16) =
      crc.toBitVec := by
  apply BitVec.eq_of_getLsbD_eq
  intro i hi
  rw [getLsbD_word _ hi, List.getD_eq_getElem?_getD]
  by_cases h : i < 8
  · rw [List.getElem?_append_left (by simpa using h), ← List.getD_eq_getElem?_getD, getD_bitsOf]
    have hall : ∀ i : Fin 8, (0x00FF#16).getLsbD i = true := by decide
    have hmask : (0x00FF#16).getLsbD i = true := hall ⟨i, h⟩
    rw [UInt16.toBitVec_toUInt8, UInt16.toBitVec_and, BitVec.getLsbD_setWidth, BitVec.getLsbD_and]
    show (decide (i < 8) && (crc.toBitVec.getLsbD i && (0x00FF#16).getLsbD i)) = _
    rw [hmask, Bool.and_true, decide_eq_true h, Bool.true_and]
  · rw [List.getElem?_append_right (by simpa using h), ← List.getD_eq_getElem?_getD, getD_bitsOf,
      length_bitsOf, UInt16.toBitVec_toUInt8, BitVec.getLsbD_setWidth]
    have hlt : i - 8 < 8 := by omega
    have hadd : 8 + (i - 8) = i := by omega
    show (decide (i - 8 < 8) && (crc.toBitVec >>> 8).getLsbD (i - 8)) = _
    rw [BitVec.getLsbD_ushiftRight, hadd, decide_eq_true hlt, Bool.true_and]

/-- **A frame with its CRC_A leaves the register at zero.** -/
theorem register_withCrc (data : List UInt8) :
    run crcPoly (0x6363 : UInt16).toBitVec (transmitted (withCrc data)) = 0#16 := by
  have hfalse : ∀ b ∈ List.replicate 16 false, b = false := by
    intro b hb
    exact List.eq_of_mem_replicate hb
  rw [withCrc, transmitted, List.flatMap_append, run_append]
  rw [← transmitted, ← foldl_crcByte]
  generalize hcrc : data.foldl crcByte 0x6363 = crc
  have hbits : List.flatMap bitsOf [(crcA data).1, (crcA data).2] =
      bitsOf (crc &&& 0x00FF).toUInt8 ++ bitsOf (crc >>> 8).toUInt8 := by
    rw [← hcrc]
    simp [crcA]
  rw [hbits, run_eq_run_xor (by simp), word_crc, BitVec.xor_self, List.length_append, length_bitsOf,
    length_bitsOf]
  exact run_zero hfalse

/-! ## Errors

  An error is a frame of the same length, with ones where bits are flipped on the air. -/

/-- The frame with the bits of `error` flipped. -/
def corrupt (frame error : List UInt8) : List UInt8 := List.zipWith (· ^^^ ·) frame error

/-- An error is added to a byte bit by bit. -/
theorem bitsOf_xor (a b : UInt8) :
    bitsOf (a ^^^ b) = List.zipWith (· ^^ ·) (bitsOf a) (bitsOf b) := by
  simp [bitsOf]

/-- A corrupted frame is on the air the sum of the frame and the error. -/
theorem transmitted_corrupt {frame error : List UInt8} (h : error.length = frame.length) :
    transmitted (corrupt frame error) =
      List.zipWith (· ^^ ·) (transmitted frame) (transmitted error) := by
  induction frame generalizing error with
  | nil => rfl
  | cons a frame ih =>
    cases error with
    | nil => cases h
    | cons b error =>
      rw [transmitted_cons, transmitted_cons, List.zipWith_append (by simp), ← bitsOf_xor,
        ← ih (Nat.succ.inj h)]
      rfl

/-- An error that gets past the check leaves the register at zero. -/
theorem register_of_undetected {data data' error : List UInt8}
    (hlen : error.length = (withCrc data).length)
    (h : corrupt (withCrc data) error = withCrc data') :
    run crcPoly 0#16 (transmitted error) = 0#16 := by
  have hbits : (transmitted (withCrc data)).length = (transmitted error).length := by
    rw [length_transmitted, length_transmitted, hlen]
  have hrun : run crcPoly ((0x6363 : UInt16).toBitVec ^^^ 0#16)
      (List.zipWith (· ^^ ·) (transmitted (withCrc data)) (transmitted error)) =
      run crcPoly (0x6363 : UInt16).toBitVec (transmitted (withCrc data)) ^^^
        run crcPoly 0#16 (transmitted error) := run_xor hbits
  rw [← transmitted_corrupt hlen, h, BitVec.xor_zero, register_withCrc, register_withCrc,
    BitVec.zero_xor] at hrun
  exact hrun.symm

/-- What is long enough either opens or has a wrong CRC. -/
theorem splitCrcA_eq_err {frame : List UInt8} (hlen : 2 ≤ frame.length)
    (h : ∀ data, frame ≠ withCrc data) : ∃ good, splitCrcA frame = .err (.invalidCrc good) := by
  have hdrop : (frame.drop (frame.length - 2)).length = 2 := by
    rw [List.length_drop]
    omega
  obtain ⟨a, b, hab⟩ := List.length_eq_two.mp hdrop
  have hsplit : splitCrcA frame =
      if crcA (frame.take (frame.length - 2)) ≠ (a, b)
      then .err (.invalidCrc (crcA (frame.take (frame.length - 2))))
      else .ok (frame.take (frame.length - 2)) := by
    rw [splitCrcA, if_neg (Nat.not_lt.mpr hlen)]
    simp only [hab, Res.index_zero_cons, Res.index_one_cons, Res.ok_bind]
  split at hsplit
  · exact ⟨_, hsplit⟩
  · exact absurd (splitCrcA_eq_ok.mp hsplit) (h _)

/-- **A burst within 16 bits is caught**, wherever it lies. -/
theorem splitCrcA_burst [Build] {data frame : List UInt8} (h : appendCrcA data = .ok frame) :
    splitCrcA frame = .ok data ∧
      ∀ error, error.length = frame.length → Burst 16 (transmitted error) →
        ∃ good, splitCrcA (corrupt frame error) = .err (.invalidCrc good) := by
  obtain ⟨-, rfl⟩ := appendCrcA_eq_ok.mp h
  refine ⟨splitCrcA_withCrc data, ?_⟩
  intro error hlen hburst
  apply splitCrcA_eq_err
  · rw [corrupt, List.length_zipWith, hlen, Nat.min_self, length_withCrc]
    omega
  · intro data' h'
    exact run_burst_ne rfl hburst (register_of_undetected hlen h')

/-- Sixteen bits, from the last one of the data into the second CRC byte. -/
theorem splitCrcA_burst_straddling : let : Build := Build.heapless
    ∃ good, splitCrcA (corrupt [0x50, 0x00, 0x57, 0xcd] [0x00, 0x80, 0xff, 0x7f]) =
      .err (.invalidCrc good) := by
  intro _
  have hframe : appendCrcA [0x50, 0x00] = .ok [0x50, 0x00, 0x57, 0xcd] := by decide +kernel
  refine (splitCrcA_burst hframe).2 [0x00, 0x80, 0xff, 0x7f] rfl ⟨by decide, 15, ?_⟩
  intro i hi
  have hlt := (List.getElem?_eq_some_iff.mp hi).1
  rw [length_transmitted] at hlt
  have hall : ∀ i : Fin 32, (transmitted [0x00, 0x80, 0xff, 0x7f])[i.val]? = some true →
      15 ≤ i.val ∧ i.val < 15 + 16 := by decide +kernel
  exact hall ⟨i, hlt⟩ hi

end Iso14443
