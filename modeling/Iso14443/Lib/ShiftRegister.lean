/-
  Shift registers with feedback, as checksums are computed with.

  A register of `n` bits takes one bit at a time: the bit is xored into its lowest place, everything
  moves down by one, and if a one falls out the polynomial is xored in.

  * `run_xor`       — the register is linear: two registers fed side by side stay their exclusive or.
  * `feed_false_ne` — with the highest bit of the polynomial set nothing is lost: a register that is
                      not zero never becomes zero while it is fed zeros.
  * `run_eq_run_xor` — the next `n` bits may be xored in all at once, before any of them is fed.
  * `run_burst_ne`  — a burst of at most `n` bits, with zeros on both sides, leaves a register that is
                      not zero.  This is the error detection of the checksum.
-/
import Mathlib.Init

namespace ShiftRegister

variable {n : Nat} {poly r s : BitVec n}

/-- One place down. -/
def shift (poly r : BitVec n) : BitVec n := if r.getLsbD 0 then (r >>> 1) ^^^ poly else r >>> 1

/-- A bit in the lowest place. -/
def bit (b : Bool) : BitVec n := if b then 1#n else 0#n

/-- One bit is taken in. -/
def feed (poly r : BitVec n) (b : Bool) : BitVec n := shift poly (r ^^^ bit b)

/-- All bits of a list are taken in, the first one first. -/
def run (poly r : BitVec n) (bits : List Bool) : BitVec n := bits.foldl (feed poly) r

/-- No bit leaves the register as it is. -/
@[simp] theorem run_nil : run poly r [] = r := rfl
/-- The first bit is fed first. -/
@[simp] theorem run_cons (b : Bool) (bits : List Bool) :
    run poly r (b :: bits) = run poly (feed poly r b) bits := rfl

/-- Bits one after the other. -/
theorem run_append (xs ys : List Bool) : run poly r (xs ++ ys) = run poly (run poly r xs) ys :=
  List.foldl_append

/-! ## The register is linear

  Shifting, feeding and running, each in turn. -/

/-- Four words, with the middle two exchanged. -/
theorem xor_xor_xor_comm (a b c d : BitVec n) : a ^^^ b ^^^ (c ^^^ d) = a ^^^ c ^^^ (b ^^^ d) := by
  ac_rfl

/-- **A shift is linear**: it treats two registers apart and together alike. -/
theorem shift_xor : shift poly (r ^^^ s) = shift poly r ^^^ shift poly s := by
  simp only [shift, BitVec.getLsbD_xor, BitVec.ushiftRight_xor_distrib]
  cases r.getLsbD 0 <;> cases s.getLsbD 0
  · rfl
  · simp [BitVec.xor_assoc]
  · simp only [Bool.xor_false, if_true, Bool.false_eq_true, if_false]
    ac_rfl
  · simp only [Bool.xor_self, Bool.false_eq_true, if_false, if_true]
    rw [xor_xor_xor_comm, BitVec.xor_self, BitVec.xor_zero]

/-- So is a bit taken for a word. -/
theorem bit_xor (a b : Bool) : (bit (a ^^ b) : BitVec n) = bit a ^^^ bit b := by
  cases a <;> cases b <;> simp [bit]

/-- **So is a step of the register**, and with it every run. -/
theorem feed_xor (a b : Bool) : feed poly (r ^^^ s) (a ^^ b) = feed poly r a ^^^ feed poly s b := by
  rw [feed, feed, feed, bit_xor, xor_xor_xor_comm, shift_xor]

/-- **Two registers side by side** stay their exclusive or. -/
theorem run_xor {xs ys : List Bool} (h : xs.length = ys.length) :
    run poly (r ^^^ s) (List.zipWith (· ^^ ·) xs ys) = run poly r xs ^^^ run poly s ys := by
  induction xs generalizing r s ys with
  | nil =>
    obtain rfl : ys = [] := List.length_eq_zero_iff.mp h.symm
    rfl
  | cons a xs ih =>
    cases ys with
    | nil => cases h
    | cons b ys =>
      rw [List.zipWith_cons_cons, run_cons, run_cons, run_cons, feed_xor, ih (Nat.succ.inj h)]

/-! ## Nothing is lost

  A shift can be undone if the bit that comes in at the top tells whether a one fell out below. -/

/-- An empty register stays empty. -/
theorem shift_zero : shift poly 0#n = 0#n := by
  rw [shift, BitVec.getLsbD_zero, if_neg Bool.false_ne_true, BitVec.zero_ushiftRight]

/-- With the highest bit of the polynomial set only zero is shifted to zero. -/
theorem eq_zero_of_shift (hpoly : poly.msb = true) (h : shift poly r = 0#n) : r = 0#n := by
  rw [shift] at h
  split at h
  · -- a one fell out: the highest place is a one now
    have hmsb := congrArg BitVec.msb h
    rw [BitVec.msb_xor, hpoly, BitVec.msb_zero, BitVec.msb_ushiftRight] at hmsb
    simp at hmsb
  · rename_i hlow
    apply BitVec.eq_of_getLsbD_eq
    intro i _
    cases i with
    | zero => simpa using hlow
    | succ i =>
      have hi := congrArg (fun x => BitVec.getLsbD x i) h
      simp only [BitVec.getLsbD_ushiftRight, BitVec.getLsbD_zero] at hi
      rw [BitVec.getLsbD_zero, Nat.add_comm]
      exact hi

/-- A zero bit is the empty word. -/
theorem bit_false : (bit false : BitVec n) = 0#n := rfl

/-- Fed zeros, zero stays zero. -/
theorem run_zero {bits : List Bool} (h : ∀ b ∈ bits, b = false) : run poly 0#n bits = 0#n := by
  induction bits with
  | nil => rfl
  | cons b bits ih =>
    obtain rfl := h b List.mem_cons_self
    rw [run_cons, feed, bit_false, BitVec.xor_zero, shift_zero]
    exact ih fun b hb => h b (List.mem_cons_of_mem _ hb)

/-- Fed zeros, what is not zero never becomes zero. -/
theorem run_zeros_ne (hpoly : poly.msb = true) {bits : List Bool} (h : ∀ b ∈ bits, b = false)
    (hr : r ≠ 0#n) : run poly r bits ≠ 0#n := by
  induction bits generalizing r with
  | nil => exact hr
  | cons b bits ih =>
    obtain rfl := h b List.mem_cons_self
    apply ih
    · intro b hb
      exact h b (List.mem_cons_of_mem _ hb)
    · rw [feed, bit_false, BitVec.xor_zero]
      intro hzero
      exact hr (eq_zero_of_shift hpoly hzero)

/-! ## The next bits, all at once

  A bit that is fed later waits in the register in its place. -/

/-- Bits as they stand in a register, the first one lowest. -/
def word : List Bool → BitVec n
  | [] => 0#n
  | b :: bits => bit b ^^^ (word bits <<< 1)

/-- The bits of a word made of one bit. -/
theorem getLsbD_bit (b : Bool) {i : Nat} (hi : i < n) :
    (bit b : BitVec n).getLsbD i = (b && decide (i = 0)) := by
  cases b with
  | false => simp [bit]
  | true => simp [bit, BitVec.getLsbD_one, Nat.lt_of_le_of_lt (Nat.zero_le i) hi]

/-- The bits of a word made of many: they are the bits, in order. -/
theorem getLsbD_word (bits : List Bool) {i : Nat} (hi : i < n) :
    (word bits : BitVec n).getLsbD i = bits.getD i false := by
  induction bits generalizing i with
  | nil => simp [word]
  | cons b bits ih =>
    rw [word, BitVec.getLsbD_xor, getLsbD_bit b hi, BitVec.getLsbD_shiftLeft]
    cases i with
    | zero => simp
    | succ i => simp [hi, ih (Nat.lt_of_succ_lt hi)]

/-- A word that does not reach the highest place is shifted up and down again. -/
theorem shift_word_up {bits : List Bool} (h : bits.length < n) :
    shift poly (word bits <<< 1) = word bits := by
  rw [shift, if_neg (by simp)]
  apply BitVec.eq_of_getLsbD_eq
  intro i hi
  rw [BitVec.getLsbD_ushiftRight, BitVec.getLsbD_shiftLeft]
  by_cases hlast : 1 + i < n
  · simp [hlast]
  · rw [getLsbD_word bits hi, List.getD_eq_getElem?_getD, List.getElem?_eq_none (by omega)]
    simp [hlast]

/-- **The next `n` bits may be xored in at once**, and zeros fed in their place. -/
theorem run_eq_run_xor {bits : List Bool} (h : bits.length ≤ n) :
    run poly r bits = run poly (r ^^^ word bits) (List.replicate bits.length false) := by
  induction bits generalizing r with
  | nil => rw [word, BitVec.xor_zero]; rfl
  | cons b bits ih =>
    have hlt : bits.length < n := h
    rw [run_cons, ih (Nat.le_of_lt hlt), List.length_cons, List.replicate_succ, run_cons, word]
    congr 1
    rw [feed, feed, bit_false, BitVec.xor_zero, ← BitVec.xor_assoc, shift_xor (s := word bits <<< 1),
      shift_word_up hlt]

/-- A word with a one in it is not zero. -/
theorem word_ne_zero {bits : List Bool} (h : bits.length ≤ n) (hone : true ∈ bits) :
    (word bits : BitVec n) ≠ 0#n := by
  intro hzero
  obtain ⟨i, hi⟩ := List.mem_iff_getElem?.mp hone
  have hlt := (List.getElem?_eq_some_iff.mp hi).1
  have hbit := getLsbD_word bits (Nat.lt_of_lt_of_le hlt h)
  rw [hzero, BitVec.getLsbD_zero, List.getD_eq_getElem?_getD, hi] at hbit
  cases hbit

/-! ## Bursts

  Zeros, at most `n` bits with a one among them, and zeros again. -/

/-- There is a one, and all ones lie within `m` places. -/
def Burst (m : Nat) (bits : List Bool) : Prop :=
  true ∈ bits ∧ ∃ start, ∀ i, bits[i]? = some true → start ≤ i ∧ i < start + m

/-- A burst stands between zeros: the changed bits are cut off at the first and at the last one, and
    what is between them is no longer than the burst. -/
theorem Burst.split {m : Nat} {bits : List Bool} (h : Burst m bits) :
    ∃ before burst behind, bits = before ++ (burst ++ behind) ∧ (∀ b ∈ before, b = false) ∧
      (∀ b ∈ behind, b = false) ∧ burst.length ≤ m ∧ true ∈ burst := by
  obtain ⟨hone, start, hwithin⟩ := h
  have hsplit : bits = bits.take start ++ ((bits.drop start).take m ++ (bits.drop start).drop m) := by
    rw [List.take_append_drop, List.take_append_drop]
  have hbefore : ∀ b ∈ bits.take start, b = false := by
    rintro (_ | _) hb
    · rfl
    · obtain ⟨i, hi⟩ := List.mem_iff_getElem?.mp hb
      rw [List.getElem?_take] at hi
      split at hi
      · have := hwithin i hi
        omega
      · cases hi
  have hbehind : ∀ b ∈ (bits.drop start).drop m, b = false := by
    rintro (_ | _) hb
    · rfl
    · obtain ⟨i, hi⟩ := List.mem_iff_getElem?.mp hb
      rw [List.getElem?_drop, List.getElem?_drop] at hi
      have := hwithin _ hi
      omega
  refine ⟨_, _, _, hsplit, hbefore, hbehind, List.length_take_le _ _, ?_⟩
  -- the one is in the middle
  rw [hsplit] at hone
  rcases List.mem_append.mp hone with h | h
  · cases hbefore _ h
  · rcases List.mem_append.mp h with h | h
    · exact h
    · cases hbehind _ h

/-- **A burst of at most `n` bits leaves a register that is not zero.** -/
theorem run_burst_ne (hpoly : poly.msb = true) {bits : List Bool} (h : Burst n bits) :
    run poly 0#n bits ≠ 0#n := by
  obtain ⟨before, burst, behind, rfl, hbefore, hbehind, hlen, hone⟩ := h.split
  have hfalse : ∀ b ∈ List.replicate burst.length false, b = false := by
    intro b hb
    exact List.eq_of_mem_replicate hb
  rw [run_append, run_zero hbefore, run_append]
  apply run_zeros_ne hpoly hbehind
  rw [run_eq_run_xor hlen, BitVec.zero_xor]
  exact run_zeros_ne hpoly hfalse (word_ne_zero hlen hone)

end ShiftRegister
