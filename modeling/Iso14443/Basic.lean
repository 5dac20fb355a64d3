/-
  `src/type_a/mod.rs`, `vec.rs` and the error half of `limits.rs`: what every other file uses.

  * `Build` — the one build option that changes what the code does.  With `alloc` the frame and
    chain buffers are growable vectors, without it they hold 256 and 1024 bytes and a push past the
    end is `BufferFull`.  It is a class, so that one development covers both builds: what depends
    on it says so by an instance argument, and a statement about one of them fixes it.
  * `FrameVec`, `ChainVec` — byte lists.  The capacity is no part of the type: it is checked where
    the source checks it, by the operations that make a buffer grow (`tryExtend`, `tryPush`), and
    these are the only place where the build is looked at.
  * `TypeAError`, `Limit` — the errors of the library, with their payloads: claims about which
    error comes out are claims about these.
  * `Frame`, `Cid` — a frame with its format, and a card identifier in its range.

  A function of the source that can fail returns a `Res`, in which a panic is an ending beside the
  errors; `…_returns` is the lemma that a function does not panic.
-/
import Iso14443.Lib.Act
import Iso14443.Lib.Byte

namespace Iso14443

/-! ## The build -/

/-- The cargo feature `alloc`: `true` for growable buffers, `false` for `heapless` ones. -/
class Build where
  alloc : Bool

/-- Built with the feature `alloc` (or `std`, which implies it). -/
@[reducible] def Build.heap : Build := ⟨true⟩

/-- The default build, on fixed-size buffers. -/
@[reducible] def Build.heapless : Build := ⟨false⟩

/-! ## Errors -/

/-- `limits.rs`: the bound a peer ran past.  It comes with `TypeAError::LimitExceeded`, so a caller
    can tell which budget was used up. -/
inductive Limit where
  | frames
  | retransmissions
  | consecutiveWtx
  | totalWtx
  | wtxValue
  | chainLength
  | frameSize
deriving DecidableEq, Repr

/-- `mod.rs`: the errors of the library. -/
inductive TypeAError where
  | invalidLength
  | unknownOpcode (code : UInt8)
  | invalidCrc (good : UInt8 × UInt8)
  | invalidBcc
  | unknownSel
  | invalidPcb
  | bufferFull
  | limitExceeded (limit : Limit)
  | other
deriving DecidableEq, Repr

/-! ## Buffers

  A push past the end of a fixed-size buffer is the only way in which a buffer fails, and
  `tryExtend` the only function that asks. -/

/-- `vec.rs`: the bytes of one frame. -/
abbrev FrameVec := List UInt8

/-- `vec.rs`: the bytes of an assembled chain. -/
abbrev ChainVec := List UInt8

/-- The capacity of a `FrameVec`: none with `alloc`, 256 bytes without. -/
def frameCap [Build] : Option Nat := if Build.alloc then none else some 256

/-- The capacity of a `ChainVec`: none with `alloc`, 1024 bytes without. -/
def chainCap [Build] : Option Nat := if Build.alloc then none else some 1024

/-- Do `n` bytes fit a buffer of this capacity? -/
def Fits (cap : Option Nat) (n : Nat) : Prop := ∀ c ∈ cap, n ≤ c

/-- `none` holds anything, a capacity is compared with the number. -/
instance (cap : Option Nat) (n : Nat) : Decidable (Fits cap n) :=
  match cap with
  | none => isTrue (by simp [Fits])
  | some c => decidable_of_iff (n ≤ c) (by simp [Fits])

/-- What fits leaves room for anything shorter. -/
theorem Fits.mono {cap : Option Nat} {m n : Nat} (h : Fits cap n) (hmn : m ≤ n) : Fits cap m :=
  fun c hc => Nat.le_trans hmn (h c hc)

/-- 256 bytes fit a frame buffer in either build. -/
theorem fits_frameCap [Build] {n : Nat} (h : n ≤ 256) : Fits frameCap n := by
  unfold frameCap Fits
  split <;> simp [h]

/-- 1024 bytes fit a chain buffer in either build. -/
theorem fits_chainCap [Build] {n : Nat} (h : n ≤ 1024) : Fits chainCap n := by
  unfold chainCap Fits
  split <;> simp [h]

/-- With `alloc` anything fits a chain buffer. -/
theorem fits_chainCap_of_alloc [Build] {n : Nat} (h : Build.alloc = true) : Fits chainCap n := by
  simp [chainCap, Fits, h]

/-- `VecExt::try_extend` on a buffer of capacity `cap`. -/
def tryExtend (cap : Option Nat) (v slice : List UInt8) : Res TypeAError (List UInt8) :=
  if Fits cap (v.length + slice.length) then .ok (v ++ slice) else .err .bufferFull

/-- `VecExt::try_push`. -/
def tryPush (cap : Option Nat) (v : List UInt8) (val : UInt8) : Res TypeAError (List UInt8) :=
  tryExtend cap v [val]

/-- Enough room: the slice is appended and nothing else happens. -/
theorem tryExtend_of_fits {cap : Option Nat} {v slice : List UInt8}
    (h : Fits cap (v.length + slice.length)) : tryExtend cap v slice = .ok (v ++ slice) := by
  simp [tryExtend, h]

/-- Enough room for one more byte. -/
theorem tryPush_of_fits {cap : Option Nat} {v : List UInt8} {val : UInt8}
    (h : Fits cap (v.length + 1)) : tryPush cap v val = .ok (v ++ [val]) :=
  tryExtend_of_fits h

/-- When an extension succeeds, and with what: the buffer is never cut or overwritten. -/
theorem tryExtend_eq_ok {cap : Option Nat} {v slice w : List UInt8} :
    tryExtend cap v slice = .ok w ↔ Fits cap (v.length + slice.length) ∧ w = v ++ slice := by
  unfold tryExtend
  split <;> simp [*, eq_comm]

/-- `tryExtend_eq_ok` for one byte. -/
theorem tryPush_eq_ok {cap : Option Nat} {v w : List UInt8} {val : UInt8} :
    tryPush cap v val = .ok w ↔ Fits cap (v.length + 1) ∧ w = v ++ [val] :=
  tryExtend_eq_ok

/-- An extension that does not fit is an error of the library, never a panic. -/
theorem tryExtend_returns (cap : Option Nat) (v slice : List UInt8) :
    (tryExtend cap v slice).Returns := by
  unfold tryExtend
  split <;> trivial

/-- The one way a buffer fails. -/
theorem tryExtend_eq_err {cap : Option Nat} {v slice : List UInt8} {e : TypeAError}
    (h : tryExtend cap v slice = .err e) : e = .bufferFull := by
  unfold tryExtend at h
  split at h
  · cases h
  · exact (Res.err.inj h).symm

/-! ## Frames and card identifiers -/

/-- `mod.rs`: a frame and its format.  Only standard frames carry a CRC_A; REQA and WUPA are short,
    and the frames of the anticollision are bit oriented. -/
inductive Frame where
  | short (data : FrameVec)
  | standard (data : FrameVec)
  | bitOriented (data : FrameVec)
deriving DecidableEq, Repr

/-- The bytes of a frame. -/
def Frame.data : Frame → FrameVec
  | short d => d
  | standard d => d
  | bitOriented d => d

/-- What is inside a standard frame. -/
@[simp] theorem Frame.data_standard (d : FrameVec) : (Frame.standard d).data = d := rfl

/-- A card identifier: `BoundedU8<0, 14>`. -/
abbrev Cid := Fin 15

-- what every literal of these types rests on, once

/-- `0` of a block number. -/
instance blockNumberNeZero : @NeZero Nat Zero.ofOfNat0 2 := Nat.instNeZeroSucc

/-- `0` of a card identifier. -/
instance cidNeZero : @NeZero Nat Zero.ofOfNat0 15 := Nat.instNeZeroSucc

/-- `Cid::new`: 15 is no CID. -/
def Cid.new (value : UInt8) : Option Cid :=
  if h : value.toNat ≤ 14 then some ⟨value.toNat, by omega⟩ else none

/-- `Cid::value`. -/
def Cid.value (cid : Cid) : UInt8 := UInt8.ofNat cid.val

/-- Writing a CID and reading it back. -/
@[simp] theorem Cid.new_value (cid : Cid) : Cid.new cid.value = some cid := by
  revert cid; decide

/-- `Cid::new` changes no number. -/
theorem Cid.new_eq_some {value : UInt8} {cid : Cid} :
    Cid.new value = some cid ↔ cid.val = value.toNat := by
  have hcid := cid.isLt
  rw [Cid.new]
  by_cases h : value.toNat ≤ 14
  · rw [dif_pos h, Option.some.injEq, Fin.ext_iff, eq_comm]
  · rw [dif_neg h]
    constructor
    · intro hn; cases hn
    · intro hn; omega

/-- A byte that was taken for a CID is written back as the same byte. -/
theorem Cid.value_of_new {value : UInt8} {cid : Cid} (h : Cid.new value = some cid) :
    cid.value = value := by
  rw [Cid.value, Cid.new_eq_some.mp h, UInt8.ofNat_toNat]

/-- Toggling a block number twice. -/
@[simp] theorem one_sub_one_sub (n : Fin 2) : 1 - (1 - n) = n := by
  revert n; decide

/-- There are two block numbers. -/
theorem one_sub_of_ne {m n : Fin 2} (h : m ≠ n) : 1 - m = n := by
  revert m n; decide

/-- Toggling changes the number. -/
theorem ne_one_sub (n : Fin 2) : n ≠ 1 - n := by
  revert n; decide

/-! ## Machine integers

  A counter of type `u8` or `u16` is a `Nat` that saturates where the source saturates. -/

/-- `u8::MAX`. -/
def u8Max : Nat := 255

/-- `u16::MAX`. -/
def u16Max : Nat := 65535

/-- `n.saturating_add(1)` in a type whose largest value is `max`. -/
def saturatingIncr (max n : Nat) : Nat := min (n + 1) max

/-- Below the largest value nothing saturates. -/
theorem saturatingIncr_of_lt {max n : Nat} (h : n < max) : saturatingIncr max n = n + 1 := by
  unfold saturatingIncr; omega

/-- A saturating counter moves by one at most. -/
theorem saturatingIncr_le (max n : Nat) : saturatingIncr max n ≤ n + 1 := Nat.min_le_left _ _

/-- A saturating counter never moves back, inside its type. -/
theorem le_saturatingIncr (max n : Nat) : min n max ≤ saturatingIncr max n := by
  unfold saturatingIncr; omega

end Iso14443
