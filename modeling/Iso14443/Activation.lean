/-
  `src/type_a/activation.rs`: a reader detects a card, resolves its UID and selects it.

  * `doAnticollision`, `doSelect` — the two frames of one cascade level.
  * `buildActivation` — the UID from the levels: three bytes of every level but the last one.  The
    first byte of these is dropped without a look at it, though only a cascade tag should stand
    there.
  * `doActivate`      — one request, then up to three levels, as the SAK of each says.

  The transceiver is a parameter: a state and a function from frames to answers, of which nothing
  is assumed.  `buildActivation_eq` is the one fact the results need: on one to three levels
  nothing is indexed past its end, the UID always fits its buffer, and it is the parts of the
  levels in order.  The rules at the end (`run_…`) compute the operations where the answers are
  known.
-/
import Iso14443.Command
import Iso14443.Pcd

namespace Iso14443

/-- `ActivationError`. -/
inductive ActivationError (E : Type) where
  | pcdTransceiver (error : E)
  | protocol (error : TypeAError)
deriving DecidableEq, Repr

/-- `Activation`: what the reader learns from an activation, the ATQA, the last SAK and the UID put
    together from the cascade levels. -/
structure Activation where
  atqa : AtqA
  sak : Sak
  uid : FrameVec
deriving DecidableEq, Repr

namespace Activation

variable {T E α : Type}

/-- A fallible computation under `?`. -/
def lift (x : Res TypeAError α) : Act T (ActivationError E) α := Act.lift .protocol x

/-- `uid.copy_from_slice(&resp)`, which panics unless the lengths are the same. -/
def copyFromSlice (resp : List UInt8) : Res TypeAError (Vector UInt8 5) :=
  match resp with
  | [a, b, c, d, e] => .ok (uidBccOf a b c d e)
  | _ => .panic

/-- The loop of `build_activation`, at level `i`. -/
def pushLevels [Build] (levels : Nat) : Nat → List (Vector UInt8 5) → FrameVec →
    Res TypeAError FrameVec
  | _, [], uid => .ok uid
  | i, cl :: uidCls, uid => do
    let last ← Res.sub levels 1
    let bytes ← (if i < last then Res.slice cl.toList 1 4 else Res.slice cl.toList 0 4)
    let uid ← tryExtend frameCap uid bytes
    pushLevels levels (i + 1) uidCls uid

/-- `build_activation`. -/
def buildActivation [Build] (atqa : AtqA) (sak : Sak) (uidCls : List (Vector UInt8 5))
    (levels : Nat) : Res TypeAError Activation := do
  let uid ← pushLevels levels 0 uidCls []
  .ok { atqa, sak, uid }

variable [PcdTransceiver T E]

/-- `t.transceive(&frame).map_err(ActivationError::PcdTransceiver)?`. -/
def transceive (frame : Frame) : Act T (ActivationError E) FrameVec where
  run t :=
    let (r, t) := PcdTransceiver.transceive t frame
    (match r with | .ok resp => .ok resp | .error e => .err (.pcdTransceiver e), t)

/-- `t.try_enable_hw_crc().is_ok()`. -/
def tryEnableHwCrc : Act T (ActivationError E) Bool where
  run t :=
    let (r, t) := PcdTransceiver.tryEnableHwCrc t
    (.ok (match r with | .ok _ => true | .error _ => false), t)

variable [Build]

/-- `do_anticollision`. -/
def doAnticollision (sel : UInt8) : Act T (ActivationError E) (Vector UInt8 5) := do
  let nvb := NumberOfValidBits.anticollision.toByte
  let data ← lift (tryPush frameCap [] sel)
  let data ← lift (tryPush frameCap data nvb)
  let resp ← transceive (.bitOriented data)
  if resp.length ≠ 5 then Act.throw (.protocol .invalidLength)
  else do
    let uid0 ← lift (Res.index resp 0)
    let uid1 ← lift (Res.index resp 1)
    let uid2 ← lift (Res.index resp 2)
    let uid3 ← lift (Res.index resp 3)
    let bcc ← lift (Res.index resp 4)
    if uid0 ^^^ uid1 ^^^ uid2 ^^^ uid3 ^^^ bcc ≠ 0 then Act.throw (.protocol .invalidBcc)
    else lift (copyFromSlice resp)

/-- The SAK in the answer to a SELECT. -/
def readSak (hwCrc : Bool) (resp : FrameVec) : Act T (ActivationError E) Sak :=
  if hwCrc then
    if resp.length ≠ 1 then Act.throw (.protocol .invalidLength)
    else do
      let sak ← lift (Res.index resp 0)
      pure (Sak.fromRaw sak)
  else lift (Sak.tryFrom resp)

/-- `do_select`. -/
def doSelect (sel : UInt8) (uidBcc : Vector UInt8 5) (hwCrc : Bool) :
    Act T (ActivationError E) Sak := do
  let nvb := NumberOfValidBits.select.toByte
  let data ← lift (tryPush frameCap [] sel)
  let data ← lift (tryPush frameCap data nvb)
  let data ← lift (tryExtend frameCap data uidBcc.toList)
  let frame ← lift (frameOf hwCrc data)
  let resp ← transceive frame
  readSak hwCrc resp

/-- `do_activate`. -/
def doActivate (req : Command) : Act T (ActivationError E) Activation := do
  let hwCrc ← tryEnableHwCrc
  let frame ← lift req.toFrame
  let resp ← transceive frame
  let atqa ← lift (AtqA.tryFrom resp)
  let uidCl1 ← doAnticollision selCl1
  let sak ← doSelect selCl1 uidCl1 hwCrc
  if sak.uidComplete then lift (buildActivation atqa sak [uidCl1] 1)
  else do
    let uidCl2 ← doAnticollision selCl2
    let sak ← doSelect selCl2 uidCl2 hwCrc
    if sak.uidComplete then lift (buildActivation atqa sak [uidCl1, uidCl2] 2)
    else do
      let uidCl3 ← doAnticollision selCl3
      let sak ← doSelect selCl3 uidCl3 hwCrc
      if sak.uidComplete then lift (buildActivation atqa sak [uidCl1, uidCl2, uidCl3] 3)
      else Act.throw (.protocol .other)

/-- `activate`: with REQA. -/
def activate : Act T (ActivationError E) Activation := doActivate .reqA

/-- `wakeup`: with WUPA, which halted cards answer too. -/
def wakeup : Act T (ActivationError E) Activation := doActivate .wupA

/-! ## Rules

  What the operations come to where the answers are known: each `?` is taken off in turn, and the
  pushes succeed because every frame here is a few bytes long. -/

section Rules

variable {t : T} {frame : Frame} {resp : FrameVec} {t' : T}

omit [PcdTransceiver T E] [Build] in
/-- A pure step leaves the transceiver alone. -/
@[simp] theorem run_lift (x : Res TypeAError α) (t : T) :
    (lift x : Act T (ActivationError E) α).run t = (x.mapErr .protocol, t) := rfl

omit [Build] in
/-- A call that is answered. -/
theorem run_transceive (h : PcdTransceiver.transceive t frame = (.ok resp, t')) :
    (transceive frame).run t = ((.ok resp, t') : Res (ActivationError E) FrameVec × T) := by
  simp only [transceive, h]

omit [PcdTransceiver T E] in
/-- The two requests are frames of one byte. -/
theorem toFrame_request {req : Command} (hreq : req = .reqA ∨ req = .wupA) :
    ∃ byte : UInt8, (byte = 0x26 ∨ byte = 0x52) ∧ req.toFrame = .ok (.short [byte]) := by
  have hpush : ∀ byte : UInt8, tryPush frameCap [] byte = .ok [byte] :=
    fun byte => tryPush_of_fits (fits_frameCap (by simp))
  rcases hreq with rfl | rfl
  · exact ⟨0x26, Or.inl rfl, by rw [Command.toFrame, Command.toVec, hpush]; rfl⟩
  · exact ⟨0x52, Or.inr rfl, by rw [Command.toFrame, Command.toVec, hpush]; rfl⟩

/-- Five bytes and their BCC are taken as they are. -/
theorem run_doAnticollision {sel a b c d e : UInt8} (he : e = a ^^^ b ^^^ c ^^^ d)
    (h : PcdTransceiver.transceive t (.bitOriented [sel, 0x20]) = (.ok [a, b, c, d, e], t')) :
    (doAnticollision sel).run t =
      ((.ok #v[a, b, c, d, e], t') : Res (ActivationError E) (Vector UInt8 5) × T) := by
  have hfits : Fits frameCap 2 := fits_frameCap (by decide)
  have hnvb : NumberOfValidBits.anticollision.toByte = 0x20 := rfl
  rw [doAnticollision]
  simp only [hnvb]
  rw [Act.run_bind, run_lift, tryPush_of_fits (hfits.mono (by simp))]
  simp only [Res.mapErr_ok]
  rw [Act.run_bind, run_lift, tryPush_of_fits (hfits.mono (by simp))]
  simp only [Res.mapErr_ok, List.nil_append, List.cons_append]
  rw [Act.run_bind, run_transceive h]
  simp [Act.run_bind, he, copyFromSlice, Res.index]

/-- A SELECT, and the SAK on it. -/
theorem run_doSelect {sel : UInt8} {uid : Vector UInt8 5} {hwCrc : Bool} {sak : Sak}
    (h : PcdTransceiver.transceive t (.standard (closed hwCrc (sel :: 0x70 :: uid.toList))) =
      (.ok (closed hwCrc [sak.toByte]), t')) :
    (doSelect sel uid hwCrc).run t = ((.ok sak, t') : Res (ActivationError E) Sak × T) := by
  have hfits : Fits frameCap 7 := fits_frameCap (by decide)
  have hnvb : NumberOfValidBits.select.toByte = 0x70 := rfl
  have hread : (readSak hwCrc (closed hwCrc [sak.toByte])).run t' =
      ((.ok sak, t') : Res (ActivationError E) Sak × T) := by
    cases hwCrc with
    | true => simp [readSak, closed, Act.run_bind]
    | false => simp [readSak, closed, Sak.tryFrom, Sak.fromCrcVerified]
  rw [doSelect]
  simp only [hnvb]
  rw [Act.run_bind, run_lift, tryPush_of_fits (hfits.mono (by simp))]
  simp only [Res.mapErr_ok]
  rw [Act.run_bind, run_lift, tryPush_of_fits (hfits.mono (by simp))]
  simp only [Res.mapErr_ok]
  rw [Act.run_bind, run_lift, tryExtend_of_fits (hfits.mono (by simp))]
  simp only [Res.mapErr_ok, List.nil_append, List.cons_append]
  rw [Act.run_bind, run_lift, frameOf_of_fits _ (by simp)]
  simp only [Res.mapErr_ok]
  rw [Act.run_bind, run_transceive h]
  exact hread

/-! ### The UID

  `build_activation` goes through the levels with an index; here the loop becomes a concatenation
  of parts, one for each level. -/

/-- What level `i` brings to the UID. -/
def uidPart (levels i : Nat) (cl : Vector UInt8 5) : List UInt8 :=
  if i + 1 < levels then (cl.toList.take 4).drop 1 else cl.toList.take 4

/-- What the levels bring, from level `i` on. -/
def uidParts (levels : Nat) : Nat → List (Vector UInt8 5) → List UInt8
  | _, [] => []
  | i, cl :: uidCls => uidPart levels i cl ++ uidParts levels (i + 1) uidCls

omit [PcdTransceiver T E] in
/-- The UID is put together level by level, and always fits: three levels are twelve bytes, so
    neither build of the buffer is ever full. -/
theorem pushLevels_eq {levels : Nat} (hlevels : 1 ≤ levels) (uidCls : List (Vector UInt8 5)) :
    ∀ (i : Nat) (uid : FrameVec), uid.length + 4 * uidCls.length ≤ 256 →
      pushLevels levels i uidCls uid = .ok (uid ++ uidParts levels i uidCls) := by
  induction uidCls with
  | nil =>
    intro i uid _
    rw [pushLevels, uidParts, List.append_nil]
  | cons cl uidCls ih =>
    intro i uid hlen
    rw [List.length_cons] at hlen
    have hpart : (uidPart levels i cl).length ≤ 4 := by
      rw [uidPart]
      split <;> simp
    have hslice : (if i < levels - 1 then Res.slice cl.toList 1 4 else Res.slice cl.toList 0 4 :
        Res TypeAError (List UInt8)) = .ok (uidPart levels i cl) := by
      rw [uidPart]
      by_cases h : i + 1 < levels
      · rw [if_pos h, if_pos (by omega), Res.slice_of_le (by omega) (by simp)]
      · rw [if_neg h, if_neg (by omega), Res.slice_of_le (by omega) (by simp), List.drop_zero]
    have hfits : Fits frameCap (uid.length + (uidPart levels i cl).length) :=
      fits_frameCap (by omega)
    rw [pushLevels, Res.sub_of_le hlevels]
    simp only [Res.ok_bind]
    rw [hslice]
    simp only [Res.ok_bind]
    rw [tryExtend_of_fits hfits]
    simp only [Res.ok_bind]
    rw [ih _ _ (by rw [List.length_append]; omega), uidParts, List.append_assoc]

/-- **The UID is put together** from at most three levels. -/
theorem buildActivation_eq (atqa : AtqA) (sak : Sak) {uidCls : List (Vector UInt8 5)} {levels : Nat}
    (hlevels : 1 ≤ levels) (hlen : uidCls.length ≤ 3) :
    buildActivation atqa sak uidCls levels = .ok ⟨atqa, sak, uidParts levels 0 uidCls⟩ := by
  rw [buildActivation, pushLevels_eq hlevels _ _ _ (by simp; omega)]
  rfl

end Rules

end Activation

end Iso14443
