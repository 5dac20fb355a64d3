/-
  The CRC_A in software, and in hardware.

  The code branches on the CRC mode wherever it sends and wherever it reads.  Over one and the same
  wire, a reader that does the CRC_A itself and a reader that leaves it to its transceiver put the
  same bytes on the air, succeed in the same operations with the same results, and fail in the same
  ones.

  * `SoftCrc`, `HardCrc` — the two transceivers over a wire.  The wire is any transceiver at all.
  * `AnsweredAlike`      — an answer in both modes.  There is a third case besides success and
                           failure: a CRC_A that is broken is an answer to the one reader, which
                           finds out itself, and a failure of the transceiver to the other.  So the
                           errors may differ, and `Similar` (`Iso14443.Lib.Simulation`) lets them.
  * `similar_standard`   — a standard frame and the answer to it, in both modes; every operation
                           that sends one goes by it.
  * `Paired`             — the two readers in a session.
  * `similar_…`          — the operations, one after the other, each by the rule of its own form.
  * `ReaderSession`      — a program that uses the reader.
  * `modes_alike`        — every sequence of operations.

  The frame size is compared in both modes with the length on the air, two bytes being counted in
  where the hardware has taken them off (`parseBlockResponse_withCrc`).
-/
import Iso14443.Activation
import Iso14443.Link
import Iso14443.Lib.Run
import Iso14443.Lib.Simulation

namespace Iso14443

open Act

/-! ## The two transceivers

  Both stand over the same wire `T`.  What the wire carries is the frame with its CRC_A in either
  case. -/

/-- The errors of a transceiver over a wire: the wire's own, a broken CRC_A, which only a
    transceiver that checks it can report, and the refusal to check. -/
inductive AirError (E : Type) where
  | air (error : E)
  | crc
  | unsupported

/-- The transceiver that leaves the CRC_A to software: what it is given goes on the air. -/
structure SoftCrc (T : Type) where
  air : T

/-- The transceiver that closes the standard frames it sends, and opens the answers to them. -/
structure HardCrc (T : Type) where
  air : T

section Transceivers

variable {T E : Type} [PcdTransceiver T E]

/-- The wire, under the errors of the transceiver. -/
def onAir (t : T) (frame : Frame) : Except (AirError E) FrameVec × T :=
  let (r, t) := PcdTransceiver.transceive t frame
  (match r with | .ok resp => .ok resp | .error e => .error (.air e), t)

/-- An answer, opened. -/
def opened (r : Except (AirError E) FrameVec) : Except (AirError E) FrameVec :=
  match r with
  | .ok resp =>
    match splitCrcA resp with
    | .ok body => .ok body
    | _ => .error .crc
  | .error e => .error e

/-- With the CRC in software the library appends it and the air sees the frame as it is. -/
instance : PcdTransceiver (SoftCrc T) (AirError E) where
  transceive self frame := ((onAir self.air frame).1, ⟨(onAir self.air frame).2⟩)
  tryEnableHwCrc self := (.error .unsupported, self)

/-- With the CRC in hardware the air sees the frame with the CRC_A that the hardware appends. -/
instance : PcdTransceiver (HardCrc T) (AirError E) where
  transceive self frame :=
    match frame with
    | .standard data =>
      let (r, air) := onAir self.air (.standard (withCrc data))
      (opened r, ⟨air⟩)
    | frame => ((onAir self.air frame).1, ⟨(onAir self.air frame).2⟩)
  tryEnableHwCrc self := (.ok (), self)

end Transceivers

/-! ## A standard frame, in both modes

  The key to everything below: what is sent, what comes back, and what the two modes make of it.
  The one asymmetry is a broken CRC_A, and it ends in a failure on both sides. -/

/-- The answer to a standard frame: both fail, or both have it, or software finds its CRC_A broken.
    In the last case the hardware has failed already, with an error of its own. -/
inductive AnsweredAlike {ε ε' : Type} : Res ε FrameVec → Res ε' FrameVec → Prop
  | failed (e : ε) (e' : ε') : AnsweredAlike (.err e) (.err e')
  | opened {resp body : FrameVec} (h : splitCrcA resp = .ok body) :
      AnsweredAlike (.ok resp) (.ok body)
  | broken {resp : FrameVec} {e : TypeAError} (h : splitCrcA resp = .err e) (e' : ε') :
      AnsweredAlike (.ok resp) (.err e')

section Standard

variable {σ σ' ε ε' α α' : Type} {R : σ → σ' → Prop} {V : α → α' → Prop}

/-- **A standard frame out and its answer in**, with what is made of the answer.  Every operation
    that sends such a frame is an instance; what is to be shown of it is only how it reads the
    answer. -/
theorem similar_standard [Build] {data : FrameVec} (hlen : data.length + 2 ≤ 256)
    {g : TypeAError → ε} {g' : TypeAError → ε'} {tr : Frame → Act σ ε FrameVec}
    {tr' : Frame → Act σ' ε' FrameVec} {p : FrameVec → Act σ ε α} {p' : FrameVec → Act σ' ε' α'}
    (htr : ∀ s s', R s s' → AnsweredAlike ((tr (.standard (withCrc data))).run s).1
        ((tr' (.standard data)).run s').1 ∧
      R ((tr (.standard (withCrc data))).run s).2 ((tr' (.standard data)).run s').2)
    (hopened : ∀ body, Similar R V (p (withCrc body)) (p' body))
    (hbroken : ∀ resp e, splitCrcA resp = .err e → ∀ s s', R s s' →
      ∃ e', (p resp).run s = (.err e', s)) :
    Similar R V
      (do
        let frame ← lift g (frameOf false data)
        let resp ← tr frame
        p resp)
      (do
        let frame ← lift g' (frameOf true data)
        let resp ← tr' frame
        p' resp) := by
  intro s s' hs
  have hsoft : frameOf false data = .ok (.standard (withCrc data)) := frameOf_of_fits false hlen
  have hhard : frameOf true data = .ok (.standard data) := rfl
  obtain ⟨hanswer, hstate⟩ := htr s s' hs
  rw [run_bind, run_bind, run_lift, run_lift, hsoft, hhard]
  simp only [Res.mapErr_ok]
  rw [run_bind, run_bind]
  generalize (tr (.standard (withCrc data))).run s = q at hanswer hstate ⊢
  generalize (tr' (.standard data)).run s' = q' at hanswer hstate ⊢
  obtain ⟨r, t⟩ := q
  obtain ⟨r', t'⟩ := q'
  -- both fail, both have the answer, or software finds its CRC_A broken
  cases hanswer with
  | failed => exact ⟨trivial, hstate⟩
  | @opened resp body h =>
    obtain rfl := splitCrcA_eq_ok.mp h
    exact hopened body t t' hstate
  | @broken resp _ h =>
    obtain ⟨e, he⟩ := hbroken resp _ h t t' hstate
    dsimp only
    rw [he]
    exact ⟨trivial, hstate⟩

end Standard

/-- The two transceivers are over the same wire. -/
def SameAir {T : Type} (s : SoftCrc T) (s' : HardCrc T) : Prop := s.air = s'.air

section Answers

variable {T E : Type} [PcdTransceiver T E]

/-- What the two transceivers make of a standard frame. -/
theorem transceive_standard (t : T) (data : FrameVec) :
    PcdTransceiver.transceive (⟨t⟩ : SoftCrc T) (.standard (withCrc data)) =
        ((onAir t (.standard (withCrc data))).1, ⟨(onAir t (.standard (withCrc data))).2⟩) ∧
      PcdTransceiver.transceive (⟨t⟩ : HardCrc T) (.standard data) =
        (opened (onAir t (.standard (withCrc data))).1, ⟨(onAir t (.standard (withCrc data))).2⟩) :=
  ⟨rfl, rfl⟩

omit [PcdTransceiver T E] in
/-- An answer is opened, or it is an error to both. -/
theorem answeredAlike_opened {ε : Type} {f : Except (AirError E) FrameVec → Res ε FrameVec}
    (hok : ∀ resp, f (.ok resp) = .ok resp) (herr : ∀ e, ∃ e', f (.error e) = .err e')
    (r : Except (AirError E) FrameVec) : AnsweredAlike (f r) (f (opened r)) := by
  cases r with
  | error e =>
    obtain ⟨e', he⟩ := herr e
    rw [opened, he]
    exact .failed _ _
  | ok resp =>
    have hret := splitCrcA_returns resp
    rw [hok]
    cases h : splitCrcA resp with
    | ok body =>
      have hopened : opened (.ok resp : Except (AirError E) FrameVec) = .ok body := by
        simp only [opened, h]
      rw [hopened, hok]
      exact .opened h
    | err e =>
      have hopened : opened (.ok resp : Except (AirError E) FrameVec) = .error .crc := by
        simp only [opened, h]
      obtain ⟨e', he⟩ := herr .crc
      rw [hopened, he]
      exact .broken h _
    | panic => rw [h] at hret; exact hret.elim
    | outOfFuel => rw [h] at hret; exact hret.elim

end Answers

/-! ## Activation

  Anticollision has no CRC_A and is the same on both sides; a SELECT and its SAK are a standard
  frame each way. -/

namespace Activation

variable {T E : Type} [PcdTransceiver T E]

/-- A short or bit oriented frame has no CRC_A. -/
theorem similar_transceive {frame : Frame} (hplain : ∀ data, frame ≠ .standard data) :
    Similar SameAir Eq (transceive frame : Act (SoftCrc T) (ActivationError (AirError E)) FrameVec)
      (transceive frame : Act (HardCrc T) (ActivationError (AirError E)) FrameVec) := by
  rintro ⟨t⟩ ⟨t'⟩ rfl
  have hhard : PcdTransceiver.transceive (⟨t⟩ : HardCrc T) frame =
      ((onAir t frame).1, ⟨(onAir t frame).2⟩) := by
    cases frame with
    | short data => rfl
    | standard data => exact absurd rfl (hplain data)
    | bitOriented data => rfl
  simp only [transceive, hhard]
  exact ⟨Res.Similar.refl (fun _ => rfl) _, rfl⟩

/-- An answer, under the errors of an activation. -/
def ofExcept {E : Type} (r : Except E FrameVec) : Res (ActivationError E) FrameVec :=
  match r with
  | .ok resp => .ok resp
  | .error e => .err (.pcdTransceiver e)

/-- A transceiver call, as a value or an error. -/
theorem run_transceive_ofExcept {T E : Type} [PcdTransceiver T E] (frame : Frame) (t : T) :
    (transceive frame : Act T (ActivationError E) FrameVec).run t =
      (ofExcept (PcdTransceiver.transceive t frame).1, (PcdTransceiver.transceive t frame).2) := rfl

/-- One frame of the activation, closed by the library or by the hardware: the same bytes go out and
    the same answer comes back. -/
theorem transceive_alike (data : FrameVec) (s : SoftCrc T) (s' : HardCrc T) (h : SameAir s s') :
    AnsweredAlike
        ((transceive (.standard (withCrc data)) :
          Act (SoftCrc T) (ActivationError (AirError E)) FrameVec).run s).1
        ((transceive (.standard data) :
          Act (HardCrc T) (ActivationError (AirError E)) FrameVec).run s').1 ∧
      SameAir
        ((transceive (.standard (withCrc data)) :
          Act (SoftCrc T) (ActivationError (AirError E)) FrameVec).run s).2
        ((transceive (.standard data) :
          Act (HardCrc T) (ActivationError (AirError E)) FrameVec).run s').2 := by
  obtain ⟨t⟩ := s
  obtain ⟨t'⟩ := s'
  obtain rfl : t = t' := h
  rw [run_transceive_ofExcept, run_transceive_ofExcept, (transceive_standard t data).1,
    (transceive_standard t data).2]
  refine ⟨?_, rfl⟩
  exact answeredAlike_opened (f := ofExcept) (fun _ => rfl) (fun e => ⟨.pcdTransceiver e, rfl⟩) _

/-- The probe tells the two modes apart. -/
theorem similar_tryEnableHwCrc :
    Similar SameAir (fun hwCrc hwCrc' => hwCrc = false ∧ hwCrc' = true)
      (tryEnableHwCrc : Act (SoftCrc T) (ActivationError (AirError E)) Bool)
      (tryEnableHwCrc : Act (HardCrc T) (ActivationError (AirError E)) Bool) :=
  fun _ _ h => ⟨⟨rfl, rfl⟩, h⟩

omit [PcdTransceiver T E] in
/-- The same computation under `?`. -/
theorem similar_lift {α : Type} (x : Res TypeAError α) : Similar SameAir Eq
    (lift x : Act (SoftCrc T) (ActivationError (AirError E)) α)
    (lift x : Act (HardCrc T) (ActivationError (AirError E)) α) :=
  .lift (Res.Similar.refl (fun _ => rfl) x)

omit [PcdTransceiver T E] in
/-- A computation that succeeds. -/
theorem similar_lift_ok {α : Type} (a : α) :
    Similar SameAir (fun b b' => b = a ∧ b' = a)
      (lift (.ok a) : Act (SoftCrc T) (ActivationError (AirError E)) α)
      (lift (.ok a) : Act (HardCrc T) (ActivationError (AirError E)) α) :=
  fun _ _ h => ⟨⟨rfl, rfl⟩, h⟩

variable [Build]

/-- Anticollision carries no CRC_A: it is one and the same on both sides. -/
theorem similar_doAnticollision (sel : UInt8) : Similar SameAir Eq
    (doAnticollision sel : Act (SoftCrc T) (ActivationError (AirError E)) (Vector UInt8 5))
    (doAnticollision sel : Act (HardCrc T) (ActivationError (AirError E)) (Vector UInt8 5)) := by
  refine (similar_lift _).bind_eq fun data => ?_
  refine (similar_lift _).bind_eq fun data => ?_
  refine (similar_transceive fun _ h => by cases h).bind_eq fun resp => ?_
  refine .ite Iff.rfl (fun _ => .throw _ _) fun _ => ?_
  refine (similar_lift _).bind_eq fun uid0 => ?_
  refine (similar_lift _).bind_eq fun uid1 => ?_
  refine (similar_lift _).bind_eq fun uid2 => ?_
  refine (similar_lift _).bind_eq fun uid3 => ?_
  refine (similar_lift _).bind_eq fun bcc => ?_
  exact .ite Iff.rfl (fun _ => .throw _ _) fun _ => similar_lift _

/-- **A SELECT**: hardware leaves one byte of the SAK where software leaves three. -/
theorem similar_doSelect (sel : UInt8) (uidBcc : Vector UInt8 5) : Similar SameAir Eq
    (doSelect sel uidBcc false : Act (SoftCrc T) (ActivationError (AirError E)) Sak)
    (doSelect sel uidBcc true : Act (HardCrc T) (ActivationError (AirError E)) Sak) := by
  have hfits : Fits frameCap 7 := fits_frameCap (by decide)
  rw [doSelect, doSelect]
  rw [tryPush_of_fits (hfits.mono (by simp))]
  refine (similar_lift_ok _).bind ?_
  rintro data _ ⟨rfl, rfl⟩
  rw [tryPush_of_fits (hfits.mono (by simp))]
  refine (similar_lift_ok _).bind ?_
  rintro data _ ⟨rfl, rfl⟩
  rw [tryExtend_of_fits (hfits.mono (by simp))]
  refine (similar_lift_ok _).bind ?_
  rintro data _ ⟨rfl, rfl⟩
  refine similar_standard (by simp) (transceive_alike _) (fun body => ?_) fun resp e he s _ _ => ?_
  · -- the byte that is left
    have hsoft : readSak false (withCrc body) =
        (lift (Sak.fromCrcVerified body) : Act (SoftCrc T) (ActivationError (AirError E)) Sak) := by
      rw [readSak, if_neg (by simp), Sak.tryFrom, splitCrcA_withCrc]
      rfl
    rw [hsoft]
    rcases body with _ | ⟨sak, _ | ⟨_, _⟩⟩
    · exact .throw _ _
    · exact fun _ _ h => ⟨rfl, h⟩
    · exact .throw _ _
  · refine ⟨.protocol e, ?_⟩
    rw [readSak, if_neg (by simp), run_lift, Sak.tryFrom, he]
    rfl

/-- **An activation**, with REQA or with WUPA. -/
theorem similar_doActivate {req : Command} (hreq : req = .reqA ∨ req = .wupA) : Similar SameAir Eq
    (doActivate req : Act (SoftCrc T) (ActivationError (AirError E)) Activation)
    (doActivate req : Act (HardCrc T) (ActivationError (AirError E)) Activation) := by
  obtain ⟨byte, -, hframe⟩ := toFrame_request hreq
  apply similar_tryEnableHwCrc.bind
  rintro _ _ ⟨rfl, rfl⟩
  rw [hframe]
  refine (similar_lift_ok _).bind ?_
  rintro _ _ ⟨rfl, rfl⟩
  refine (similar_transceive fun _ h => by cases h).bind_eq fun resp => ?_
  refine (similar_lift _).bind_eq fun atqa => ?_
  refine (similar_doAnticollision _).bind_eq fun uidCl1 => ?_
  refine (similar_doSelect _ _).bind_eq fun sak => ?_
  refine .ite Iff.rfl (fun _ => similar_lift _) fun _ => ?_
  refine (similar_doAnticollision _).bind_eq fun uidCl2 => ?_
  refine (similar_doSelect _ _).bind_eq fun sak => ?_
  refine .ite Iff.rfl (fun _ => similar_lift _) fun _ => ?_
  refine (similar_doAnticollision _).bind_eq fun uidCl3 => ?_
  refine (similar_doSelect _ _).bind_eq fun sak => ?_
  exact .ite Iff.rfl (fun _ => similar_lift _) fun _ => .throw _ _

end Activation

/-! ## A session

  A block and its answer are a standard frame each way; the handlers of the two readers see the
  same blocks, so they stay equal. -/

/-- The two readers, in a session under this CID. They agree in all that decides what is done next,
    and their transceivers have heard the same; only the mode differs. -/
structure Paired {T : Type} (cid : Option Cid) (s : Pcd (SoftCrc T)) (s' : Pcd (HardCrc T)) :
    Prop where
  air : SameAir s.transceiver s'.transceiver
  soft : s.hwCrc = false
  hard : s'.hwCrc = true
  fsc : s'.fsc = s.fsc
  /-- No frame is longer than the buffer. -/
  fsc_le : s.fsc ≤ 256
  fsd : s'.fsd = s.fsd
  handler : s'.handler = s.handler
  cid : s.handler.cid = cid

namespace Pcd

variable {T E : Type} [Build] [PcdTransceiver T E] {cid : Option Cid}

omit [Build] [PcdTransceiver T E] in
/-- The same computation under `?`. -/
theorem similar_lift {α : Type} (x : Res TypeAError α) : Similar (Paired (T := T) cid) Eq
    (lift x : Act (Pcd (SoftCrc T)) (PcdError (AirError E)) α)
    (lift x : Act (Pcd (HardCrc T)) (PcdError (AirError E)) α) :=
  .lift (Res.Similar.refl (fun _ => rfl) x)

omit [Build] [PcdTransceiver T E] in
/-- A computation that succeeds. -/
theorem similar_lift_ok {α : Type} (a : α) :
    Similar (Paired (T := T) cid) (fun b b' => b = a ∧ b' = a)
      (lift (.ok a) : Act (Pcd (SoftCrc T)) (PcdError (AirError E)) α)
      (lift (.ok a) : Act (Pcd (HardCrc T)) (PcdError (AirError E)) α) :=
  fun _ _ h => ⟨⟨rfl, rfl⟩, h⟩

omit [Build] in
/-- One frame of a session, closed by the library or by the hardware. -/
theorem transceive_alike (data : FrameVec) (s : Pcd (SoftCrc T)) (s' : Pcd (HardCrc T))
    (h : Paired cid s s') :
    AnsweredAlike
        ((transceive (.standard (withCrc data)) :
          Act (Pcd (SoftCrc T)) (PcdError (AirError E)) FrameVec).run s).1
        ((transceive (.standard data) :
          Act (Pcd (HardCrc T)) (PcdError (AirError E)) FrameVec).run s').1 ∧
      Paired cid
        ((transceive (.standard (withCrc data)) :
          Act (Pcd (SoftCrc T)) (PcdError (AirError E)) FrameVec).run s).2
        ((transceive (.standard data) :
          Act (Pcd (HardCrc T)) (PcdError (AirError E)) FrameVec).run s').2 := by
  obtain ⟨⟨t⟩, hwCrc, fsc, fsd, handler⟩ := s
  obtain ⟨⟨t'⟩, hwCrc', fsc', fsd', handler'⟩ := s'
  obtain rfl : t = t' := h.air
  simp only [transceive, (transceive_standard t data).1, (transceive_standard t data).2]
  refine ⟨?_, { h with air := rfl }⟩
  exact answeredAlike_opened (f := ofExcept) (fun _ => rfl) (fun e => ⟨.pcdTransceiver e, rfl⟩) _

omit [PcdTransceiver T E] in
/-- **The frame size is checked alike**: two bytes of CRC_A are counted in, or were never taken
    off. -/
theorem parseBlockResponse_withCrc {s : Pcd (SoftCrc T)} {s' : Pcd (HardCrc T)}
    (h : Paired cid s s') (body : FrameVec) :
    s.parseBlockResponse (withCrc body) = s'.parseBlockResponse body := by
  rw [parseBlockResponse, parseBlockResponse, if_neg (by simp [h.soft]), if_pos h.hard, h.fsd,
    length_withCrc, Block.tryFrom, splitCrcA_withCrc]
  rfl

/-- The frame of a block out, and a block in. -/
def roundTrip {T E : Type} [PcdTransceiver T E] (hwCrc : Bool) (data : FrameVec) :
    Act (Pcd T) (PcdError E) Block := do
  let frame ← lift (frameOf hwCrc data)
  let resp ← transceive frame
  let self ← Act.get
  lift (self.parseBlockResponse resp)

/-- A round trip of a block that fits is a round trip of its bytes. -/
theorem run_transceiveBlock_roundTrip {T E : Type} [PcdTransceiver T E] {block : Block}
    (hlen : block.bytes.length + 2 ≤ 256) (s : Pcd T) :
    (transceiveBlock block).run s = (roundTrip s.hwCrc block.bytes).run s := by
  have hbytes : block.toBytesWithoutCrc = .ok block.bytes :=
    Block.toBytesWithoutCrc_of_fits (fits_frameCap (by omega))
  rw [transceiveBlock, hbytes]
  rfl

/-- **One block out, one block in.** -/
theorem similar_transceiveBlock {block : Block} (hlen : block.bytes.length + 2 ≤ 256) :
    Similar (Paired (T := T) cid) Eq
      (transceiveBlock block : Act (Pcd (SoftCrc T)) (PcdError (AirError E)) Block)
      (transceiveBlock block : Act (Pcd (HardCrc T)) (PcdError (AirError E)) Block) := by
  have hround : Similar (Paired (T := T) cid) Eq
      (roundTrip false block.bytes : Act (Pcd (SoftCrc T)) (PcdError (AirError E)) Block)
      (roundTrip true block.bytes : Act (Pcd (HardCrc T)) (PcdError (AirError E)) Block) := by
    refine similar_standard hlen (transceive_alike _) (fun body => ?_) fun resp e he s s' hs => ?_
    · refine .get_bind fun s s' hs => ?_
      rw [parseBlockResponse_withCrc hs]
      exact similar_lift _
    · rw [run_get_bind, run_lift, parseBlockResponse, if_neg (by simp [hs.soft])]
      split
      · exact ⟨_, rfl⟩
      · rw [Block.tryFrom, he]
        exact ⟨_, rfl⟩
  intro s s' hs
  rw [run_transceiveBlock_roundTrip hlen, run_transceiveBlock_roundTrip hlen, hs.soft, hs.hard]
  exact hround s s' hs

/-! ### The retries

  A failed call is a failed call in both modes, whatever the error, and that is all the recovery
  asks. -/

omit [Build] [PcdTransceiver T E] in
/-- What a handler builds on its own is short. -/
theorem short_of_prologue {h : ProtocolHandler} {b : Block} (hb : b.bytes.length = h.prologueLen) :
    b.bytes.length + 2 ≤ 256 := by
  have hle := h.prologueLen_le
  omega

/-- The retries of a block take the same turns in both modes. -/
theorem similar_retry (receivingChain : Bool) (n : Nat) : Similar (Paired (T := T) cid) Eq
    (retry receivingChain n : Act (Pcd (SoftCrc T)) (PcdError (AirError E)) Block)
    (retry receivingChain n : Act (Pcd (HardCrc T)) (PcdError (AirError E)) Block) := by
  induction n with
  | zero => exact .throw _ _
  | succ n ih =>
    refine .get_bind fun s s' hs => ?_
    rw [hs.handler]
    have hshort : (if receivingChain then s.handler.buildRack
        else s.handler.buildRnak).bytes.length + 2 ≤ 256 := by
      split
      · exact short_of_prologue s.handler.length_buildRack
      · exact short_of_prologue s.handler.length_buildRnak
    refine (similar_transceiveBlock hshort).attempt_bind (fun resp _ hresp => ?_) fun _ _ => ih
    exact .pure hresp

/-- A round trip with its recovery, in both modes. -/
theorem similar_transceiveWithRecovery {block : Block} (hlen : block.bytes.length + 2 ≤ 256)
    (receivingChain : Bool) : Similar (Paired (T := T) cid) Eq
      (transceiveWithRecovery block receivingChain :
        Act (Pcd (SoftCrc T)) (PcdError (AirError E)) Block)
      (transceiveWithRecovery block receivingChain :
        Act (Pcd (HardCrc T)) (PcdError (AirError E)) Block) :=
  (similar_transceiveBlock hlen).attempt_bind (fun _ _ hresp => .pure hresp)
    fun _ _ => similar_retry _ _

omit [PcdTransceiver T E] in
/-- A block is processed alike, and the reply to it is short. -/
theorem similar_processReceived (block : Block) :
    Similar (Paired (T := T) cid)
      (fun a a' => a = a' ∧ ∀ reply, a = .reply reply → reply.bytes.length + 2 ≤ 256)
      (onHandler (ProtocolHandler.processReceived block) :
        Act (Pcd (SoftCrc T)) (PcdError (AirError E)) Action)
      (onHandler (ProtocolHandler.processReceived block) :
        Act (Pcd (HardCrc T)) (PcdError (AirError E)) Action) := by
  intro s s' hs
  rw [run_onHandler_receive, run_onHandler_receive, hs.handler]
  have hcid := s.handler.receive_cid block
  cases hr : s.handler.receive block with
  | mk r k =>
    rw [hr] at hcid
    refine ⟨?_, { hs with handler := rfl, cid := hcid.trans hs.cid }⟩
    cases r with
    | ok a =>
      refine ⟨rfl, fun reply ha => ?_⟩
      subst ha
      have hreply : Peer.Sendable 256 reply := Peer.sendable_reply (by omega) hr
      exact hreply.length
    | err e => trivial
    | panic => trivial
    | outOfFuel => trivial

/-! ### Exchanges -/

/-- The loop that collects a response, by induction on the rounds. -/
theorem similar_collectResponse (fuel : Nat) (block : Block) : Similar (Paired (T := T) cid) Eq
    (collectResponse fuel block : Act (Pcd (SoftCrc T)) (PcdError (AirError E)) ChainVec)
    (collectResponse fuel block : Act (Pcd (HardCrc T)) (PcdError (AirError E)) ChainVec) := by
  induction fuel generalizing block with
  | zero => exact .outOfFuel
  | succ fuel ih =>
    refine (similar_processReceived block).bind ?_
    rintro a _ ⟨rfl, hshort⟩
    cases a with
    | complete data => exact .pure rfl
    | reply reply =>
      exact (similar_transceiveWithRecovery (hshort reply rfl) _).bind_eq fun next => ih next
    | chainingAck => exact .throw _ _
    | chainingRetransmit => exact .throw _ _

/-- **The chunks of a command.** Each fits the frame of the card, and so the buffer.  The induction
    is on the fuel, and the two handlers are equal at every round. -/
theorem similar_sendLoop (apdu : List UInt8) {maxInf : Nat}
    (hinf : maxInf + (3 + if cid.isSome then 1 else 0) ≤ 256) (fuel offset : Nat)
    (lastResp : Option Block) : Similar (Paired (T := T) cid) Eq
      (sendLoop apdu maxInf fuel offset lastResp :
        Act (Pcd (SoftCrc T)) (PcdError (AirError E)) (Option Block))
      (sendLoop apdu maxInf fuel offset lastResp :
        Act (Pcd (HardCrc T)) (PcdError (AirError E)) (Option Block)) := by
  induction fuel generalizing offset lastResp with
  | zero =>
    unfold sendLoop
    exact .ite Iff.rfl (fun _ => .outOfFuel) fun _ => .pure rfl
  | succ fuel ih =>
    unfold sendLoop
    refine .ite Iff.rfl (fun hlt => ?_) fun _ => .pure rfl
    refine .get_bind fun s s' hs => ?_
    rw [hs.handler, Res.slice_of_le (by omega) (by omega), chunkAt_eq]
    refine (similar_lift_ok _).bind ?_
    rintro chunk _ ⟨rfl, rfl⟩
    have hchunk : (chunkAt apdu maxInf offset).length ≤ maxInf := by
      rw [chunkAt, List.length_take]
      exact Nat.min_le_left _ _
    rw [ProtocolHandler.buildIblock_of_fits _ (fits_frameCap (by omega))]
    refine (similar_lift_ok _).bind ?_
    rintro iblock _ ⟨rfl, rfl⟩
    -- the chunk and its prologue fit the frame of the card, so no buffer overflows
    have hlen : (s.handler.iblockOf (chunkAt apdu maxInf offset)
        (min (offset + maxInf) apdu.length < apdu.length)).bytes.length + 2 ≤ 256 := by
      rw [ProtocolHandler.length_iblockOf, ProtocolHandler.prologueLen, hs.cid]
      omega
    refine (similar_transceiveBlock hlen).bind_eq fun resp => ?_
    refine .ite Iff.rfl (fun _ => ?_) fun _ => ih _ _
    refine (similar_processReceived resp).bind ?_
    rintro a _ ⟨rfl, -⟩
    -- both handlers are at the same action
    cases a with
    | chainingAck => exact ih _ _
    | chainingRetransmit => exact ih _ _
    | complete data => exact .throw _ _
    | reply reply => exact .throw _ _

/-- **An exchange.** -/
theorem similar_exchange (fuel : Nat) (apdu : List UInt8) : Similar (Paired (T := T) cid) Eq
    (exchange fuel apdu : Act (Pcd (SoftCrc T)) (PcdError (AirError E)) ChainVec)
    (exchange fuel apdu : Act (Pcd (HardCrc T)) (PcdError (AirError E)) ChainVec) := by
  have hbegin : Similar (Paired (T := T) cid) Eq
      (Act.modify fun self => { self with handler := self.handler.beginExchange } :
        Act (Pcd (SoftCrc T)) (PcdError (AirError E)) Unit)
      (Act.modify fun self => { self with handler := self.handler.beginExchange } :
        Act (Pcd (HardCrc T)) (PcdError (AirError E)) Unit) := by
    refine .modify rfl fun s s' hs => ?_
    exact { hs with handler := by rw [hs.handler], cid := hs.cid }
  refine hbegin.bind_eq fun _ => .get_bind fun s s' hs => ?_
  rw [hs.handler, ProtocolHandler.buildIblock_of_fits _ (fits_frameCap (by simp))]
  refine (similar_lift_ok _).bind ?_
  rintro empty _ ⟨rfl, rfl⟩
  rw [hs.fsc, maxInf_eq]
  refine .ite Iff.rfl (fun _ => .throw _ _) fun hinf => ?_
  have hfits : s.maxInf + (3 + if cid.isSome then 1 else 0) ≤ 256 := by
    have hfsc := hs.fsc_le
    rw [maxInf, hs.cid] at hinf ⊢
    omega
  refine (similar_sendLoop apdu hfits fuel 0 none).bind_eq fun lastResp => ?_
  exact (similar_lift _).bind_eq fun first => similar_collectResponse fuel first

/-! ### The other operations

  `connect` is the one operation that does not start from two sessions, but ends in them. -/

/-- **A DESELECT**, tried twice. -/
theorem similar_deselect : Similar (Paired (T := T) cid) Eq
    (deselect : Act (Pcd (SoftCrc T)) (PcdError (AirError E)) Unit)
    (deselect : Act (Pcd (HardCrc T)) (PcdError (AirError E)) Unit) := by
  refine .get_bind fun s s' hs => ?_
  rw [hs.handler]
  have hcall : Similar (Paired (T := T) cid) Eq
      (transceiveBlock (s.handler.buildSblock .deselect) :
        Act (Pcd (SoftCrc T)) (PcdError (AirError E)) Block)
      (transceiveBlock (s.handler.buildSblock .deselect) :
        Act (Pcd (HardCrc T)) (PcdError (AirError E)) Block) :=
    similar_transceiveBlock (short_of_prologue (s.handler.length_buildSblock .deselect))
  have hagain : Similar (Paired (T := T) cid) Eq
      (do
        let resp ← transceiveBlock (s.handler.buildSblock .deselect)
        if isDeselected resp then pure () else Act.throw (.protocol .other) :
          Act (Pcd (SoftCrc T)) (PcdError (AirError E)) Unit)
      (do
        let resp ← transceiveBlock (s.handler.buildSblock .deselect)
        if isDeselected resp then pure () else Act.throw (.protocol .other) :
          Act (Pcd (HardCrc T)) (PcdError (AirError E)) Unit) :=
    hcall.bind_eq fun _ => .ite Iff.rfl (fun _ => .pure rfl) fun _ => .throw _ _
  refine hcall.attempt_bind ?_ fun _ _ => hagain
  rintro resp _ rfl
  exact .ite Iff.rfl (fun _ => .pure rfl) fun _ => hagain

/-- **A PPS.** -/
theorem similar_pps (dri dsi : Dxi) : Similar (Paired (T := T) cid) Eq
    (pps dri dsi : Act (Pcd (SoftCrc T)) (PcdError (AirError E)) Unit)
    (pps dri dsi : Act (Pcd (HardCrc T)) (PcdError (AirError E)) Unit) := by
  refine .get_bind fun s s' hs => ?_
  rw [hs.handler, hs.soft, hs.hard]
  refine similar_standard (by simp) (transceive_alike _) (fun body => ?_)
    fun resp e he _ _ _ => ⟨.protocol e, ?_⟩
  · have hread : PpsResp.tryFrom (withCrc body) = PpsResp.fromCrcVerified body := by
      rw [PpsResp.tryFrom, splitCrcA_withCrc]
      rfl
    rw [if_neg (by simp), if_pos rfl, hread]
    exact (similar_lift _).bind_eq fun _ => .pure rfl
  · rw [if_neg (by simp), Act.run_bind, run_lift, PpsResp.tryFrom, he]
    rfl

/-- The sessions of the two readers, and the ATS they read. -/
def PairedWith (cid : Option Cid) (p : Pcd (SoftCrc T) × Ats) (p' : Pcd (HardCrc T) × Ats) : Prop :=
  Paired cid p.1 p'.1 ∧ p.2 = p'.2

/-- The call of the transceiver in `connect`. -/
def callOf {T E : Type} [PcdTransceiver T E] (frame : Frame) : Act T (PcdError E) FrameVec :=
  ⟨fun t =>
    let (r, t) := PcdTransceiver.transceive t frame
    (ofExcept r, t)⟩

omit [Build] in
/-- One bare call, outside any session. -/
theorem callOf_alike (data : FrameVec) (s : SoftCrc T) (s' : HardCrc T) (h : SameAir s s') :
    AnsweredAlike
        ((callOf (.standard (withCrc data)) :
          Act (SoftCrc T) (PcdError (AirError E)) FrameVec).run s).1
        ((callOf (.standard data) :
          Act (HardCrc T) (PcdError (AirError E)) FrameVec).run s').1 ∧
      SameAir
        ((callOf (.standard (withCrc data)) :
          Act (SoftCrc T) (PcdError (AirError E)) FrameVec).run s).2
        ((callOf (.standard data) :
          Act (HardCrc T) (PcdError (AirError E)) FrameVec).run s').2 := by
  obtain ⟨t⟩ := s
  obtain ⟨t'⟩ := s'
  obtain rfl : t = t' := h
  simp only [callOf, (transceive_standard t data).1, (transceive_standard t data).2]
  refine ⟨?_, rfl⟩
  exact answeredAlike_opened (f := ofExcept) (fun _ => rfl) (fun e => ⟨.pcdTransceiver e, rfl⟩) _

/-- `connect`, once the transceiver was probed. -/
def connectAs {T E : Type} [PcdTransceiver T E] (hwCrc : Bool) (fsdi : Fsdi) (cid : Cid) :
    Act T (PcdError E) (Pcd T × Ats) := do
  let frame ← Act.lift .protocol (frameOf hwCrc [0xe0, RatsParam.toByte ⟨fsdi, cid⟩])
  let resp ← callOf frame
  let ats ← Act.lift .protocol (if hwCrc then Ats.fromCrcVerified resp else Ats.tryFrom resp)
  let t ← Act.get
  pure (new t ats fsdi (some cid) hwCrc, ats)

/-- **A RATS**, and the session its ATS opens. -/
theorem similar_connect (fsdi : Fsdi) (cid : Cid) : Similar (SameAir (T := T)) (PairedWith (some cid))
    (connect fsdi cid : Act (SoftCrc T) (PcdError (AirError E)) (Pcd (SoftCrc T) × Ats))
    (connect fsdi cid : Act (HardCrc T) (PcdError (AirError E)) (Pcd (HardCrc T) × Ats)) := by
  have hconnect : Similar (SameAir (T := T)) (PairedWith (some cid))
      (connectAs false fsdi cid : Act (SoftCrc T) (PcdError (AirError E)) (Pcd (SoftCrc T) × Ats))
      (connectAs true fsdi cid :
        Act (HardCrc T) (PcdError (AirError E)) (Pcd (HardCrc T) × Ats)) := by
    refine similar_standard (by simp) (callOf_alike _) (fun body => ?_)
      fun resp e he _ _ _ => ⟨.protocol e, ?_⟩
    · have hread : Ats.tryFrom (withCrc body) = Ats.fromCrcVerified body := by
        rw [Ats.tryFrom, splitCrcA_withCrc]
        rfl
      rw [if_neg (by simp), if_pos rfl, hread]
      refine Similar.bind_eq (.lift (Res.Similar.refl (fun _ => rfl) _)) fun ats => ?_
      refine .get_bind fun t t' ht => .pure ⟨?_, rfl⟩
      exact { air := ht, soft := rfl, hard := rfl, fsc := rfl,
              fsc_le := ats.format.fsci.fsc_bounds.2, fsd := rfl, handler := rfl, cid := rfl }
    · rw [if_neg (by simp), Act.run_bind, Act.run_lift, Ats.tryFrom, he]
      rfl
  exact fun s s' hs => hconnect s s' hs

end Pcd

/-! ## Every sequence of operations

  A program holds the transceiver, or a session that borrows it; which operations there are depends
  on that. -/

/-- What a program holds: the transceiver, or the session that borrows it. -/
inductive ReaderSession (T : Type) where
  | field (transceiver : T)
  | session (pcd : Pcd T)

/-- What it can do: the two functions that activate a card, `connect`, and the methods of a
    session. -/
inductive ReaderOp where
  | activate
  | wakeup
  | connect (fsdi : Fsdi) (cid : Cid)
  | setLimits (limits : Limits)
  | pps (dri dsi : Dxi)
  | exchange (fuel : Nat) (apdu : List UInt8)
  | deselect
  /-- The session is dropped. -/
  | release

/-- What it gets: the value of each operation, in one type. -/
inductive ReaderValue where
  | activated (activation : Activation)
  | connected (ats : Ats)
  | response (data : ChainVec)
  | done
deriving DecidableEq

/-- How an operation ended, without its error. -/
def seen {ε α : Type} (r : Res ε α) (value : α → ReaderValue) : Res Unit ReaderValue := do
  let a ← r.erase
  .ok (value a)

/-- Similar results show the caller the same. -/
theorem seen_similar {ε ε' α α' : Type} {V : α → α' → Prop} {r : Res ε α} {r' : Res ε' α'}
    {value : α → ReaderValue} {value' : α' → ReaderValue} (h : Res.Similar V r r')
    (hvalue : ∀ a a', V a a' → value a = value' a') : seen r value = seen r' value' := by
  cases r <;> cases r' <;> first | exact h.elim | skip
  · exact congrArg Res.ok (hvalue _ _ h)
  all_goals rfl

namespace ReaderSession

variable {T E : Type}

/-- Where the transceiver is. -/
def transceiver : ReaderSession T → T
  | .field t => t
  | .session pcd => pcd.transceiver

/-- An operation without a session. -/
def onField {ε α : Type} (m : Act T ε α) (value : α → ReaderValue) (t : T) :
    Option (Res Unit ReaderValue) × ReaderSession T :=
  let (r, t) := m.run t
  (some (seen r value), .field t)

/-- An operation of a session. -/
def onSession {ε α : Type} (m : Act (Pcd T) ε α) (value : α → ReaderValue) (pcd : Pcd T) :
    Option (Res Unit ReaderValue) × ReaderSession T :=
  let (r, pcd) := m.run pcd
  (some (seen r value), .session pcd)

/-- One operation.  There is no outcome where the borrow checker allows no such call. -/
def step [Build] [PcdTransceiver T E] (self : ReaderSession T) (op : ReaderOp) :
    Option (Res Unit ReaderValue) × ReaderSession T :=
  match self, op with
  | .field t, .activate => onField Activation.activate .activated t
  | .field t, .wakeup => onField Activation.wakeup .activated t
  | .field t, .connect fsdi cid =>
    match (Pcd.connect fsdi cid).run t with
    | (.ok (pcd, ats), _) => (some (.ok (.connected ats)), .session pcd)
    | (r, t) => (some (seen r fun p => .connected p.2), .field t)
  | .session pcd, .setLimits limits => (some (.ok .done), .session (pcd.setLimits limits))
  | .session pcd, .pps dri dsi => onSession (Pcd.pps dri dsi) (fun _ => .done) pcd
  | .session pcd, .exchange fuel apdu => onSession (Pcd.exchange fuel apdu) .response pcd
  | .session pcd, .deselect => onSession Pcd.deselect (fun _ => .done) pcd
  | .session pcd, .release => (some (.ok .done), .field pcd.transceiver)
  | self, _ => (none, self)

/-- The two readers at the same point of the same program. -/
inductive Alongside : ReaderSession (SoftCrc T) → ReaderSession (HardCrc T) → Prop
  | field {t : SoftCrc T} {t' : HardCrc T} (h : SameAir t t') : Alongside (.field t) (.field t')
  | session {pcd : Pcd (SoftCrc T)} {pcd' : Pcd (HardCrc T)} {cid : Option Cid}
      (h : Paired cid pcd pcd') : Alongside (.session pcd) (.session pcd')

/-- They are over the same wire. -/
theorem Alongside.air {s : ReaderSession (SoftCrc T)} {s' : ReaderSession (HardCrc T)}
    (h : Alongside s s') : s.transceiver.air = s'.transceiver.air := by
  cases h with
  | field h => exact h
  | session h => exact h.air

section Steps

variable [Build]

/-- They refuse the same frames for their size, and no others: the answer `body` with its CRC_A on
    the one side, without it on the other. -/
def RefuseAlike (s : ReaderSession (SoftCrc T)) (s' : ReaderSession (HardCrc T)) : Prop :=
  ∀ (pcd : Pcd (SoftCrc T)) (pcd' : Pcd (HardCrc T)), s = .session pcd → s' = .session pcd' →
    ∀ body, (pcd.parseBlockResponse (withCrc body) = .err (.limitExceeded .frameSize) ↔
      pcd'.parseBlockResponse body = .err (.limitExceeded .frameSize))

/-- With no session on either side both refuse alike. -/
theorem Alongside.refuse {s : ReaderSession (SoftCrc T)} {s' : ReaderSession (HardCrc T)}
    (h : Alongside s s') : RefuseAlike s s' := by
  rintro pcd pcd' rfl rfl body
  cases h with
  | session h => rw [Pcd.parseBlockResponse_withCrc h]

variable [PcdTransceiver T E]

omit [Build] [PcdTransceiver T E] in
/-- An operation on the field keeps the two readers alongside. -/
theorem alongside_onField {ε ε' α : Type} {m : Act (SoftCrc T) ε α} {m' : Act (HardCrc T) ε' α}
    (value : α → ReaderValue) (hm : Similar SameAir Eq m m') {t : SoftCrc T} {t' : HardCrc T}
    (ht : SameAir t t') : (onField m value t).1 = (onField m' value t').1 ∧
      Alongside (onField m value t).2 (onField m' value t').2 := by
  obtain ⟨hres, hstate⟩ := hm t t' ht
  exact ⟨congrArg some (seen_similar hres fun _ _ h => congrArg value h), .field hstate⟩

omit [Build] [PcdTransceiver T E] in
/-- So does an operation of a session. -/
theorem alongside_onSession {ε ε' α : Type} {m : Act (Pcd (SoftCrc T)) ε α}
    {m' : Act (Pcd (HardCrc T)) ε' α} (value : α → ReaderValue) {cid : Option Cid}
    (hm : Similar (Paired cid) Eq m m') {pcd : Pcd (SoftCrc T)} {pcd' : Pcd (HardCrc T)}
    (h : Paired cid pcd pcd') : (onSession m value pcd).1 = (onSession m' value pcd').1 ∧
      Alongside (onSession m value pcd).2 (onSession m' value pcd').2 := by
  obtain ⟨hres, hstate⟩ := hm pcd pcd' h
  exact ⟨congrArg some (seen_similar hres fun _ _ h => congrArg value h), .session hstate⟩

/-- **One operation**: the same outcome, at the same point of the program.  Only `connect` leads
    into a session, and only `release` out of it. -/
theorem alongside_step {s : ReaderSession (SoftCrc T)} {s' : ReaderSession (HardCrc T)}
    (h : Alongside s s') (op : ReaderOp) :
    (s.step op).1 = (s'.step op).1 ∧ Alongside (s.step op).2 (s'.step op).2 := by
  cases h with
  | @field t t' h =>
    cases op with
    | activate => exact alongside_onField _ (Activation.similar_doActivate (Or.inl rfl)) h
    | wakeup => exact alongside_onField _ (Activation.similar_doActivate (Or.inr rfl)) h
    | connect fsdi cid =>
      -- the one operation that leads into a session
      obtain ⟨hres, hstate⟩ := Pcd.similar_connect (E := E) fsdi cid t t' h
      simp only [step]
      generalize (Pcd.connect fsdi cid).run t = q at hres hstate ⊢
      generalize (Pcd.connect fsdi cid).run t' = q' at hres hstate ⊢
      obtain ⟨r, t⟩ := q
      obtain ⟨r', t'⟩ := q'
      cases r <;> cases r' <;>
        first | exact hres.elim | exact ⟨rfl, .field hstate⟩ | skip
      next p p' =>
        obtain ⟨pcd, ats⟩ := p
        obtain ⟨pcd', ats'⟩ := p'
        obtain ⟨hpcd, rfl : ats = ats'⟩ := hres
        exact ⟨rfl, .session hpcd⟩
    | setLimits | pps | exchange | deselect | release => exact ⟨rfl, .field h⟩
  | @session pcd pcd' cid h =>
    -- in a session
    cases op with
    | setLimits limits =>
      have hset : Paired cid (pcd.setLimits limits) (pcd'.setLimits limits) :=
        { h with handler := by simp only [Pcd.setLimits, h.handler], cid := h.cid }
      exact ⟨rfl, .session hset⟩
    | pps dri dsi => exact alongside_onSession _ (Pcd.similar_pps dri dsi) h
    | exchange fuel apdu => exact alongside_onSession _ (Pcd.similar_exchange fuel apdu) h
    | deselect => exact alongside_onSession _ Pcd.similar_deselect h
    | release => exact ⟨rfl, .field h.air⟩
    | activate | wakeup | connect => exact ⟨rfl, .session h⟩

/-- **Software and hardware are the same reader.**  Over one wire, every sequence of operations ends
    alike in both modes, operation by operation, with the same values; the wire has carried the same
    frames, and the same answers; and the same frames are refused for their size. -/
theorem modes_alike (wire : Tally T E) (ops : List ReaderOp) :
    List.Forall₂
      (fun e e' => e.output = e'.output ∧
        e.after.transceiver.air.log = e'.after.transceiver.air.log ∧ RefuseAlike e.after e'.after)
      (Run.trace step (.field (⟨wire⟩ : SoftCrc (Tally T E))) ops)
      (Run.trace step (.field (⟨wire⟩ : HardCrc (Tally T E))) ops) := by
  have hstart : Alongside (.field (⟨wire⟩ : SoftCrc (Tally T E)))
      (.field (⟨wire⟩ : HardCrc (Tally T E))) := .field rfl
  have hstep : ∀ (s : ReaderSession (SoftCrc (Tally T E))) (s' : ReaderSession (HardCrc (Tally T E)))
      (op : ReaderOp), Alongside s s' →
        (s.step op).1 = (s'.step op).1 ∧ Alongside (s.step op).2 (s'.step op).2 :=
    fun _ _ op h => alongside_step h op
  have hruns := Run.trace_side_by_side step hstep hstart ops
  refine hruns.imp fun e e' h => ⟨h.1, ?_, h.2.refuse⟩
  rw [h.2.air]

end Steps

end ReaderSession

end Iso14443
