/-
  Two readers side by side (`src/type_a/pcd.rs`, `activation.rs`).

  The two may be of different builds and on different transceivers.  Whatever relates them, it is
  enough that it relates their steps: a block out and a block in, a block given to the handler, and
  the start of an exchange.  The walk through the loops and the retries is made here, once for
  every relator.

  * `CallSteps`, `Steps` — the steps of two readers in a session are related.
  * `CallSteps.deselect`, `CallSteps.pps`, `Steps.exchange` — so are the operations of the session.
  * `FieldSteps.doActivate`, `readAts_related` — the same without a session.
  * `ReaderSession.keeps_step` — so what every call of the transceiver keeps, every operation
    keeps.

  A build decides one thing in these methods, whether a buffer overflows.  A block that is short
  enough makes the same frame in both (`Short`), and every block that the reader builds within its
  frame sizes is; so two builds differ only in what the handler can hold of a response, which is a
  step and not the walk.
-/
import Iso14443.Activation
import Iso14443.CommandChunks
import Iso14443.CrcModes
import Iso14443.Lib.Relator

namespace Iso14443

open Act

/-! ## A session

  The steps, and the walk through the methods of a session.  The loops are inductions on their
  fuel, which both readers have the same of. -/

namespace Pcd

variable {T T' E : Type}

/-- What two readers see of themselves is the same: the mode and the frame size, from which the
    chunks are cut, and the CID and the number, from which the blocks are built. -/
structure SeenAlike (s : Pcd T) (s' : Pcd T') : Prop where
  hwCrc : s'.hwCrc = s.hwCrc
  fsc : s'.fsc = s.fsc
  cid : s'.handler.cid = s.handler.cid
  number : s'.handler.blockNumber = s.handler.blockNumber

/-- A block that makes the same frame in both builds. -/
def Short (B B' : Build) (b : Block) : Prop := B = B' ∨ b.bytes.length + 2 ≤ 256

/-- **The calls of two readers are related.** This is all that `deselect` and `pps` are made of.  A
    block is related where it is short enough for the buffers of both builds. -/
structure CallSteps (B B' : Build) [PcdTransceiver T E] [PcdTransceiver T' E]
    (View : Pcd T → Pcd T' → Prop)
    (P : ∀ α : Type, Act (Pcd T) (PcdError E) α → Act (Pcd T') (PcdError E) α → Prop) : Prop where
  relator : Relator View P
  seen : ∀ s s', View s s' → SeenAlike s s'
  call : ∀ frame, P _ (transceive frame) (transceive frame)
  block : ∀ b, Short B B' b → P _ (@transceiveBlock T E B _ b) (@transceiveBlock T' E B' _ b)
  tried : ∀ b, Short B B' b →
    P (Except (PcdError E) Block) (Act.attempt (@transceiveBlock T E B _ b))
      (Act.attempt (@transceiveBlock T' E B' _ b))

/-- **The steps of two readers are related**: their calls, and what their handlers do. -/
structure Steps (B B' : Build) [PcdTransceiver T E] [PcdTransceiver T' E]
    (View : Pcd T → Pcd T' → Prop)
    (P : ∀ α : Type, Act (Pcd T) (PcdError E) α → Act (Pcd T') (PcdError E) α → Prop) : Prop
    extends CallSteps B B' View P where
  /-- Buffers of different sizes are for one card whose frames fit them all. -/
  builds : B = B' ∨ ∃ fsc cid, fsc ≤ 256 ∧ ∀ s s', View s s' → s.fsc = fsc ∧ s.handler.cid = cid
  begins : P Unit (Act.modify fun self => { self with handler := self.handler.beginExchange })
    (Act.modify fun self => { self with handler := self.handler.beginExchange })
  received : ∀ b, P _ (onHandler (@ProtocolHandler.processReceived B b))
    (onHandler (@ProtocolHandler.processReceived B' b))

namespace SeenAlike

variable {B B' : Build} {s : Pcd T} {s' : Pcd T'}

/-- Both put the same CID on a block. -/
theorem addCid (h : SeenAlike s s') (b : Block) : s'.handler.addCid b = s.handler.addCid b := by
  rw [ProtocolHandler.addCid, h.cid, ProtocolHandler.addCid]

/-- Two readers seen alike build the same R(ACK). -/
theorem buildRack (h : SeenAlike s s') : s'.handler.buildRack = s.handler.buildRack := by
  rw [ProtocolHandler.buildRack, h.number, h.addCid, ProtocolHandler.buildRack]

/-- They build the same R(NAK). -/
theorem buildRnak (h : SeenAlike s s') : s'.handler.buildRnak = s.handler.buildRnak := by
  rw [ProtocolHandler.buildRnak, h.number, h.addCid, ProtocolHandler.buildRnak]

/-- They build the same S-Blocks. -/
theorem buildSblock (h : SeenAlike s s') (subtype : SBlockSubtype) :
    s'.handler.buildSblock subtype = s.handler.buildSblock subtype := by
  rw [ProtocolHandler.buildSblock, h.addCid, ProtocolHandler.buildSblock]

/-- **A chunk that fits the buffers** is built by both, and is short. -/
theorem buildIblock (h : SeenAlike s s') (payload : List UInt8) (chaining : Bool)
    (hlen : B = B' ∨ payload.length + (s.handler.prologueLen + 2) ≤ 256) :
    @ProtocolHandler.buildIblock B' s'.handler payload chaining =
        @ProtocolHandler.buildIblock B s.handler payload chaining ∧
      ∀ b, @ProtocolHandler.buildIblock B s.handler payload chaining = .ok b → Short B B' b := by
  have hsame : ∀ C : Build, @ProtocolHandler.buildIblock C s'.handler payload chaining =
      @ProtocolHandler.buildIblock C s.handler payload chaining := by
    intro C
    simp only [ProtocolHandler.buildIblock, h.number, h.addCid]
  rcases hlen with rfl | hle
  · exact ⟨hsame B, fun _ _ => Or.inl rfl⟩
  · have hfits : ∀ C : Build, @ProtocolHandler.buildIblock C s.handler payload chaining =
        .ok (s.handler.iblockOf payload chaining) := fun C =>
      @ProtocolHandler.buildIblock_of_fits C s.handler payload (@fits_frameCap C _ (by omega)) chaining
    refine ⟨by rw [hsame, hfits, hfits], fun b hb => Or.inr ?_⟩
    rw [hfits] at hb
    cases hb
    rw [ProtocolHandler.length_iblockOf]
    omega

end SeenAlike

/-- What the handler replies is short. -/
theorem short_reply (C B B' : Build) {b reply : Block}
    (h : (onHandler (@ProtocolHandler.processReceived C b) :
      Act (Pcd T) (PcdError E) Action).Gives (.reply reply)) : Short B B' reply := by
  obtain ⟨s, t, hrun⟩ := h
  have hr : @ProtocolHandler.receive C s.handler b =
      (.ok (.reply reply), (@ProtocolHandler.receive C s.handler b).2) :=
    Prod.ext (Res.mapErr_eq_ok.mp (congrArg Prod.fst hrun)) rfl
  have hbrief := @ProtocolHandler.brief_reply C _ _ _ _ hr
  exact Or.inr (by have := hbrief.length; omega)

namespace CallSteps

variable {B B' : Build} [PcdTransceiver T E] [PcdTransceiver T' E] {View : Pcd T → Pcd T' → Prop}
  {P : ∀ α : Type, Act (Pcd T) (PcdError E) α → Act (Pcd T') (PcdError E) α → Prop}

/-- The retries. -/
theorem retry (h : CallSteps B B' View P) (receivingChain : Bool) (n : Nat) :
    P _ (@Pcd.retry T E B _ receivingChain n) (@Pcd.retry T' E B' _ receivingChain n) := by
  induction n with
  | zero => exact h.relator.throw _
  | succ n ih =>
    refine h.relator.get_bind fun s s' hs => ?_
    have hseen := h.seen s s' hs
    rw [hseen.buildRack, hseen.buildRnak]
    have hshort : Short B B' (if receivingChain then s.handler.buildRack
        else s.handler.buildRnak) := by
      split
      · exact Or.inr (short_of_prologue s.handler.length_buildRack)
      · exact Or.inr (short_of_prologue s.handler.length_buildRnak)
    refine h.relator.bind (h.tried _ hshort) fun r _ => ?_
    cases r with
    | ok resp => exact h.relator.pure resp
    | error _ => exact ih

/-- A round trip with its recovery is a round trip and then its retries. -/
theorem transceiveWithRecovery (h : CallSteps B B' View P) {b : Block} (hb : Short B B' b)
    (receivingChain : Bool) : P _ (@Pcd.transceiveWithRecovery T E B _ b receivingChain)
      (@Pcd.transceiveWithRecovery T' E B' _ b receivingChain) := by
  refine h.relator.bind (h.tried b hb) fun r _ => ?_
  cases r with
  | ok resp => exact h.relator.pure resp
  | error _ => exact h.retry receivingChain maxRetries

/-- **A DESELECT**, tried twice. -/
theorem deselect (h : CallSteps B B' View P) :
    P _ (@Pcd.deselect T E B _) (@Pcd.deselect T' E B' _) := by
  refine h.relator.get_bind fun s s' hs => ?_
  rw [(h.seen s s' hs).buildSblock]
  have hshort : Short B B' (s.handler.buildSblock .deselect) :=
    Or.inr (short_of_prologue (s.handler.length_buildSblock .deselect))
  have hagain : P Unit
      (do
        let resp ← @transceiveBlock T E B _ (s.handler.buildSblock .deselect)
        if isDeselected resp then pure () else Act.throw (.protocol .other))
      (do
        let resp ← @transceiveBlock T' E B' _ (s.handler.buildSblock .deselect)
        if isDeselected resp then pure () else Act.throw (.protocol .other)) :=
    h.relator.bind (h.block _ hshort) fun _ _ =>
      h.relator.ite (fun _ => h.relator.pure ()) fun _ => h.relator.throw _
  refine h.relator.bind (h.tried _ hshort) fun r _ => ?_
  cases r with
  | ok resp => exact h.relator.ite (fun _ => h.relator.pure ()) fun _ => hagain
  | error _ => exact hagain

/-- **A PPS.** -/
theorem pps (h : CallSteps B B' View P) (dri dsi : Dxi) :
    P _ (@Pcd.pps T E B _ dri dsi) (@Pcd.pps T' E B' _ dri dsi) := by
  refine h.relator.get_bind fun s s' hs => ?_
  have hseen := h.seen s s' hs
  have hframe : ∀ (C : Build) (pps1 : UInt8),
      @frameOf C s.hwCrc [0xd0 + (s.handler.buildRack.cid.getD 0).value, 0x11, pps1] =
        .ok (.standard (closed s.hwCrc [0xd0 + (s.handler.buildRack.cid.getD 0).value, 0x11, pps1])) :=
    fun C _ => @frameOf_of_fits C s.hwCrc _ (by simp)
  rw [hseen.buildRack, hseen.hwCrc]
  simp only [hframe]
  refine h.relator.bind (h.relator.lift _ _) fun frame _ => ?_
  refine h.relator.bind (h.call frame) fun resp _ => ?_
  exact h.relator.bind (h.relator.lift _ _) fun _ _ => h.relator.pure ()

end CallSteps

namespace Steps

variable {B B' : Build} [PcdTransceiver T E] [PcdTransceiver T' E] {View : Pcd T → Pcd T' → Prop}
  {P : ∀ α : Type, Act (Pcd T) (PcdError E) α → Act (Pcd T') (PcdError E) α → Prop}

/-- The receive loop. -/
theorem collectResponse (h : Steps B B' View P) (fuel : Nat) : ∀ b : Block,
    P _ (@Pcd.collectResponse T E B _ fuel b) (@Pcd.collectResponse T' E B' _ fuel b) := by
  induction fuel with
  | zero => exact fun _ => h.relator.outOfFuel
  | succ fuel ih =>
    intro b
    refine h.relator.bind (h.received b) fun a ha => ?_
    cases a with
    | complete data => exact h.relator.pure data
    | reply reply =>
      exact h.relator.bind (h.transceiveWithRecovery (short_reply B B B' ha) true) fun next _ =>
        ih next
    | chainingAck => exact h.relator.throw _
    | chainingRetransmit => exact h.relator.throw _

/-- The send loop, with chunks that fit the frame of the card.  The induction is on the fuel; the
    offset moves alike on both sides, since the action does. -/
theorem sendLoop (h : Steps B B' View P) (apdu : List UInt8) {maxInf : Nat}
    (hinf : B = B' ∨ ∀ s s', View s s' → maxInf + (s.handler.prologueLen + 2) ≤ 256)
    (fuel : Nat) : ∀ (offset : Nat) (last : Option Block),
    P _ (@Pcd.sendLoop T E B _ apdu maxInf fuel offset last)
      (@Pcd.sendLoop T' E B' _ apdu maxInf fuel offset last) := by
  induction fuel with
  | zero =>
    intro offset last
    unfold Pcd.sendLoop
    exact h.relator.ite (fun _ => h.relator.outOfFuel) fun _ => h.relator.pure last
  | succ fuel ih =>
    intro offset last
    unfold Pcd.sendLoop
    refine h.relator.ite (fun _ => ?_) fun _ => h.relator.pure last
    refine h.relator.get_bind fun s s' hs => ?_
    refine h.relator.bind (h.relator.lift _ _) fun chunk hchunk => ?_
    -- the chunk that was cut is within the chunk size
    have hlen : chunk.length ≤ maxInf := by
      have hslice := gives_lift hchunk
      unfold Res.slice at hslice
      split at hslice
      · cases hslice
        rw [List.length_drop, List.length_take]
        omega
      · cases hslice
    obtain ⟨hsame, hshort⟩ := (h.seen s s' hs).buildIblock chunk
      (min (offset + maxInf) apdu.length < apdu.length)
      (hinf.imp id fun hinf => by have := hinf s s' hs; omega)
    -- so both build the same block, and it is short
    rw [hsame]
    refine h.relator.bind (h.relator.lift _ _) fun iblock hiblock => ?_
    refine h.relator.bind (h.block iblock (hshort iblock (gives_lift hiblock))) fun resp _ => ?_
    refine h.relator.ite (fun _ => ?_) fun _ => ih _ _
    refine h.relator.bind (h.received resp) fun a _ => ?_
    cases a with
    | chainingAck => exact ih _ _
    | chainingRetransmit => exact ih _ _
    | complete data => exact h.relator.throw _
    | reply reply => exact h.relator.throw _

/-- **An exchange.** -/
theorem exchange (h : Steps B B' View P) (fuel : Nat) (apdu : List UInt8) :
    P _ (@Pcd.exchange T E B _ fuel apdu) (@Pcd.exchange T' E B' _ fuel apdu) := by
  refine h.relator.bind h.begins fun _ _ => h.relator.get_bind fun s s' hs => ?_
  have hseen := h.seen s s' hs
  have hprologue := s.handler.prologueLen_le
  have hfits : ∀ C : Build, @ProtocolHandler.buildIblock C s.handler [] false =
      .ok (s.handler.iblockOf [] false) := fun C =>
    @ProtocolHandler.buildIblock_of_fits C s.handler [] (@fits_frameCap C _ (by simp)) false
  have hempty := (@SeenAlike.buildIblock T T' B B' s s' hseen [] false
    (Or.inr (by simp only [List.length_nil]; omega))).1
  rw [hempty, hfits]
  refine h.relator.bind (h.relator.lift _ _) fun empty he => ?_
  obtain rfl : s.handler.iblockOf [] false = empty := Res.ok.inj (gives_lift he)
  rw [hseen.fsc, maxInf_eq]
  refine h.relator.ite (fun _ => h.relator.throw _) fun hinf => ?_
  -- a chunk and what is around it fit the frame of the card
  have hchunks : B = B' ∨ ∀ t t', View t t' → s.maxInf + (t.handler.prologueLen + 2) ≤ 256 := by
    refine h.builds.imp id fun ⟨fsc, cid, hfsc, hall⟩ t t' ht => ?_
    have hs' := hall s s' hs
    have ht' := hall t t' ht
    rw [maxInf] at hinf ⊢
    rw [ProtocolHandler.prologueLen, ht'.2, ← hs'.2]
    omega
  refine h.relator.bind (h.sendLoop apdu hchunks fuel 0 none) fun lastResp _ => ?_
  exact h.relator.bind (h.relator.lift _ _) fun first _ => h.collectResponse fuel first

end Steps

end Pcd

/-! ## Without a session

  An activation is a list of calls in a row; what goes into one is computed from the answers before
  it. -/

namespace Activation

variable {T T' E : Type}

/-- **The steps of two readers without a session are related**: a frame out and its answer back, and
    the question whether the transceiver checks the CRC_A. -/
structure FieldSteps [PcdTransceiver T E] [PcdTransceiver T' E] (View : T → T' → Prop)
    (P : ∀ α : Type, Act T (ActivationError E) α → Act T' (ActivationError E) α → Prop) : Prop where
  relator : Relator View P
  call : ∀ frame, P _ (transceive frame) (transceive frame)
  probe : P _ tryEnableHwCrc tryEnableHwCrc

/-- The two requests are the same frames in both builds. -/
theorem toFrame_build (B B' : Build) {req : Command} (hreq : req = .reqA ∨ req = .wupA) :
    @Command.toFrame B req = @Command.toFrame B' req := by
  have hpush : ∀ (C : Build) (byte : UInt8), tryPush (@frameCap C) [] byte = .ok [byte] :=
    fun C byte => tryPush_of_fits (@fits_frameCap C _ (by simp))
  rcases hreq with rfl | rfl
  · simp only [Command.toFrame, Command.toVec, hpush]
  · simp only [Command.toFrame, Command.toVec, hpush]

namespace FieldSteps

variable [PcdTransceiver T E] [PcdTransceiver T' E] {View : T → T' → Prop}
  {P : ∀ α : Type, Act T (ActivationError E) α → Act T' (ActivationError E) α → Prop}

/-- One level of anticollision is one call. -/
theorem doAnticollision (h : FieldSteps View P) (B B' : Build) (sel : UInt8) :
    P _ (@Activation.doAnticollision T E _ B sel) (@Activation.doAnticollision T' E _ B' sel) := by
  have hfits : ∀ (C : Build) {n : Nat}, n ≤ 2 → Fits (@frameCap C) n :=
    fun C n hn => @fits_frameCap C n (by omega)
  refine h.relator.lift_bind (tryPush_of_fits (hfits B (by simp)))
    (tryPush_of_fits (hfits B' (by simp))) ?_
  refine h.relator.lift_bind (tryPush_of_fits (hfits B (by simp)))
    (tryPush_of_fits (hfits B' (by simp))) ?_
  refine h.relator.bind (h.call _) fun resp _ => ?_
  refine h.relator.ite (fun _ => h.relator.throw _) fun _ => ?_
  refine h.relator.bind (h.relator.lift _ _) fun uid0 _ => ?_
  refine h.relator.bind (h.relator.lift _ _) fun uid1 _ => ?_
  refine h.relator.bind (h.relator.lift _ _) fun uid2 _ => ?_
  refine h.relator.bind (h.relator.lift _ _) fun uid3 _ => ?_
  refine h.relator.bind (h.relator.lift _ _) fun bcc _ => ?_
  exact h.relator.ite (fun _ => h.relator.throw _) fun _ => h.relator.lift _ _

/-- A SELECT is one call. -/
theorem doSelect (h : FieldSteps View P) (B B' : Build) (sel : UInt8) (uidBcc : Vector UInt8 5)
    (hwCrc : Bool) : P _ (@Activation.doSelect T E _ B sel uidBcc hwCrc)
      (@Activation.doSelect T' E _ B' sel uidBcc hwCrc) := by
  have hfits : ∀ (C : Build) {n : Nat}, n ≤ 7 → Fits (@frameCap C) n :=
    fun C n hn => @fits_frameCap C n (by omega)
  refine h.relator.lift_bind (tryPush_of_fits (hfits B (by simp)))
    (tryPush_of_fits (hfits B' (by simp))) ?_
  refine h.relator.lift_bind (tryPush_of_fits (hfits B (by simp)))
    (tryPush_of_fits (hfits B' (by simp))) ?_
  refine h.relator.lift_bind (tryExtend_of_fits (hfits B (by simp)))
    (tryExtend_of_fits (hfits B' (by simp))) ?_
  refine h.relator.lift_bind (@frameOf_of_fits B hwCrc _ (by simp))
    (@frameOf_of_fits B' hwCrc _ (by simp)) ?_
  refine h.relator.bind (h.call _) fun resp _ => ?_
  refine h.relator.ite (fun _ => ?_) fun _ => h.relator.lift _ _
  refine h.relator.ite (fun _ => h.relator.throw _) fun _ => ?_
  exact h.relator.bind (h.relator.lift _ _) fun sak _ => h.relator.pure _

/-- The UID is put together alike. -/
theorem buildActivation (h : FieldSteps View P) (B B' : Build) (atqa : AtqA) (sak : Sak)
    {uidCls : List (Vector UInt8 5)} {levels : Nat} (hlevels : 1 ≤ levels)
    (hlen : uidCls.length ≤ 3) :
    P _ (lift (@Activation.buildActivation B atqa sak uidCls levels))
      (lift (@Activation.buildActivation B' atqa sak uidCls levels)) := by
  rw [@buildActivation_eq B atqa sak _ _ hlevels hlen, @buildActivation_eq B' atqa sak _ _ hlevels hlen]
  exact h.relator.lift _ _

/-- **An activation**, with REQA or with WUPA. -/
theorem doActivate (h : FieldSteps View P) (B B' : Build) {req : Command}
    (hreq : req = .reqA ∨ req = .wupA) :
    P _ (@Activation.doActivate T E _ B req) (@Activation.doActivate T' E _ B' req) := by
  refine h.relator.bind h.probe fun hwCrc _ => ?_
  obtain ⟨byte, -, hframe⟩ := @toFrame_request B req hreq
  refine h.relator.lift_bind hframe ((toFrame_build B' B hreq).trans hframe) ?_
  refine h.relator.bind (h.call _) fun resp _ => ?_
  refine h.relator.bind (h.relator.lift _ _) fun atqa _ => ?_
  refine h.relator.bind (h.doAnticollision B B' _) fun uidCl1 _ => ?_
  refine h.relator.bind (h.doSelect B B' _ _ _) fun sak _ => ?_
  refine h.relator.ite (fun _ => h.buildActivation B B' _ _ (by omega) (by simp)) fun _ => ?_
  refine h.relator.bind (h.doAnticollision B B' _) fun uidCl2 _ => ?_
  refine h.relator.bind (h.doSelect B B' _ _ _) fun sak _ => ?_
  refine h.relator.ite (fun _ => h.buildActivation B B' _ _ (by omega) (by simp)) fun _ => ?_
  refine h.relator.bind (h.doAnticollision B B' _) fun uidCl3 _ => ?_
  refine h.relator.bind (h.doSelect B B' _ _ _) fun sak _ => ?_
  exact h.relator.ite (fun _ => h.buildActivation B B' _ _ (by omega) (by simp))
    fun _ => h.relator.throw _

end FieldSteps

end Activation

/-! ## Opening a session

  `connect` starts from a transceiver and ends in a session, so it is related in two parts: the ATS
  that is read, and the session that is made of it. -/

/-- **An ATS is read alike** in both builds: it is no longer than its length byte says. -/
theorem Ats.fromCrcVerified_build (B B' : Build) (body : List UInt8) :
    @Ats.fromCrcVerified B body = @Ats.fromCrcVerified B' body := by
  unfold Ats.fromCrcVerified
  refine congrArg _ (funext fun length => ?_)
  split
  · rfl
  · next hlen =>
    have hbody : body.length ≤ 255 := by
      have := length.toNat_lt
      omega
    have hext : ∀ (C : Build) (offset : Nat),
        tryExtend (@frameCap C) [] (body.drop offset) = .ok ([] ++ body.drop offset) :=
      fun C offset => tryExtend_of_fits (@fits_frameCap C _ (by simp; omega))
    simp only [hext]

namespace Pcd

variable {T T' E : Type}

/-- A RATS, and the ATS on it. -/
def readAts (B : Build) [PcdTransceiver T E] (hwCrc : Bool) (fsdi : Fsdi) (cid : Cid) :
    Act T (PcdError E) Ats := do
  let frame ← Act.lift .protocol (frameOf hwCrc [0xe0, RatsParam.toByte ⟨fsdi, cid⟩])
  let resp ← callOf frame
  Act.lift .protocol (if hwCrc then Ats.fromCrcVerified resp else Ats.tryFrom resp)

/-- **A RATS** is made and answered alike. -/
theorem readAts_related [PcdTransceiver T E] [PcdTransceiver T' E] {View : T → T' → Prop}
    {P : ∀ α : Type, Act T (PcdError E) α → Act T' (PcdError E) α → Prop} (h : Relator View P)
    (hcall : ∀ frame, P _ (callOf frame) (callOf frame)) (B B' : Build) (hwCrc : Bool) (fsdi : Fsdi)
    (cid : Cid) : P _ (readAts B hwCrc fsdi cid) (readAts B' hwCrc fsdi cid) := by
  refine h.lift_bind (@frameOf_of_fits B hwCrc _ (by simp)) (@frameOf_of_fits B' hwCrc _ (by simp)) ?_
  refine h.bind (hcall _) fun resp _ => ?_
  have htry : @Ats.tryFrom B resp = @Ats.tryFrom B' resp := by
    unfold Ats.tryFrom
    exact congrArg _ (funext fun body => Ats.fromCrcVerified_build B B' body)
  rw [Ats.fromCrcVerified_build B B' resp, htry]
  exact h.lift _ _

/-- What the probe found. -/
def probed [PcdTransceiver T E] (t : T) : Bool :=
  match (PcdTransceiver.tryEnableHwCrc t).1 with
  | .ok _ => true
  | .error _ => false

/-- `connect`: the probe, the RATS, and the session. -/
theorem run_connect (B : Build) [PcdTransceiver T E] (fsdi : Fsdi) (cid : Cid) (t : T) :
    (@connect T E B _ fsdi cid).run t =
      match (readAts B (probed t) fsdi cid).run (PcdTransceiver.tryEnableHwCrc t).2 with
      | (.ok ats, t') => (.ok (@new T B t' ats fsdi (some cid) (probed t), ats), t')
      | (.err e, t') => (.err e, t')
      | (.panic, t') => (.panic, t')
      | (.outOfFuel, t') => (.outOfFuel, t') := by
  show (@connectAs B T E _ (probed t) fsdi cid).run (PcdTransceiver.tryEnableHwCrc t).2 = _
  generalize probed t = hwCrc
  generalize (PcdTransceiver.tryEnableHwCrc t).2 = t
  simp only [connectAs, readAts, Act.run_bind, Act.run_lift]
  generalize (Res.mapErr PcdError.protocol (frameOf hwCrc _) : Res (PcdError E) Frame) = x
  cases x with
  | ok frame =>
    rcases h : (callOf frame : Act T (PcdError E) FrameVec).run t with ⟨resp | _ | _ | _, t'⟩
    · simp only [h]
      generalize (Res.mapErr PcdError.protocol _ : Res (PcdError E) Ats) = y
      cases y <;> rfl
    all_goals simp only [h]
  | err e => rfl
  | panic => rfl
  | outOfFuel => rfl

end Pcd

/-! ## What the transceiver keeps

  The walk for a single reader, and a property of its transceiver. -/

namespace ReaderSession

variable {T E : Type} [B : Build] [PcdTransceiver T E] {I : T → Prop}

/-- The steps of one reader whose transceiver keeps `I`. -/
theorem keepsSteps (hcall : ∀ t frame, I t → I (PcdTransceiver.transceive (E := E) t frame).2) :
    Pcd.Steps B B Eq (fun _ (m : Act (Pcd T) (PcdError E) _) _ =>
      Keeps (fun s : Pcd T => I s.transceiver) m) := by
  have htransceive : ∀ frame, Keeps (fun s : Pcd T => I s.transceiver)
      (Pcd.transceive frame : Act (Pcd T) (PcdError E) FrameVec) := fun frame s hs => hcall _ frame hs
  have hblock : ∀ b, Keeps (fun s : Pcd T => I s.transceiver)
      (Pcd.transceiveBlock b : Act (Pcd T) (PcdError E) Block) := fun b =>
    (Keeps.lift _ _).bind fun _ => .get_bind fun _ => (Keeps.lift _ _).bind fun _ =>
      (htransceive _).bind fun _ => .get_bind fun _ => Keeps.lift _ _
  exact
    { relator := relator_keeps _
      seen := by rintro s _ rfl; exact ⟨rfl, rfl, rfl, rfl⟩
      call := htransceive
      block := fun b _ => hblock b
      tried := fun b _ => (hblock b).attempt
      builds := Or.inl rfl
      begins := .modify fun s hs => hs
      received := fun b => .zoom _ _ fun h s hs => hs }

/-- **What every call keeps, every operation keeps**, however it ends. -/
theorem keeps_step (hcall : ∀ t frame, I t → I (PcdTransceiver.transceive (E := E) t frame).2)
    (hprobe : ∀ t, I t → I (PcdTransceiver.tryEnableHwCrc (E := E) t).2) {s : ReaderSession T}
    (hs : I s.transceiver) (op : ReaderOp) : I (s.step (E := E) op).2.transceiver := by
  have hfield : Activation.FieldSteps (E := E) Eq (fun _ (m : Act T (ActivationError E) _) _ =>
      Keeps I m) :=
    { relator := relator_keeps I
      call := fun frame t ht => hcall t frame ht
      probe := fun t ht => hprobe t ht }
  have hsteps := keepsSteps (E := E) hcall
  cases s with
  | field t =>
    cases op with
    | activate => exact hfield.doActivate B B (Or.inl rfl) t hs
    | wakeup => exact hfield.doActivate B B (Or.inr rfl) t hs
    | connect fsdi cid =>
      have hread := Pcd.readAts_related (P := fun _ (m : Act T (PcdError E) _) _ => Keeps I m)
        (relator_keeps I) (fun frame t ht => hcall t frame ht) B B (Pcd.probed (E := E) t) fsdi cid
        _ (hprobe t hs)
      simp only [step]
      rw [Pcd.run_connect B]
      rcases hrun : (Pcd.readAts B (Pcd.probed (E := E) t) fsdi cid).run
        (PcdTransceiver.tryEnableHwCrc (E := E) t).2 with ⟨ats | _ | _ | _, t'⟩
      all_goals
        rw [hrun] at hread
        exact hread
    | setLimits | pps | exchange | deselect | release => exact hs
  | session pcd =>
    cases op with
    | pps dri dsi => exact hsteps.pps dri dsi pcd hs
    | exchange fuel apdu => exact hsteps.exchange fuel apdu pcd hs
    | deselect => exact hsteps.deselect pcd hs
    | activate | wakeup | connect | setLimits | release => exact hs

end ReaderSession

end Iso14443
