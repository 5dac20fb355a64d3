/-
  No peer makes either side panic.

  Whatever the transceiver gives, an answer of any length or an error, every index and slice is in
  bounds and every arm marked as unreachable is.  A panic is an ending of the model like any other
  (`Res.panic`), so this is a statement about results: an action is `Calm` when none of its runs
  ends in it.

  * **The reader** needs no assumption: from any state of a session every operation is calm.  The
    proofs follow the code line by line, and the only places with something to say are those where
    it indexes: a length was compared before, or the constants are small enough.
  * **The card** needs one, which its own methods keep: `InOrder`, the cascade level it is at is a
    level of its UID; the configuration and the CRC mode have not changed, and the reader's frame
    size is at most 256.  `uid_bcc_for_level` panics past the
    last level, and `handle_ready` counts the level up; that it stops in time is the invariant.
    `steps_safe` shows it step by step, once for all methods, with the walk of `Iso14443.CardPair`.
  * `Orderly` is the same of a card and the call that waits: a call of `send_response` also relies
    on the chunk it cuts next being within the data, and `wait_for_activation` on a state that it
    can be called in.  `Orderly.step` is the step, `trace_orderly` the run.
  * `Bounded` are the sums that the code leaves unchecked, all below the range of their type.

  `neverPanics` is both sides: every operation of a reader from any state, and a card after its
  methods were called in any order, with any frames and errors in between.
-/
import Iso14443.ActivationLink
import Iso14443.CardPair

namespace Iso14443

/-! ## The reader

  In the order of the source: activation, blocks, exchanges, the start of a session. -/

/-- The action does not panic, from whatever state. -/
abbrev Calm {σ ε α : Type} (m : Act σ ε α) : Prop := Act.Safe (fun _ => True) m

open Act

namespace Activation

variable {T E : Type} [PcdTransceiver T E]

/-- A transceiver call ends in a value or in an error. -/
theorem calm_transceive (frame : Frame) :
    Calm (transceive frame : Act T (ActivationError E) FrameVec) := by
  refine Safe.of_run fun t _ => ⟨?_, trivial⟩
  simp only [transceive]
  rcases PcdTransceiver.transceive t frame with ⟨_ | _, _⟩ <;> trivial

/-- Asking for the CRC in hardware does too. -/
theorem calm_tryEnableHwCrc : Calm (tryEnableHwCrc : Act T (ActivationError E) Bool) :=
  Safe.of_run fun _ _ => ⟨trivial, trivial⟩

variable [Build]

/-- Five bytes are five bytes. -/
theorem calm_doAnticollision (sel : UInt8) :
    Calm (doAnticollision sel : Act T (ActivationError E) (Vector UInt8 5)) := by
  refine (Safe.lift (tryExtend_returns _ _ _)).bind fun _ => ?_
  refine (Safe.lift (tryExtend_returns _ _ _)).bind fun data => ?_
  refine (calm_transceive _).bind fun resp => ?_
  refine Triple.ite (fun _ => Safe.throw) fun hlen => ?_
  rw [not_not] at hlen
  have hcopy : (copyFromSlice resp).Returns := by
    match resp, hlen with
    | [_, _, _, _, _], _ => trivial
  refine (Safe.lift (Res.returns_index (by omega))).bind fun _ => ?_
  refine (Safe.lift (Res.returns_index (by omega))).bind fun _ => ?_
  refine (Safe.lift (Res.returns_index (by omega))).bind fun _ => ?_
  refine (Safe.lift (Res.returns_index (by omega))).bind fun _ => ?_
  refine (Safe.lift (Res.returns_index (by omega))).bind fun _ => ?_
  exact Triple.ite (fun _ => Safe.throw) fun _ => Safe.lift hcopy

/-- So does a SELECT: the answer's length is looked at before its bytes. -/
theorem calm_doSelect (sel : UInt8) (uidBcc : Vector UInt8 5) (hwCrc : Bool) :
    Calm (doSelect sel uidBcc hwCrc : Act T (ActivationError E) Sak) := by
  refine (Safe.lift (tryExtend_returns _ _ _)).bind fun _ => ?_
  refine (Safe.lift (tryExtend_returns _ _ _)).bind fun _ => ?_
  refine (Safe.lift (tryExtend_returns _ _ _)).bind fun _ => ?_
  refine (Safe.lift (frameOf_returns _ _)).bind fun _ => ?_
  refine (calm_transceive _).bind fun resp => ?_
  refine Triple.ite (fun _ => ?_) fun _ => Safe.lift (Sak.tryFrom_returns resp)
  refine Triple.ite (fun _ => Safe.throw) fun hlen => ?_
  exact (Safe.lift (Res.returns_index (by omega))).bind fun _ => Safe.pure

omit [PcdTransceiver T E] in
/-- `build_activation` indexes the answers of one level at least and three at most, which is what it
    is given. -/
theorem calm_buildActivation (atqa : AtqA) (sak : Sak) {uidCls : List (Vector UInt8 5)}
    {levels : Nat} (hlevels : 1 ≤ levels) (hlen : uidCls.length ≤ 3) :
    Calm (lift (buildActivation atqa sak uidCls levels) : Act T (ActivationError E) Activation) := by
  rw [buildActivation_eq atqa sak hlevels hlen]
  exact Safe.lift trivial

/-- **No card makes an activation panic.** -/
theorem calm_doActivate {req : Command} (hreq : req.toFrame.Returns) :
    Calm (doActivate req : Act T (ActivationError E) Activation) := by
  refine calm_tryEnableHwCrc.bind fun hwCrc => ?_
  refine (Safe.lift hreq).bind fun frame => ?_
  refine (calm_transceive _).bind fun resp => ?_
  refine (Safe.lift (AtqA.tryFrom_returns resp)).bind fun atqa => ?_
  refine (calm_doAnticollision _).bind fun uidCl1 => ?_
  refine (calm_doSelect _ _ _).bind fun sak => ?_
  refine Triple.ite (fun _ => calm_buildActivation _ _ (by omega) (by simp)) fun _ => ?_
  refine (calm_doAnticollision _).bind fun uidCl2 => ?_
  refine (calm_doSelect _ _ _).bind fun sak => ?_
  refine Triple.ite (fun _ => calm_buildActivation _ _ (by omega) (by simp)) fun _ => ?_
  refine (calm_doAnticollision _).bind fun uidCl3 => ?_
  refine (calm_doSelect _ _ _).bind fun sak => ?_
  exact Triple.ite (fun _ => calm_buildActivation _ _ (by omega) (by simp)) fun _ => Safe.throw

/-- An activation never panics. -/
theorem calm_activate : Calm (activate : Act T (ActivationError E) Activation) :=
  calm_doActivate ((tryExtend_returns _ _ _).bind fun _ _ => trivial)

/-- Nor does a wake-up, which is the same body after WUPA. -/
theorem calm_wakeup : Calm (wakeup : Act T (ActivationError E) Activation) :=
  calm_doActivate ((tryExtend_returns _ _ _).bind fun _ _ => trivial)

end Activation

namespace Pcd

variable {T E : Type} [Build] [PcdTransceiver T E]

omit [Build] in
/-- A session's frame goes the same way. -/
theorem calm_transceive (frame : Frame) :
    Calm (transceive frame : Act (Pcd T) (PcdError E) FrameVec) := by
  refine Safe.of_run fun s _ => ⟨?_, trivial⟩
  simp only [transceive]
  rcases PcdTransceiver.transceive s.transceiver frame with ⟨_ | _, _⟩ <;> trivial

omit [PcdTransceiver T E] in
/-- Taking in a block never panics, for `receive` never does. -/
theorem calm_processReceived (block : Block) :
    Calm (onHandler (ProtocolHandler.processReceived block) : Act (Pcd T) (PcdError E) Action) :=
  Triple.zoom (fun h => h.processReceived_returns block) (fun _ _ _ _ => trivial)
    fun _ _ _ => trivial

/-- Nor does a round trip of one block. -/
theorem calm_transceiveBlock (block : Block) :
    Calm (transceiveBlock block : Act (Pcd T) (PcdError E) Block) := by
  refine (Safe.lift block.toBytesWithoutCrc_returns).bind fun data => ?_
  refine Triple.get_bind fun s _ => ?_
  refine (Safe.lift (frameOf_returns _ _)).bind fun frame => ?_
  refine (calm_transceive _).bind fun resp => ?_
  exact Triple.get_bind fun s _ => Safe.lift (s.parseBlockResponse_returns resp)

/-- A block that is answered or not. -/
theorem calm_attempt (block : Block) :
    Calm (Act.attempt (transceiveBlock block : Act (Pcd T) (PcdError E) Block) :
      Act (Pcd T) (PcdError E) (Except (PcdError E) Block)) :=
  (calm_transceiveBlock block).attempt (fun _ _ _ => trivial) fun _ _ _ => trivial

/-- Nor do the retries of one block: there are two at most. -/
theorem calm_retry (receivingChain : Bool) (n : Nat) :
    Calm (retry receivingChain n : Act (Pcd T) (PcdError E) Block) := by
  induction n with
  | zero => exact Safe.throw
  | succ n ih =>
    refine Triple.get_bind fun s _ => ?_
    refine (calm_attempt _).bind fun r => ?_
    cases r with
    | ok resp => exact Safe.pure
    | error e => exact ih

/-- Nor does a round trip with its recovery. -/
theorem calm_transceiveWithRecovery (block : Block) (receivingChain : Bool) :
    Calm (transceiveWithRecovery block receivingChain : Act (Pcd T) (PcdError E) Block) := by
  refine (calm_attempt block).bind fun r => ?_
  cases r with
  | ok resp => exact Safe.pure
  | error e => exact calm_retry _ _

/-- Nor does the loop that collects a response, however long it is. -/
theorem calm_collectResponse (fuel : Nat) (block : Block) :
    Calm (collectResponse fuel block : Act (Pcd T) (PcdError E) ChainVec) := by
  induction fuel generalizing block with
  | zero => exact Triple.outOfFuel fun _ _ => trivial
  | succ fuel ih =>
    refine (calm_processReceived block).bind fun a => ?_
    cases a with
    | complete data => exact Safe.pure
    | reply reply => exact (calm_transceiveWithRecovery _ _).bind fun next => ih next
    | chainingAck => exact Safe.throw
    | chainingRetransmit => exact Safe.throw

/-- The chunk at `offset` is within the command: that is what the loop asks before it goes on. -/
theorem calm_sendLoop (apdu : List UInt8) (maxInf fuel offset : Nat) (lastResp : Option Block) :
    Calm (sendLoop apdu maxInf fuel offset lastResp : Act (Pcd T) (PcdError E) (Option Block)) := by
  induction fuel generalizing offset lastResp with
  | zero =>
    unfold sendLoop
    exact Triple.ite (fun _ => Triple.outOfFuel fun _ _ => trivial) fun _ => Safe.pure
  | succ fuel ih =>
    unfold sendLoop
    refine Triple.ite (fun hlt => ?_) fun _ => Safe.pure
    refine Triple.get_bind fun s _ => ?_
    have hslice : (Res.slice apdu offset (min (offset + maxInf) apdu.length) :
        Res TypeAError (List UInt8)).Returns := by
      rw [Res.slice_of_le (by omega) (by omega)]
      trivial
    refine (Safe.lift hslice).bind fun chunk => ?_
    refine (Safe.lift (s.handler.buildIblock_returns _ _)).bind fun iblock => ?_
    refine (calm_transceiveBlock _).bind fun resp => ?_
    refine Triple.ite (fun _ => ?_) fun _ => ih _ _
    refine (calm_processReceived resp).bind fun a => ?_
    cases a with
    | complete data => exact Safe.throw
    | reply reply => exact Safe.throw
    | chainingAck => exact ih _ _
    | chainingRetransmit => exact ih _ _

/-- **No card makes an exchange panic.** -/
theorem calm_exchange (fuel : Nat) (apdu : List UInt8) :
    Calm (exchange fuel apdu : Act (Pcd T) (PcdError E) ChainVec) := by
  refine (Triple.modify (Q := fun _ _ => True) fun _ _ => trivial).bind fun _ => ?_
  refine Triple.get_bind fun s _ => ?_
  refine (Safe.lift (s.handler.buildIblock_returns _ _)).bind fun empty => ?_
  refine Triple.ite (fun _ => Safe.throw) fun _ => ?_
  refine (calm_sendLoop _ _ _ _ _).bind fun lastResp => ?_
  refine (Safe.lift (Res.returns_okOr _ _)).bind fun first => ?_
  exact calm_collectResponse _ _

/-- Nor does the end of a session. -/
theorem calm_deselect : Calm (deselect : Act (Pcd T) (PcdError E) Unit) := by
  refine Triple.get_bind fun s _ => ?_
  have hagain : Calm (do
      let resp ← transceiveBlock (s.handler.buildSblock .deselect)
      if isDeselected resp then pure () else Act.throw (.protocol .other) :
        Act (Pcd T) (PcdError E) Unit) :=
    (calm_transceiveBlock _).bind fun _ => Triple.ite (fun _ => Safe.pure) fun _ => Safe.throw
  refine (calm_attempt _).bind fun r => ?_
  cases r with
  | ok resp => exact Triple.ite (fun _ => Safe.pure) fun _ => hagain
  | error e => exact hagain

/-- Nor does a change of the bit rates. -/
theorem calm_pps (dri dsi : Dxi) : Calm (pps dri dsi : Act (Pcd T) (PcdError E) Unit) := by
  refine Triple.get_bind fun s _ => ?_
  refine (Safe.lift (frameOf_returns _ _)).bind fun frame => ?_
  refine (calm_transceive _).bind fun resp => ?_
  have hread : (if s.hwCrc then PpsResp.fromCrcVerified resp else PpsResp.tryFrom resp).Returns := by
    split
    · exact PpsResp.fromCrcVerified_returns resp
    · exact PpsResp.tryFrom_returns resp
  exact (Safe.lift hread).bind fun _ => Safe.pure

/-- **No card makes `connect` panic.** -/
theorem calm_connect (fsdi : Fsdi) (cid : Cid) :
    Calm (connect fsdi cid : Act T (PcdError E) (Pcd T × Ats)) := by
  intro t _
  -- the same with the CRC mode that the probe found
  have hmode : ∀ hwCrc : Bool, Calm (do
      let frame ← Act.lift .protocol (frameOf hwCrc [0xe0, RatsParam.toByte ⟨fsdi, cid⟩])
      let resp ← ⟨fun t =>
        (ofExcept (PcdTransceiver.transceive t frame).1, (PcdTransceiver.transceive t frame).2)⟩
      let ats ← Act.lift .protocol (if hwCrc then Ats.fromCrcVerified resp else Ats.tryFrom resp)
      let t ← Act.get
      pure (new t ats fsdi (some cid) hwCrc, ats) : Act T (PcdError E) (Pcd T × Ats)) := by
    intro hwCrc
    refine (Safe.lift (frameOf_returns _ _)).bind fun frame => ?_
    refine (Safe.of_run fun t _ => ⟨?_, trivial⟩).bind fun resp => ?_
    · show (ofExcept (PcdTransceiver.transceive t frame).1 : Res (PcdError E) FrameVec).Returns
      cases (PcdTransceiver.transceive t frame).1 <;> trivial
    · have hread : (if hwCrc then Ats.fromCrcVerified resp else Ats.tryFrom resp).Returns := by
        split
        · exact Ats.fromCrcVerified_returns resp
        · exact Ats.tryFrom_returns resp
      exact (Safe.lift hread).bind fun _ => Triple.get_bind fun _ _ => Safe.pure
  exact hmode _ _ trivial

end Pcd

/-! ## The card

  The steps of a card, and what each of them needs to be in order before it. -/

namespace Picc

variable {T E : Type}

/-- What the methods of the card `s` keep: its mode and its configuration, a level of its UID, and a
    frame size from the table. -/
structure InOrder (s s' : Picc T) : Prop where
  hwCrc : s'.hwCrc = s.hwCrc
  config : s'.config = s.config
  level : ∀ level, s'.state = .ready level → level < s.config.uid.cascadeLevels
  fsd : s'.fsd ≤ 256

variable [PiccTransceiver T E] {s : Picc T}

/-- A frame going out keeps the card in order. -/
theorem safe_send (frame : Frame) :
    Safe (InOrder s) (send frame : Act (Picc T) (PiccError E) Unit) := by
  refine Safe.of_run fun s' h => ?_
  rw [run_send]
  refine ⟨?_, h.hwCrc, h.config, h.level, h.fsd⟩
  rcases s'.sendResult_cases frame with hr | ⟨e, hr⟩ <;> rw [hr] <;> trivial

omit [PiccTransceiver T E] in
/-- So does a step of the handler, which has no panic of its own. -/
theorem safe_onHandler {α : Type} {m : Act ProtocolHandler TypeAError α}
    (hm : ∀ h, (m.run h).1.Returns) :
    Safe (InOrder s) (onHandler m : Act (Picc T) (PiccError E) α) :=
  Triple.zoom hm (fun _ _ _ h => ⟨h.hwCrc, h.config, h.level, h.fsd⟩)
    fun _ _ h => ⟨h.hwCrc, h.config, h.level, h.fsd⟩

variable [Build]

/-- **No step of a card panics**, and each of them keeps it in order.  This instance of the walk
    (`Iso14443.CardPair`) is over one card, beside itself. -/
theorem steps_safe (s : Picc T) : Steps (T := T) (E := E) (fun s₁ s₂ => s₁ = s₂ ∧ InOrder s s₁)
    (fun _ _ m _ => Safe (InOrder s) m) := by
  have hsend : SendSteps (T := T) (E := E) (fun s₁ s₂ => s₁ = s₂ ∧ InOrder s s₁)
      (fun _ _ m _ => Safe (InOrder s) m) :=
    { forms := graded_safe _
      seen := by rintro s₁ _ ⟨rfl, -⟩; exact .refl s₁
      send := safe_send
      remember := fun block => Triple.modify fun _ h => ⟨h.hwCrc, h.config, h.level, h.fsd⟩
      enter := by
        intro state _ hlevel
        refine Triple.modify fun s₁ h => ⟨h.hwCrc, h.config, fun level hl => ?_, h.fsd⟩
        obtain ⟨s₂, _, ⟨-, h₂⟩, hlt⟩ := hlevel level hl
        rw [h₂.config] at hlt
        exact hlt
      leave := fun e s₁ h => ⟨h.hwCrc, h.config, fun level hl => (by cases hl), h.fsd⟩ }
  have hnote : ∀ h : ProtocolHandler, (ProtocolHandler.noteFrame.run h).1.Returns := by
    intro h
    rw [ProtocolHandler.run_noteFrame]
    split <;> trivial
  refine hsend.steps ?_ ?_ ?_ (safe_onHandler hnote) fun block =>
    safe_onHandler fun h => h.processReceived_returns block
  · rintro s₁ _ ⟨rfl, -⟩
    rfl
  · exact fun rats => Triple.modify fun _ h =>
      ⟨h.hwCrc, h.config, h.level, rats.fsdi.fsd_bounds.2⟩
  · exact Triple.modify fun _ h => ⟨h.hwCrc, h.config, h.level, h.fsd⟩

/-! ### The calls

  What a call relies on when it waits, and that it may rely on it. -/

/-- What the calls that wait rely on. -/
def CallOk (s : Picc T) : PiccCall → Prop
  | .waitForActivation => s.state ≠ .active ∧ s.state ≠ .protocol
  | .sendResponse data maxInf stop _ => stop ≤ data.length ∧ maxInf ≤ 256
  | _ => True

/-- A call that goes on waiting may. -/
def NextOk (s : Picc T) : Next → Prop
  | .wait call => s.CallOk call
  | .ret _ => True

/-- From `P` the card is in order at the end, and what waits may wait. -/
abbrev Proceeds (s : Picc T) (P : Picc T → Prop) (m : Act (Picc T) (PiccError E) Next) : Prop :=
  Triple (fun s' => InOrder s s' ∧ P s') m (fun next s' => InOrder s s' ∧ s'.NextOk next) (InOrder s)

omit [Build] [PiccTransceiver T E] in
/-- A safe call proceeds, if what it leaves waiting may wait. -/
theorem proceeds_of_safe {P : Picc T → Prop} {m : Act (Picc T) (PiccError E) Next}
    (hm : Safe (InOrder s) m)
    (hnext : ∀ s' next t, InOrder s s' ∧ P s' → m.run s' = (.ok next, t) → t.NextOk next) :
    Proceeds s P m :=
  (hm.conseq (fun _ h => h.1) (fun _ _ h => h) fun _ h => h).and_value hnext

/-- **A card that waits for its activation** is idle or at a level of its UID. -/
theorem proceeds_waitForActivation (raw : FrameVec) :
    Proceeds s (fun s' => s'.state ≠ .active ∧ s'.state ≠ .protocol)
      (waitForActivation raw : Act (Picc T) (PiccError E) Next) := by
  refine Triple.and_value (Q := fun _ => InOrder s) ?_ ?_
  · rintro s' ⟨h, hstate⟩
    rw [run_waitForActivation]
    exact (steps_safe s).round ⟨rfl, h⟩ raw (Or.inl hstate) s' h
  · -- what was answered leads to a level of the UID, or to the end of the call
    rintro s' next t ⟨h, hstate⟩ hrun
    rcases waitForActivation_cases raw hstate with ⟨frame, state, ha, hcase⟩ | ⟨r, hr, hcase⟩ <;>
      rw [hcase] at hrun
    · have hne : state ≠ .protocol := by
        cases ha with
        | request => simp
        | wakeup => simp
        | anticollision => exact hstate.2
        | @select level _ _ _ =>
          unfold selectedState
          split <;> simp
      rw [answer] at hrun
      rcases s'.sendResult_cases frame with hsend | ⟨e, hsend⟩ <;> rw [hsend] at hrun <;> cases hrun
      unfold afterRound
      split
      · trivial
      · next hactive => exact ⟨hactive, hne⟩
    · rcases hr with rfl | ⟨e, rfl⟩ <;> cases hrun
      exact hstate

/-- **Every call of the API.** -/
theorem proceeds_begin (api : PiccApi) :
    Proceeds s (fun _ => True) (api.begin : Act (Picc T) (PiccError E) Next) := by
  refine proceeds_of_safe ((steps_safe s).begin api) fun s' next t h hrun => ?_
  cases api with
  | waitForActivation => cases hrun; exact ⟨by simp, by simp⟩
  | waitForRats => cases hrun; trivial
  | receiveCommand => cases hrun; trivial
  | sendResponse data =>
    cases next with
    | ret outcome => trivial
    | wait call =>
      obtain ⟨maxInf, stop, iblock, rfl, hstop, hinf⟩ := wait_beginResponse hrun
      exact ⟨hstop, Nat.le_trans hinf h.1.fsd⟩

/-- **Every call, whatever is received.** -/
theorem proceeds_resume (call : PiccCall) (received : Except E FrameVec) :
    Proceeds s (fun s' => s'.CallOk call) (call.resume received) := by
  cases received with
  | error e => exact Triple.throw fun _ h => h.1
  | ok raw =>
    have hleads := yields_resume (T := T) (E := E) call (.ok raw)
    cases call with
    | waitForActivation => exact proceeds_waitForActivation raw
    | waitForRats =>
      refine proceeds_of_safe ((steps_safe s).waitForRats raw) fun s' next t _ hrun => ?_
      obtain rfl : next = .ret .unit := hleads next ⟨s', t, hrun⟩
      trivial
    | receiveCommand =>
      refine proceeds_of_safe ((steps_safe s).receiveCommand raw) fun s' next t _ hrun => ?_
      rcases hleads next ⟨s', t, hrun⟩ with rfl | ⟨apdu, rfl⟩ <;> trivial
    | sendResponse data maxInf stop iblock =>
      refine Triple.and_value (Q := fun _ => InOrder s) ?_ ?_
      · rintro s' ⟨h, hcall⟩
        exact (steps_safe s).sendResponse maxInf (Or.inl hcall.1) iblock raw s' h
      · rintro s' next t ⟨-, hcall⟩ hrun
        rcases hleads next ⟨s', t, hrun⟩ with rfl | ⟨stop', iblock', rfl, hle⟩
        · trivial
        · exact ⟨hle hcall.1, hcall.2⟩

end Picc

namespace PiccSession

variable {T E : Type} {s : Picc T} {x : PiccSession T}

/-- A card in order, and a call that may wait. -/
structure Orderly (s : Picc T) (x : PiccSession T) : Prop where
  picc : Picc.InOrder s x.picc
  call : ∀ call, x.call = some call → x.picc.CallOk call

/-- A call that proceeds leaves the card in order. -/
theorem orderly_advance {P : Picc T → Prop} {m : Act (Picc T) (PiccError E) Next}
    (hm : Picc.Proceeds s P m) {picc : Picc T} (hpicc : Picc.InOrder s picc) (hP : P picc) :
    (advance picc m).1 ≠ some .panic ∧ Orderly s (advance picc m).2 := by
  have h := hm picc ⟨hpicc, hP⟩
  rw [advance]
  rcases hrun : m.run picc with ⟨next | e | _ | _, picc'⟩ <;> rw [hrun] at h
  · cases next with
    | wait call =>
      exact ⟨by simp, h.1, fun call' hcall' => by cases hcall'; exact h.2⟩
    | ret outcome => exact ⟨by simp, h.1, fun _ hcall => by cases hcall⟩
  · exact ⟨by simp, h, fun _ hcall => by cases hcall⟩
  · exact h.elim
  · exact ⟨by simp, h, fun _ hcall => by cases hcall⟩

variable [Build] [PiccTransceiver T E]

/-- **One step.** -/
theorem Orderly.step (h : Orderly s x) (i : PiccInput E) :
    (x.step i).1 ≠ some .panic ∧ Orderly s (x.step i).2 := by
  obtain ⟨picc, call⟩ := x
  cases call with
  | none =>
    cases i with
    | call api => exact orderly_advance (Picc.proceeds_begin api) h.picc trivial
    | frame received => exact ⟨by simp [PiccSession.step], h⟩
  | some call =>
    cases i with
    | call api => exact ⟨by simp [PiccSession.step], h⟩
    | frame received =>
      exact orderly_advance (Picc.proceeds_resume call received) h.picc (h.call call rfl)

/-- What a card never leaves: bounds under which no index is missing and no sum of the source
    overflows its type. -/
structure Bounded (x : PiccSession T) : Prop where
  /-- The level is one of the UID, the next one is a `u8`, and neither the SEL byte nor the bytes of
      the level are missing. -/
  level : ∀ level, x.picc.state = .ready level →
    level < x.picc.config.uid.cascadeLevels ∧ level + 1 < 2 ^ 8 ∧
      (∃ sel, Picc.expectedSel level = some sel) ∧ ∃ uid, x.picc.uidBccForLevel level = .ok uid
  /-- The end of the next chunk is hardly more than the length of the response. -/
  stop : ∀ data maxInf stop iblock, x.call = some (.sendResponse data maxInf stop iblock) →
    stop ≤ data.length ∧ maxInf ≤ 256

omit [Build] [PiccTransceiver T E] in
/-- What is orderly is bounded. -/
theorem Orderly.bounded (h : Orderly s x) : Bounded x := by
  refine ⟨fun level hlevel => ?_, fun data maxInf stop iblock hcall => h.call _ hcall⟩
  have hlt := h.picc.level level hlevel
  rw [← h.picc.config] at hlt
  have hle := (Picc.cascadeLevels_le x.picc.config.uid).2
  exact ⟨hlt, by omega, Picc.expectedSel_isSome hlt, _, (Picc.uidBccForLevel_eq hlt).1⟩

/-- A card just built, before any call. -/
def built (transceiver : T) (config : PiccConfig) (limits : Limits) : PiccSession T :=
  ⟨(Picc.new transceiver config).setLimits limits, none⟩

/-- **No reader makes a card panic**, in whatever order its methods are called. -/
theorem trace_orderly (transceiver : T) (config : PiccConfig) (limits : Limits)
    (inputs : List (PiccInput E)) :
    ∀ e ∈ Run.trace PiccSession.step (built transceiver config limits) inputs,
      e.output ≠ some .panic ∧ Bounded e.after := by
  have hstart : Orderly (built transceiver config limits).picc (built transceiver config limits) :=
    ⟨⟨rfl, rfl, fun level hl => (by cases hl), Nat.le_refl 256⟩, fun _ hcall => (by cases hcall)⟩
  have hrun : (∀ e ∈ Run.trace PiccSession.step (built transceiver config limits) inputs,
        e.output ≠ some .panic ∧ Bounded e.after) ∧
      Orderly (built transceiver config limits).picc
        (Run.after PiccSession.step (built transceiver config limits) inputs) := by
    refine Run.trace_induction (I := fun l x =>
      (∀ e ∈ l, e.output ≠ some Res.panic ∧ Bounded e.after) ∧ Orderly _ x) ⟨by simp, hstart⟩ ?_
    rintro l x i - ⟨hl, hx⟩
    obtain ⟨hout, hnext⟩ := hx.step i
    refine ⟨fun e he => ?_, hnext⟩
    rcases List.mem_append.mp he with he | he
    · exact hl e he
    · obtain rfl := List.mem_singleton.mp he
      exact ⟨hout, hnext.bounded⟩
  exact hrun.1

end PiccSession

/-- **No peer makes either side panic**: not the reader, from any state and whatever its transceiver
    gives, and not the card, in any order of calls and frames; and no sum of theirs overflows. -/
theorem neverPanics {T E T' E' : Type} [Build] [PcdTransceiver T E] [PiccTransceiver T' E'] :
    (NeverPanics (Activation.activate : Act T (ActivationError E) Activation) ∧
      NeverPanics (Activation.wakeup : Act T (ActivationError E) Activation) ∧
      (∀ fsdi cid, NeverPanics (Pcd.connect fsdi cid : Act T (PcdError E) (Pcd T × Ats))) ∧
      (∀ dri dsi, NeverPanics (Pcd.pps dri dsi : Act (Pcd T) (PcdError E) Unit)) ∧
      (∀ fuel apdu, NeverPanics (Pcd.exchange fuel apdu : Act (Pcd T) (PcdError E) ChainVec)) ∧
      NeverPanics (Pcd.deselect : Act (Pcd T) (PcdError E) Unit)) ∧
    (∀ (transceiver : T') config limits (inputs : List (PiccInput E')),
      ∀ e ∈ Run.trace PiccSession.step (PiccSession.built transceiver config limits) inputs,
        e.output ≠ some .panic ∧ PiccSession.Bounded e.after) ∧
    -- the byte of a PPS request, on both sides, and the end of a chunk of a command
    (∀ cid : Cid, (0xd0 + cid.value).toNat = 0xd0 + cid.value.toNat) ∧
    ∀ (transceiver : T) ats fsdi cid hwCrc, (Pcd.new transceiver ats fsdi cid hwCrc).maxInf ≤ 256 := by
  refine ⟨⟨Activation.calm_activate.ne_panic_anywhere, Activation.calm_wakeup.ne_panic_anywhere,
    fun fsdi cid => (Pcd.calm_connect fsdi cid).ne_panic_anywhere,
    fun dri dsi => (Pcd.calm_pps dri dsi).ne_panic_anywhere,
    fun fuel apdu => (Pcd.calm_exchange fuel apdu).ne_panic_anywhere,
    Pcd.calm_deselect.ne_panic_anywhere⟩, PiccSession.trace_orderly, ?_, ?_⟩
  · intro cid
    revert cid
    decide
  · intro transceiver ats fsdi cid hwCrc
    have hfsc : (Pcd.new transceiver ats fsdi cid hwCrc).fsc ≤ 256 := ats.format.fsci.fsc_bounds.2
    rw [Pcd.maxInf]
    omega

end Iso14443
