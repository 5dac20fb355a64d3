/-
  What a session reveals of the one before it (`Picc::handle_active`, `last_sent`).

  RATS starts a session with a fresh handler and the frame size of the new reader.  One field is
  forgotten: the block that was sent last, which an R(NAK) of the new reader asks for again.  When
  does that show?

  * `Twin` — two cards that differ in that block alone, after their logs have been `l` and `l'`.
    One clause makes it an invariant: either the limits never allow a retransmission
    (`NeverAgain`), or the two blocks make the same frame on the air.
  * `steps_alike` — no step of a card tells twins apart.  It is the one walk over the card's
    methods of `Iso14443.CardPair`, with `Twin` for its view; the only step with an argument of its
    own is the retransmission (`alike_sendLast`), which is where that clause is used.
  * `Twins.observe` — so over any run of commands, responses and frames the calls return the same
    and the same frames are sent.
  * `twins_answerRats` — two cards that answered the same RATS are twins, but for that clause.
  * `askAgain` — the experiment that finds out: an R(NAK) first thing in the session.

  `sameConduct_iff` puts the two directions together: two cards that answered the same RATS behave
  alike in everything that follows if and only if nothing can be asked for again, or what they sent
  last is the same on the air.  `not_sameConduct` has the response to a reader's command sent to
  the next one.
-/
import Iso14443.CardPair

namespace Iso14443

variable {T E : Type}

/-! ## Transceivers that behave alike

  The transceivers of the two cards may be in different states, as long as nobody can tell. -/

/-- How a transceiver takes a list of frames. -/
def PiccTransceiver.results [PiccTransceiver T E] : T → List Frame → List (Except E Unit)
  | _, [] => []
  | t, frame :: frames =>
    (PiccTransceiver.send t frame).1 :: results (PiccTransceiver.send t frame).2 frames

/-- Two transceivers that nobody can tell apart. -/
def PiccTransceiver.Alike [PiccTransceiver T E] (t t' : T) : Prop :=
  ∀ frames, results t frames = results t' frames

/-- Transceivers that are alike take a frame alike and stay so. -/
theorem PiccTransceiver.Alike.send [PiccTransceiver T E] {t t' : T} (h : Alike t t')
    (frame : Frame) : (PiccTransceiver.send t frame).1 = (PiccTransceiver.send t' frame).1 ∧
      Alike (PiccTransceiver.send t frame).2 (PiccTransceiver.send t' frame).2 := by
  have hcons := fun frames => h (frame :: frames)
  simp only [results, List.cons.injEq] at hcons
  exact ⟨(hcons []).1, fun frames => (hcons frames).2⟩

namespace Picc

variable [Build] [PiccTransceiver T E]

/-! ## Twins

  What the two cards have in common: everything but the block sent last, and of that the frame it
  would make, unless it can never be asked for. -/

/-- What a retransmission would send. -/
def again (s : Picc T) : Option (Res TypeAError Frame) := s.lastSent.map (frameFor s.hwCrc)

/-- Nothing is ever sent again under these limits. -/
def NeverAgain (limits : Limits) : Prop := limits.maxFrames = 0 ∨ limits.maxRetransmissions = 0

/-- Two cards, since their logs were `l` and `l'`: they differ in the block sent last alone.  The
    difference can never show (`again`): the limits grant no retransmission, or the two blocks are
    the same on the air. -/
structure Twin (l l' : List Frame) (s s' : Picc (Logged T)) : Prop where
  hwCrc : s.hwCrc = s'.hwCrc
  config : s.config = s'.config
  handler : s.handler = s'.handler
  state : s.state = s'.state
  fsd : s.fsd = s'.fsd
  transceiver : PiccTransceiver.Alike s.transceiver.inner s'.transceiver.inner
  again : NeverAgain s.handler.limits ∨ s.again = s'.again
  sent : ∃ frames, s.sent = l ++ frames ∧ s'.sent = l' ++ frames

variable {l l' : List Frame}

/-! ## No method tells twins apart

  Each method of the card, on both twins. -/

/-- A frame goes to both logs. -/
theorem alike_send (frame : Frame) : Act.Alike (Twin l l')
    (send frame : Act (Picc (Logged T)) (PiccError E) Unit) (send frame) := by
  intro s s' h
  obtain ⟨hres, halike⟩ := h.transceiver.send frame
  have hresult : s.sendResult frame = s'.sendResult frame := by
    have hlog : ∀ t : Logged T, (PiccTransceiver.send t frame).1 =
      (PiccTransceiver.send t.inner frame).1 := fun _ => rfl
    rw [sendResult, sendResult, hlog, hlog, hres]
  rw [run_send, run_send]
  obtain ⟨frames, hs, hs'⟩ := h.sent
  refine ⟨hresult, { h with transceiver := halike, sent := ⟨frames ++ [frame], ?_, ?_⟩ }⟩
  · rw [sent_afterSend, hs, List.append_assoc]
  · rw [sent_afterSend, hs', List.append_assoc]

/-- Blocks that make the same frame are sent alike. -/
theorem Twin.sendBlock {s s' : Picc (Logged T)} (h : Twin l l' s s') {block block' : Block}
    (hb : frameFor s.hwCrc block = frameFor s'.hwCrc block') :
    ((sendBlock block : Act _ (PiccError E) Unit).run s).1 = ((sendBlock block').run s').1 ∧
      Twin l l' ((sendBlock block).run s).2 ((sendBlock block').run s').2 := by
  have hremember : Twin l l' (s.remembering block) (s'.remembering block') :=
    { h with again := Or.inr (congrArg some hb) }
  have hframe : Act.Alike (Twin l l') (lift (frameFor s.hwCrc block) :
      Act (Picc (Logged T)) (PiccError E) Frame) (lift (frameFor s.hwCrc block)) := .lift _ _
  have hsend := (hframe.bind fun frame => alike_send frame) _ _ hremember
  rw [Picc.sendBlock, Picc.sendBlock, Act.run_modify_bind, Act.run_get_bind, Act.run_modify_bind,
    Act.run_get_bind, ← hb]
  exact hsend

/-- A step of the handler that leaves the limits alone keeps the twins. -/
theorem alike_onHandler {α : Type} {m : Act ProtocolHandler TypeAError α}
    (hm : ∀ h : ProtocolHandler, (m.run h).2.limits = h.limits) : Act.Alike (Twin l l')
    (onHandler m : Act (Picc (Logged T)) (PiccError E) α) (onHandler m) := by
  intro s s' h
  rw [run_onHandler, run_onHandler, h.handler]
  refine ⟨rfl, { h with handler := rfl, again := ?_ }⟩
  have hlim : (s'.withHandler (m.run s'.handler).2).handler.limits = s.handler.limits := by
    rw [h.handler]; exact hm _
  rw [← h.handler] at hlim ⊢
  exact h.again.imp_left fun hn => by
    show NeverAgain _
    rw [show (s.withHandler (m.run s.handler).2).handler.limits = _ from hm _]
    exact hn

omit [PiccTransceiver T E] in
/-- Taking in a block leaves the limits alone. -/
theorem limits_processReceived (block : Block) (h : ProtocolHandler) :
    ((ProtocolHandler.processReceived block).run h).2.limits = h.limits :=
  ProtocolHandler.Event.limits_eq (ProtocolHandler.real_event h block)

omit [PiccTransceiver T E] [Build] in
/-- So does counting a frame. -/
theorem limits_noteFrame (h : ProtocolHandler) :
    (ProtocolHandler.noteFrame.run h).2.limits = h.limits := by
  rw [ProtocolHandler.run_noteFrame]
  split <;> rfl

omit [PiccTransceiver T E] in
/-- A retransmission is granted only where the limits have room for one. -/
theorem not_neverAgain {h : ProtocolHandler} {block : Block}
    (hr : (h.receive block).1 = .ok .chainingRetransmit) : ¬ NeverAgain h.limits := by
  have hreal : ProtocolHandler.Received h block (h.receive block) :=
    ProtocolHandler.processReceived_received h block
  generalize h.receive block = p at hr hreal
  cases hreal with
  | repeatLast hf ht hm ha =>
    simp only [ProtocolHandler.FrameOk, ProtocolHandler.counted_counters, Counters.countFrame,
      saturatingIncr, u16Max] at hf
    simp only [ProtocolHandler.AgainOk, ProtocolHandler.again_counters,
      Counters.countRetransmission, saturatingIncr, u8Max] at ha
    rintro (h0 | h0) <;> omega
  | _ => cases hr

/-- **The last block goes out alike**, if the handler grants it at all: then the limits have room for
    a retransmission, and twins under such limits remember blocks that make the same frame. -/
theorem alike_sendLast {block : Block} {t u u' : Picc (Logged T)}
    (hrun : (onHandler (ProtocolHandler.processReceived block) :
      Act (Picc (Logged T)) (PiccError E) Action).run t = (.ok .chainingRetransmit, u))
    (hu : Twin l l' u u') :
    ((sendLast : Act (Picc (Logged T)) (PiccError E) Next).run u).1 = (sendLast.run u').1 ∧
      Twin l l' ((sendLast : Act (Picc (Logged T)) (PiccError E) Next).run u).2
        (sendLast.run u').2 := by
  have hlast : u.again = u'.again := by
    apply hu.again.resolve_left
    rw [run_onHandler_receive] at hrun
    obtain ⟨hres, rfl⟩ := Prod.mk.inj hrun
    rw [withHandler_handler, show (t.handler.receive block).2.limits = _ from
      limits_processReceived block t.handler]
    exact not_neverAgain (Res.mapErr_eq_ok.mp hres)
  rw [again, again] at hlast
  rw [sendLast, Act.run_get_bind, Act.run_get_bind, Act.run_bind, Act.run_bind, run_lift,
    run_lift]
  cases hs : u.lastSent with
  | none =>
    cases hs' : u'.lastSent with
    | none => exact ⟨rfl, hu⟩
    | some block' => rw [hs, hs'] at hlast; cases hlast
  | some block =>
    cases hs' : u'.lastSent with
    | none => rw [hs, hs'] at hlast; cases hlast
    | some block' =>
      rw [hs, hs'] at hlast
      exact Act.alike_bind_at (hu.sendBlock (Option.some.inj hlast)) fun _ _ _ _ hv => ⟨rfl, hv⟩

/-- **The steps of twins are alike**, all but the retransmission by what they have in common. -/
theorem steps_alike (l l' : List Frame) :
    Steps (T := Logged T) (E := E) (Twin l l') (fun _ _ => Act.Alike (Twin l l')) where
  forms := (Act.relator_alike _).graded
  seen _ _ h := ⟨h.hwCrc.symm, h.config.symm, h.handler.symm, h.state.symm, h.fsd.symm⟩
  send := alike_send
  remember block := .modify fun s s' h =>
    { h with again := Or.inr (by simp only [again, h.hwCrc, Option.map_some]) }
  enter state _ _ := .modify fun _ _ h => { h with state := rfl }
  leave e := Act.Alike.bind (.modify fun _ _ h => { h with state := rfl }) fun _ => .throw e
  starts rats := by
    refine .modify fun s s' h => ?_
    have hhandler : (beginSession rats s).handler = (beginSession rats s').handler := by
      simp only [beginSession, h.config, h.handler]
    exact { h with handler := hhandler, fsd := rfl }
  begins := .modify fun s s' h =>
    { h with handler := congrArg ProtocolHandler.beginExchange h.handler }
  noted := alike_onHandler limits_noteFrame
  received block := alike_onHandler (limits_processReceived block)
  repeated := by
    intro block f f' hf hs hs' s s' h
    refine Act.alike_bind_at (alike_onHandler (limits_processReceived block) s s' h)
      fun action u u' hrun hu => ?_
    by_cases ha : action = .chainingRetransmit
    · subst ha
      rw [hs, hs']
      exact alike_sendLast hrun hu
    · exact hf action ha u u' hu

/-- A call of the application begins alike on both twins. -/
theorem alike_begin (api : PiccApi) : Act.Alike (Twin l l')
    (api.begin : Act (Picc (Logged T)) (PiccError E) Next) api.begin := (steps_alike l l').begin api

/-- It goes on alike with one and the same frame. -/
theorem alike_resume (call : PiccCall) (received : Except E FrameVec) : Act.Alike (Twin l l')
    (call.resume received : Act (Picc (Logged T)) (PiccError E) Next) (call.resume received) :=
  (steps_alike l l').resume (fun _ => .panic) call received

end Picc

namespace PiccSession

variable [Build] [PiccTransceiver T E]

/-! ## Two sessions

  The two cards over a whole run, as the outside sees them. -/

/-- What the outside sees of a run: what each call returns, and the frames that are sent. -/
def observe (x : PiccSession (Logged T)) (inputs : List (PiccInput E)) :
    List (Option (Res (PiccError E) Outcome) × List Frame) :=
  (Run.trace step x inputs).map fun e =>
    (e.output, e.after.picc.sent.drop e.before.picc.sent.length)

/-- What happens within a session: commands, responses, and frames. -/
def inSession : PiccInput E → Bool
  | .call .receiveCommand => true
  | .call (.sendResponse _) => true
  | .frame _ => true
  | _ => false

/-- Nothing that happens within the session tells the two cards apart. -/
def SameConduct (x x' : PiccSession (Logged T)) : Prop :=
  ∀ inputs : List (PiccInput E), (∀ i ∈ inputs, inSession i = true) →
    observe x inputs = observe x' inputs

/-- Two cards that differ in the block sent last, in the same call. -/
structure Twins (x x' : PiccSession (Logged T)) : Prop where
  call : x.call = x'.call
  picc : Picc.Twin x.picc.sent x'.picc.sent x.picc x'.picc

/-- A method that does the same on twins ends the same way, sends the same frames, and leaves
    twins. -/
theorem Twins.advance {x x' : PiccSession (Logged T)} (h : Twins x x')
    {m : Act (Picc (Logged T)) (PiccError E) Next}
    (hm : Act.Alike (Picc.Twin x.picc.sent x'.picc.sent) m m) :
    (PiccSession.advance x.picc m).1 = (PiccSession.advance x'.picc m).1 ∧
    (PiccSession.advance x.picc m).2.picc.sent.drop x.picc.sent.length =
      (PiccSession.advance x'.picc m).2.picc.sent.drop x'.picc.sent.length ∧
    Twins (PiccSession.advance x.picc m).2 (PiccSession.advance x'.picc m).2 := by
  obtain ⟨hres, htwin⟩ := hm x.picc x'.picc h.picc
  rw [PiccSession.advance, PiccSession.advance]
  generalize m.run x.picc = p at hres htwin ⊢
  generalize m.run x'.picc = p' at hres htwin ⊢
  obtain ⟨r, s⟩ := p
  obtain ⟨r', s'⟩ := p'
  obtain rfl : r = r' := hres
  obtain ⟨frames, hs, hs'⟩ := htwin.sent
  have hsent : s.sent.drop x.picc.sent.length = s'.sent.drop x'.picc.sent.length := by
    rw [hs, hs', List.drop_left, List.drop_left]
  have htwins : Picc.Twin s.sent s'.sent s s' := { htwin with sent := ⟨[], by simp, by simp⟩ }
  rcases r with (call | outcome) | e | _ | _ <;> exact ⟨rfl, hsent, rfl, htwins⟩

/-- One step keeps twins alike: what it gives out, what it sends, and the twins after it. -/
theorem Twins.step {x x' : PiccSession (Logged T)} (h : Twins x x') (i : PiccInput E) :
    (PiccSession.step x i).1 = (PiccSession.step x' i).1 ∧
    (PiccSession.step x i).2.picc.sent.drop x.picc.sent.length =
      (PiccSession.step x' i).2.picc.sent.drop x'.picc.sent.length ∧
    Twins (PiccSession.step x i).2 (PiccSession.step x' i).2 := by
  obtain ⟨picc, call⟩ := x
  obtain ⟨picc', call'⟩ := x'
  obtain rfl : call = call' := h.call
  cases call with
  | none =>
    cases i with
    | call api => exact h.advance (Picc.alike_begin api)
    | frame received => exact ⟨rfl, by simp [PiccSession.step], h⟩
  | some call =>
    cases i with
    | call api => exact ⟨rfl, by simp [PiccSession.step], h⟩
    | frame received => exact h.advance (Picc.alike_resume call received)

/-- **Twins stay alike for ever.** -/
theorem Twins.observe {x x' : PiccSession (Logged T)} (h : Twins x x')
    (inputs : List (PiccInput E)) :
    PiccSession.observe x inputs = PiccSession.observe x' inputs := by
  induction inputs generalizing x x' with
  | nil => rfl
  | cons i inputs ih =>
    obtain ⟨hout, hsent, hnext⟩ := h.step i
    simp only [PiccSession.observe, Run.trace_cons, List.map_cons, Run.event_output,
      Run.event_after, Run.event_before, hout, hsent]
    exact congrArg _ (ih hnext)

/-! ## What RATS leaves behind

  RATS sets everything of a session but one field, so two cards that answer the same RATS are twins
  if that field agrees. -/

omit [Build] [PiccTransceiver T E] in
/-- A call that returned. -/
theorem advance_eq_ok {picc : Picc T} {m : Act (Picc T) (PiccError E) Next} {outcome : Outcome}
    (h : (advance picc m).1 = some (.ok outcome)) :
    ∃ picc', m.run picc = (.ok (.ret outcome), picc') ∧ (advance picc m).2 = ⟨picc', none⟩ := by
  rw [advance] at h ⊢
  generalize m.run picc = p at h ⊢
  rcases p with ⟨(call | outcome') | e | _ | _, s⟩
  · cases h
  · cases h
    exact ⟨s, rfl, rfl⟩
  all_goals cases h

/-- A card that waits for RATS gets a frame. -/
def answerRats (s : Picc (Logged T)) (raw : FrameVec) :
    Option (Res (PiccError E) Outcome) × PiccSession (Logged T) :=
  step ⟨s, some .waitForRats⟩ (.frame (.ok raw))

/-- The card once it answered a RATS: a fresh session, under the old limits. -/
theorem answerRats_ok {s : Picc (Logged T)} {raw : FrameVec} {param : UInt8}
    (hrats : s.stripCrc raw = .ok [0xe0, param])
    (hok : (answerRats (E := E) s raw).1 = some (.ok .unit)) :
    ∃ rats frame, RatsParam.tryFrom param = .ok rats ∧
      (Picc.beginSession rats s).atsFrame = .ok frame ∧
      (answerRats (E := E) s raw).2 =
        ⟨{ (Picc.beginSession rats s).afterSend frame with state := .protocol }, none⟩ := by
  have hstep : answerRats (E := E) s raw = advance s (Picc.waitForRats raw) := rfl
  rw [hstep] at hok ⊢
  obtain ⟨s1, hrun, hnext⟩ := advance_eq_ok hok
  rw [Picc.run_waitForRats_rats hrats] at hrun
  obtain ⟨rats, s2, hlift, hrun⟩ := Act.run_bind_eq_ok.mp hrun
  obtain ⟨hres, rfl⟩ := Prod.mk.inj hlift
  rw [Act.run_modify_bind] at hrun
  obtain ⟨⟨⟩, s3, hats, hrun⟩ := Act.run_bind_eq_ok.mp hrun
  rw [Picc.run_sendAts] at hats
  cases hframe : (Picc.beginSession rats s).atsFrame with
  | ok frame =>
    rw [hframe] at hats
    obtain ⟨-, rfl⟩ := Prod.mk.inj hats
    obtain ⟨-, rfl⟩ := Prod.mk.inj hrun
    exact ⟨rats, frame, Res.mapErr_eq_ok.mp hres, hframe, hnext⟩
  | _ => rw [hframe] at hats; cases hats

/-- **Two cards that answered the same RATS are twins**, unless what they sent last differs. -/
theorem twins_answerRats {s s' : Picc (Logged T)} {raw : FrameVec} {param : UInt8}
    (hcrc : s.hwCrc = s'.hwCrc) (hconfig : s.config = s'.config)
    (hlimits : s.handler.limits = s'.handler.limits)
    (halike : PiccTransceiver.Alike s.transceiver.inner s'.transceiver.inner)
    (hrats : s.stripCrc raw = .ok [0xe0, param])
    (hok : (answerRats (E := E) s raw).1 = some (.ok .unit))
    (hok' : (answerRats (E := E) s' raw).1 = some (.ok .unit))
    (hagain : Picc.NeverAgain s.handler.limits ∨ s.again = s'.again) :
    Twins (answerRats (E := E) s raw).2 (answerRats (E := E) s' raw).2 := by
  have hrats' : s'.stripCrc raw = .ok [0xe0, param] := by
    rw [← hrats]; simp only [Picc.stripCrc, hcrc]
  obtain ⟨rats, frame, hr, hframe, hnext⟩ := answerRats_ok hrats hok
  obtain ⟨rats', frame', hr', hframe', hnext'⟩ := answerRats_ok hrats' hok'
  obtain rfl : rats = rats' := by rw [hr] at hr'; exact Res.ok.inj hr'
  obtain rfl : frame = frame' := by
    have hsame : (Picc.beginSession rats s).atsFrame = (Picc.beginSession rats s').atsFrame := by
      simp only [Picc.atsFrame, Picc.beginSession, hcrc, hconfig]
    rw [hframe, hframe'] at hsame
    exact Res.ok.inj hsame
  rw [hnext, hnext']
  refine ⟨rfl, ⟨hcrc, hconfig, ?_, rfl, rfl, (halike.send frame).2, hagain, [], by simp, by simp⟩⟩
  show (Picc.beginSession rats s).handler = (Picc.beginSession rats s').handler
  simp only [Picc.beginSession, hconfig, hlimits]

/-! ## The retransmission tells them apart

  If the field does not agree, one R(NAK) shows it. -/

/-- The R(NAK) with the number a fresh card has. -/
def nak : Block := ProtocolHandler.rblock 1 .nak

/-- A new reader that asks for the last block before it sent one. -/
def askAgain (hwCrc : Bool) : List (PiccInput E) :=
  [.call .receiveCommand, .frame (.ok (nak.raw hwCrc))]

/-- The frames that go out when the last block is asked for. -/
def framesAgain (again : Option (Res TypeAError Frame)) : List Frame :=
  match again with
  | some (.ok frame) => [frame]
  | _ => []

/-- The handler of a new session grants the retransmission. -/
theorem run_receiveCommand_nak {s : Picc (Logged T)} {cid : Option Cid} {limits : Limits}
    (hhandler : s.handler = (ProtocolHandler.withLimits .picc cid limits).beginExchange)
    (hlimits : ¬ Picc.NeverAgain limits) :
    (Picc.receiveCommand (nak.raw s.hwCrc) : Act (Picc (Logged T)) (PiccError E) Next).run s =
      Picc.sendLast.run (s.withHandler s.handler.counted.again) := by
  have hpps : Picc.isPps (nak.raw s.hwCrc) = false := by
    cases s.hwCrc <;> decide
  have hparse : s.parseBlock (nak.raw s.hwCrc) = .ok nak.wire := by
    have hfsc := s.fsc_bounds
    refine Picc.parseBlock_raw ⟨by decide, by decide⟩ ?_ (by decide)
    exact Nat.le_trans (show nak.bytes.length + 2 ≤ 16 by decide) hfsc.1
  have hgrant : s.handler.receive nak.wire = (.ok .chainingRetransmit, s.handler.counted.again) := by
    rw [hhandler]
    obtain ⟨hf, ha⟩ := not_or.mp hlimits
    exact ProtocolHandler.Received.eq (.repeatLast
      (show 1 ≤ limits.maxFrames by omega) rfl rfl (show 1 ≤ limits.maxRetransmissions by omega))
  rw [Picc.run_receiveCommand_block hpps, Act.run_bind, Picc.run_lift, hparse]
  simp only [Res.mapErr_ok]
  rw [Act.run_bind, Picc.run_onHandler_receive, hgrant]
  rfl

/-- The last block goes out again, if there is one and it makes a frame. -/
theorem advance_again (s : Picc (Logged T)) :
    let out := advance s (Picc.sendLast : Act (Picc (Logged T)) (PiccError E) Next)
    out.2.picc.sent.drop s.sent.length = framesAgain s.again ∧
      (s.again = none → out.1 = some (.err (.protocol .other))) ∧
      ∀ e, s.again = some (.err e) → out.1 = some (.err (.protocol e)) := by
  intro out
  simp only [out]
  rw [advance, Picc.sendLast, Act.run_get_bind, Act.run_bind, Picc.run_lift, Picc.again]
  cases s.lastSent with
  | none => exact ⟨List.drop_length, fun _ => rfl, by simp⟩
  | some block =>
    simp only [Res.okOr_some, Res.mapErr_ok, Option.map_some]
    rcases (frameFor_returns s.hwCrc block).cases with ⟨frame, hframe⟩ | ⟨e, hframe⟩
    · rw [Act.run_bind, Picc.run_sendBlock hframe, hframe]
      have hdrop : ((s.remembering block).afterSend frame).sent.drop s.sent.length = [frame] :=
        List.drop_left
      rcases (s.remembering block).sendResult_cases frame with hsend | ⟨e, hsend⟩ <;> rw [hsend]
      · exact ⟨hdrop, by simp, by simp⟩
      · exact ⟨hdrop, by simp, by simp⟩
    · rw [Act.run_bind, Picc.run_sendBlock_err hframe, hframe]
      refine ⟨List.drop_length, by simp, ?_⟩
      rintro e' ⟨⟩
      rfl

/-- **What the new reader gets**: the last block of the old session.  An R(NAK) with the number of
    the fresh handler is a request to repeat, and the method repeats what it finds. -/
theorem observe_askAgain {s : Picc (Logged T)} {cid : Option Cid} (limits : Limits)
    (hhandler : s.handler = ProtocolHandler.withLimits .picc cid limits)
    (hlimits : ¬ Picc.NeverAgain limits) :
    ∃ out, observe (E := E) ⟨s, none⟩ (askAgain s.hwCrc) = [(none, []), (out, framesAgain s.again)] ∧
      (s.again = none → out = some (.err (.protocol .other))) ∧
      ∀ e, s.again = some (.err e) → out = some (.err (.protocol e)) := by
  generalize hs1 : ({ s with handler := s.handler.beginExchange } : Picc (Logged T)) = s1
  have hsent : s.sent = s1.sent := by rw [← hs1]; rfl
  have hagain : s1.again = s.again := by rw [← hs1]; rfl
  have hhandler1 : s1.handler = (ProtocolHandler.withLimits .picc cid limits).beginExchange := by
    rw [← hs1, hhandler]
  have hobs : observe (E := E) ⟨s, none⟩ (askAgain s.hwCrc) = [(none, []),
      ((advance s1 (Picc.receiveCommand (nak.raw s1.hwCrc))).1,
        (advance s1 (Picc.receiveCommand (nak.raw s1.hwCrc))).2.picc.sent.drop s1.sent.length)] := by
    have hbegin : step (E := E) ⟨s, none⟩ (.call .receiveCommand) =
        (none, ⟨s1, some .receiveCommand⟩) := by rw [← hs1]; rfl
    have hframe : step (E := E) ⟨s1, some .receiveCommand⟩ (.frame (.ok (nak.raw s1.hwCrc))) =
        advance s1 (Picc.receiveCommand (nak.raw s1.hwCrc)) := rfl
    rw [show s.hwCrc = s1.hwCrc by rw [← hs1]]
    simp only [observe, askAgain, Run.trace_cons, Run.trace_nil, List.map_cons, List.map_nil,
      Run.event_output, Run.event_after, Run.event_before, hbegin, hframe]
    rw [hsent, List.drop_length]
  obtain ⟨hframes, hnone, herr⟩ :=
    advance_again (E := E) (s1.withHandler s1.handler.counted.again)
  rw [hobs, advance, run_receiveCommand_nak hhandler1 hlimits, ← hagain]
  exact ⟨_, congrArg (fun frames => [_, (_, frames)]) hframes, hnone, herr⟩

/-- What can be asked for again, in three cases. -/
theorem again_cases (s : Picc T) : s.again = none ∨ (∃ frame, s.again = some (.ok frame)) ∨
    s.again = some (.err .bufferFull) := by
  rw [Picc.again]
  cases s.lastSent with
  | none => exact Or.inl rfl
  | some block =>
    have hret := frameFor_returns s.hwCrc block
    rw [Option.map_some]
    cases hframe : frameFor s.hwCrc block with
    | ok frame => exact Or.inr (Or.inl ⟨frame, rfl⟩)
    | err e => exact Or.inr (Or.inr (by rw [frameFor_eq_err hframe]))
    | panic => rw [hframe] at hret; exact hret.elim
    | outOfFuel => rw [hframe] at hret; exact hret.elim

/-- **What the new reader gets tells the old sessions apart**, unless nothing is ever sent again.  The
    frame itself is on the air, and where there is none the two errors differ. -/
theorem again_eq_of_observe (s s' : Picc (Logged T)) {cid cid' : Option Cid} {limits : Limits}
    (hhandler : s.handler = ProtocolHandler.withLimits .picc cid limits)
    (hhandler' : s'.handler = ProtocolHandler.withLimits .picc cid' limits)
    (hlimits : ¬ Picc.NeverAgain limits) (hcrc : s'.hwCrc = s.hwCrc)
    (hobs : observe (E := E) ⟨s, none⟩ (askAgain s.hwCrc) =
      observe (E := E) ⟨s', none⟩ (askAgain s.hwCrc)) : s.again = s'.again := by
  obtain ⟨out, hout, hnone, herr⟩ := observe_askAgain (E := E) limits hhandler hlimits
  obtain ⟨out', hout', hnone', herr'⟩ := observe_askAgain (E := E) limits hhandler' hlimits
  rw [hcrc] at hout'
  rw [hout, hout'] at hobs
  obtain ⟨rfl, hframes⟩ : out = out' ∧ framesAgain s.again = framesAgain s'.again := by
    simpa using hobs
  rcases again_cases s with h | ⟨f, h⟩ | h <;>
    rcases again_cases s' with h' | ⟨f', h'⟩ | h' <;> rw [h, h'] at hframes ⊢
  · cases hframes
  · -- nothing to send against a block that has no frame: two errors
    have := (hnone h).symm.trans (herr' _ h')
    cases this
  · cases hframes
  · cases hframes
    rfl
  · cases hframes
  · have := (hnone' h').symm.trans (herr _ h)
    cases this
  · cases hframes

/-- **A new session reveals nothing of the old one exactly where the block sent last is the same on
    the air**, or can never be asked for. -/
theorem sameConduct_iff (s s' : Picc (Logged T)) (raw : FrameVec) (param : UInt8)
    (hcrc : s.hwCrc = s'.hwCrc) (hconfig : s.config = s'.config)
    (hlimits : s.handler.limits = s'.handler.limits)
    (halike : PiccTransceiver.Alike s.transceiver.inner s'.transceiver.inner)
    (hrats : s.stripCrc raw = .ok [0xe0, param])
    (hok : (answerRats (E := E) s raw).1 = some (.ok .unit))
    (hok' : (answerRats (E := E) s' raw).1 = some (.ok .unit)) :
    SameConduct (answerRats (E := E) s raw).2 (answerRats (E := E) s' raw).2 ↔
      Picc.NeverAgain s.handler.limits ∨ s.again = s'.again := by
  constructor
  · intro hsame
    by_cases hnever : Picc.NeverAgain s.handler.limits
    · exact Or.inl hnever
    · right
      have hrats' : s'.stripCrc raw = .ok [0xe0, param] := by
        rw [← hrats]
        simp only [Picc.stripCrc, hcrc]
      obtain ⟨rats, frame, -, -, hnext⟩ := answerRats_ok hrats hok
      obtain ⟨rats', frame', -, -, hnext'⟩ := answerRats_ok hrats' hok'
      -- the reader of the new session asks for a block again
      have hobs := hsame (askAgain s.hwCrc) (by simp [askAgain, inSession])
      rw [hnext, hnext'] at hobs
      exact again_eq_of_observe { (Picc.beginSession rats s).afterSend frame with state := .protocol }
        { (Picc.beginSession rats' s').afterSend frame' with state := .protocol }
        rfl (by rw [hlimits]; rfl) hnever hcrc.symm hobs
  · intro hagain inputs _
    exact (twins_answerRats hcrc hconfig hlimits halike hrats hok hok' hagain).observe inputs

/-! ## A response of the session before

  The same card, activated for the first and for the second time. -/

/-- A card with the UID 01 02 03 04 and ISO 14443-4 support, in hardware-CRC mode. -/
def freshCard : PiccSession (Logged Willing) :=
  { picc := Picc.new { inner := {} }
      { uid := sampleUid, ats := some (Ats.new .fsc256 0 {} Tc.cidSupp) } }

/-- WUPA, SELECT, and the wait for RATS. -/
def activate : List (PiccInput Unit) :=
  [.call .waitForActivation, .frame (.ok [0x52]),
    .frame (.ok [0x93, 0x70, 0x01, 0x02, 0x03, 0x04, 0x04]), .call .waitForRats]

/-- RATS with FSDI 8 and CID 0. -/
def rats : FrameVec := [0xE0, 0x80]

/-- The card, activated for the first time. -/
def firstSession : Picc (Logged Willing) := (Run.after step freshCard activate).picc

/-- The card, activated again after it answered the command `01` with `42`. -/
def secondSession : Picc (Logged Willing) :=
  (Run.after step freshCard (activate ++ [.frame (.ok rats), .call .receiveCommand,
    .frame (.ok [0x02, 0x01]), .call (.sendResponse [0x42])] ++ activate)).picc

omit [Build] in
/-- Such a transceiver is like any other one. -/
theorem alike_willing (t t' : Willing) : PiccTransceiver.Alike t t' := by
  cases t
  cases t'
  exact fun _ => rfl

omit [Build] in
/-- The law, at these two cards. -/
theorem sameConduct_iff_sample : let : Build := Build.heap
    SameConduct (answerRats firstSession rats).2 (answerRats secondSession rats).2 ↔
      Picc.NeverAgain firstSession.handler.limits ∨
        (firstSession.again = secondSession.again) := by
  intro _
  exact sameConduct_iff firstSession secondSession rats 0x80 (by decide) (by decide) (by decide)
    (alike_willing _ _) (by decide) (by decide) (by decide)

omit [Build] in
/-- **The new reader is sent the response of the old session.** -/
theorem not_sameConduct : let : Build := Build.heap
    (answerRats firstSession rats).1 = some (.ok .unit) ∧
    (answerRats secondSession rats).1 = some (.ok .unit) ∧
    ¬ SameConduct (answerRats firstSession rats).2 (answerRats secondSession rats).2 := by
  intro _
  refine ⟨by decide, by decide, fun h => ?_⟩
  exact absurd (h (askAgain true) (by decide)) (by decide)

end PiccSession

end Iso14443
