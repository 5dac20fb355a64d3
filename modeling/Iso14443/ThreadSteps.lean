/-
  The operations of a reader, with the card thread at the other end of the air.

  `Iso14443.Meeting` says in a few lines what reader and thread should come to;
  `Iso14443.Encounter` shows by induction over the program of the reader that they do.  This file
  has the cases of that induction: for each operation, where it starts, that it succeeds with which
  result, and where it leaves both sides.

  **The states in between.**  All of them are predicates on the air:

  * `Hosts`    — who is there: a card in order with this configuration, CRC mode and application,
                 over an air that loses nothing.  No call changes it (`Hosts.transceive`), so it is
                 carried along everywhere;
  * `Holds`    — what is left to do: the sessions after this one, the APDUs handed over so far, and
                 the limits;
  * `Away`     — the thread is in `wait_for_activation`;
  * `Selected` — it has been selected and is in `wait_for_rats`;
  * `Joined`   — reader and thread are in a session of these parameters, in step: the relation of
                 `Iso14443.Agreement`, for the thread.

  **The operations.**  Where the work has been done before it is carried over.  An activation is
  that of a card in a `Field`: a call of the thread is the same call of its card
  (`serve_activated`), and the walk over the reader's operations does the rest (`activate_air`).
  An exchange is that over a `Link` (`exchange_air`, by `Iso14443.AirLink`).  RATS, PPS and
  DESELECT are one frame each way, and are followed here (`connect_air`, `pps_air`,
  `deselect_air`); after the last one the thread goes on to its next session, if it has one.
-/
import Iso14443.AirLink
import Iso14443.AtsGrammar
import Iso14443.Meeting
import Iso14443.Negotiation
import Iso14443.Robust

namespace Iso14443

open Act

/-! ## An activation

  The thread is in `wait_for_activation` all along, so it is its card in the field, until the last
  SELECT lets the call return. -/

namespace CardThread

/-- The thread once the card is there: if `wait_for_activation` has returned, it waits for a RATS. -/
def activated (self : CardThread) (session : PiccSession (Logged Antenna)) : CardThread :=
  self.withSession (match session.call, session.picc.state with
    | none, .active => ⟨session.picc, some .waitForRats⟩
    | _, _ => session)

/-- A call that waits, or was not selected. -/
theorem activated_of_ne {self : CardThread} {session : PiccSession (Logged Antenna)}
    (h : session.call ≠ none ∨ session.picc.state ≠ .active) :
    self.activated session = self.withSession session := by
  obtain ⟨picc, call⟩ := session
  rw [activated]
  cases call with
  | some call => rfl
  | none =>
    have hstate : picc.state ≠ .active := h.resolve_left (fun hne => hne rfl)
    dsimp only
    split
    · next hs => exact absurd hs hstate
    · rfl

end CardThread

namespace Air

variable [Build]

/-- The card in the field, and the thread it is the card of.  Until it is selected the thread does
    nothing of its own, so an activation is followed on the card alone. -/
structure Waiting (th : CardThread) (t : Tally (Field Antenna) Unit) (t' : Tally Air Unit) :
    Prop where
  fates : t'.inner.fates = []
  handler : t.inner.session.picc.handler = th.card.session.picc.handler
  going : t.inner.session.call = none ∨ (t.inner.session.call = some .waitForActivation ∧
    t.inner.session.picc.state ≠ .active ∧ t.inner.session.picc.state ≠ .protocol)
  thread : t'.inner.thread = th.activated t.inner.session

/-- One frame for a card that waits for its activation: it is selected, waits on, or gives up. -/
theorem deliver_cases {x : PiccSession (Logged Antenna)}
    (hcall : x.call = some .waitForActivation)
    (hstate : x.picc.state ≠ .active ∧ x.picc.state ≠ .protocol) (raw : FrameVec) :
    ∃ out x', PiccSession.deliver x (.ok raw : Except Unit FrameVec) = (out, x') ∧
      x'.picc.handler = x.picc.handler ∧
      (out = some (.ok .unit) ∧ x'.call = none ∧ x'.picc.state = .active ∨
        out = none ∧ x'.call = some .waitForActivation ∧ x'.picc.state ≠ .active ∧
          x'.picc.state ≠ .protocol ∨
        (∃ e, out = some (.err e)) ∧ x'.call = none ∧ x'.picc.state ≠ .active) := by
  have hact := PiccSession.step_activated (E := Unit) hcall hstate (.ok raw)
  generalize PiccSession.deliver x (.ok raw : Except Unit FrameVec) = p at hact ⊢
  cases hact with
  | @answered raw' frame state hr ha =>
    refine ⟨_, _, rfl, rfl, ?_⟩
    have hne : state ≠ .protocol := by
      cases ha with
      | request | wakeup => simp
      | anticollision => exact hstate.2
      | select =>
        unfold Picc.selectedState
        split <;> simp
    by_cases hactive : state = .active
    · left
      simp [hactive]
    · right; left
      simp [hactive, hne]
  | @refused raw' frame state e hr ha =>
    exact ⟨_, _, rfl, rfl, Or.inr (Or.inr ⟨⟨e, rfl⟩, rfl, hstate.1⟩)⟩
  | ignored => exact ⟨_, _, rfl, rfl, Or.inr (Or.inl ⟨rfl, hcall, hstate⟩)⟩
  | @failed e => exact ⟨_, _, rfl, rfl, Or.inr (Or.inr ⟨⟨e, rfl⟩, rfl, hstate.1⟩)⟩

/-- **The same frame for the thread.** -/
theorem serve_activated (th : CardThread) {x x' : PiccSession (Logged Antenna)}
    {out : Option (Res (PiccError Unit) Outcome)} (hcall : x.call = some .waitForActivation)
    (hstate : x.picc.state ≠ .active) {raw : FrameVec}
    (hdeliver : PiccSession.deliver x (.ok raw : Except Unit FrameVec) = (out, x'))
    (hout : out = some (.ok .unit) ∧ x'.call = none ∧ x'.picc.state = .active ∨
        out = none ∧ x'.call = some .waitForActivation ∧ x'.picc.state ≠ .active ∧
          x'.picc.state ≠ .protocol ∨
        (∃ e, out = some (.err e)) ∧ x'.call = none ∧ x'.picc.state ≠ .active) :
    (th.activated x).serve raw = th.activated x' := by
  have hcall' : (th.withSession x).card.session.call = some .waitForActivation := hcall
  have hstep : (th.withSession x).card.session.step (.frame (.ok raw) : PiccInput Unit) = (out, x') :=
    hdeliver
  rw [CardThread.activated_of_ne (Or.inr hstate)]
  rcases hout with ⟨rfl, hnone, hactive⟩ | ⟨rfl, hsome, -⟩ | ⟨⟨e, rfl⟩, -, hne⟩
  · obtain ⟨picc', call'⟩ := x'
    obtain rfl : call' = none := hnone
    have hactive : picc'.state = .active := hactive
    simp only [CardThread.serve, hcall', hstep, CardThread.activated, hactive]
    rfl
  · rw [CardThread.activated_of_ne (Or.inl (by simp [hsome]))]
    simp only [CardThread.serve, hcall', hstep]
    rfl
  · rw [CardThread.activated_of_ne (Or.inr hne)]
    simp only [CardThread.serve, hcall', hstep]
    rfl

/-- A card the reader does not hear. -/
def Unheard (e : ActivationError Unit) : Prop := e = .pcdTransceiver ()

/-- **One call**: the thread answers as its card in the field does.  The card in the field has no
    application; the thread waits in the same call, and does no more than pass the frame on. -/
theorem follows_transceive (th : CardThread) (frame : Frame) :
    Act.Follows (Waiting th) Unheard _
      (Activation.transceive frame : Act (Tally (Field Antenna) Unit) (ActivationError Unit) FrameVec)
      (Activation.transceive frame) := by
  rintro ⟨⟨x⟩, log⟩ ⟨⟨thread, fates⟩, log'⟩ h
  obtain rfl : fates = [] := h.fates
  obtain rfl : thread = th.activated x := h.thread
  rcases h.going with hnone | ⟨hcall, hstate⟩
  · -- nobody listens in the field
    left
    have hdeliver := PiccSession.deliver_none (E := Unit) (x := x) hnone (.ok frame.data)
    have hfield : PcdTransceiver.transceive (⟨⟨x⟩, log⟩ : Tally (Field Antenna) Unit) frame =
        (.error (), ⟨⟨x⟩, log ++ [(frame, .error ())]⟩) := by
      apply Pcd.transceive_tally
      show (Field.answerOf x (PiccSession.deliver x (.ok frame.data : Except Unit FrameVec)).2,
        (⟨(PiccSession.deliver x (.ok frame.data : Except Unit FrameVec)).2⟩ : Field Antenna)) = _
      rw [hdeliver, Field.answerOf, List.drop_length]
    refine ⟨.pcdTransceiver (), rfl, ?_⟩
    simp only [Activation.transceive, hfield]
  · right
    -- the card in the field makes a step, and the thread the same one
    obtain ⟨out, x', hdeliver, hhandler, hout⟩ := deliver_cases hcall hstate frame.data
    have hserve := serve_activated th hcall hstate.1 hdeliver hout
    have hbefore : (th.activated x).card = (th.withSession x).card := by
      rw [CardThread.activated_of_ne (Or.inr hstate.1)]
    have hafter : (th.activated x').card.sent = x'.picc.sent := by
      rw [CardThread.activated]
      split <;> rfl
    have hanswer : Link.answerOf (th.activated x).card (th.activated x').card =
        Field.answerOf x x' := by
      rw [Link.answerOf, Field.answerOf, hafter, hbefore]
      rfl
    have hfield : PcdTransceiver.transceive (⟨⟨x⟩, log⟩ : Tally (Field Antenna) Unit) frame =
        (Field.answerOf x x', ⟨⟨x'⟩, log ++ [(frame, Field.answerOf x x')]⟩) := by
      apply Pcd.transceive_tally
      show (Field.answerOf x (PiccSession.deliver x (.ok frame.data : Except Unit FrameVec)).2,
        (⟨(PiccSession.deliver x (.ok frame.data : Except Unit FrameVec)).2⟩ : Field Antenna)) = _
      rw [hdeliver]
    have hair : PcdTransceiver.transceive (⟨⟨th.activated x, []⟩, log'⟩ : Tally Air Unit) frame =
        (Field.answerOf x x',
          ⟨⟨th.activated x', []⟩, log' ++ [(frame, Field.answerOf x x')]⟩) := by
      apply Pcd.transceive_tally
      show (Link.answerOf (th.activated x).card ((th.activated x).serve frame.data).card,
        ({ thread := (th.activated x).serve frame.data } : Air)) = _
      rw [hserve, hanswer]
    simp only [Activation.transceive, hfield, hair]
    refine ⟨trivial, rfl, hhandler.trans h.handler, ?_, rfl⟩
    -- its call goes on, has returned, or has failed
    rcases hout with ⟨-, hnone, -⟩ | ⟨-, hgoing⟩ | ⟨-, hnone, -⟩
    · exact Or.inl hnone
    · exact Or.inr hgoing
    · exact Or.inl hnone

/-- **An activation goes over the air as in the field.** -/
theorem fieldSteps_air (th : CardThread) : Activation.FieldSteps (E := Unit) (Waiting th)
    (Act.Follows (Waiting th) Unheard) where
  relator := relator_follows _ _
  call := follows_transceive th
  probe := by
    refine .of_alike fun t t' h => ?_
    obtain ⟨⟨x⟩, log⟩ := t
    obtain ⟨⟨thread, fates⟩, log'⟩ := t'
    obtain rfl : thread = th.activated x := h.thread
    have hcrc : (th.activated x).card.session.picc.hwCrc = x.picc.hwCrc := by
      rw [CardThread.activated]
      split <;> rfl
    simp only [Activation.tryEnableHwCrc, PcdTransceiver.tryEnableHwCrc, hcrc]
    exact ⟨trivial, h⟩

/-- What the card brings along, and a card in order; nothing gets lost.  No call changes this. -/
structure Hosts (host : Host) (air : Air) : Prop where
  fates : air.fates = []
  respond : air.thread.card.respond = host.respond
  orderly : ∃ picc : Picc (Logged Antenna), picc.hwCrc = host.hwCrc ∧ picc.config = host.config ∧
    PiccSession.Orderly picc air.thread.card.session

/-- The sessions to serve after this one, the APDUs so far, and the limits. -/
structure Holds (host : Host) (handed : List ChainVec) (n : Nat) (thread : CardThread) : Prop where
  sessions : thread.sessions = n
  handed_eq : thread.card.handed = handed
  limits : thread.card.session.picc.handler.limits = host.limits

/-- The thread waits to be activated, and its card is idle: any REQA or WUPA starts the
    activation. -/
structure Away (host : Host) (handed : List ChainVec) (n : Nat) (thread : CardThread) : Prop
    extends Holds host handed n thread where
  call : thread.card.session.call = some .waitForActivation
  state : thread.card.session.picc.state = .idle

/-- It waits for a RATS. -/
structure Selected (host : Host) (handed : List ChainVec) (n : Nat) (thread : CardThread) : Prop
    extends Holds host handed n thread where
  call : thread.card.session.call = some .waitForRats

variable {host : Host} {handed : List ChainVec} {n : Nat}

omit [Build] in
/-- The card has the CRC mode of its host. -/
theorem Hosts.hwCrc {air : Air} (h : Hosts host air) :
    air.thread.card.session.picc.hwCrc = host.hwCrc := by
  obtain ⟨picc, hcrc, -, horderly⟩ := h.orderly
  exact horderly.picc.hwCrc.trans hcrc

omit [Build] in
/-- It has the configuration of its host. -/
theorem Hosts.config {air : Air} (h : Hosts host air) :
    air.thread.card.session.picc.config = host.config := by
  obtain ⟨picc, -, hconfig, horderly⟩ := h.orderly
  exact horderly.picc.config.trans hconfig

/-- **A frame leaves the card in order**, and its application the same. -/
theorem serve_orderly {picc : Picc (Logged Antenna)} {th : CardThread}
    (h : PiccSession.Orderly picc th.card.session) (raw : FrameVec) :
    PiccSession.Orderly picc (th.serve raw).card.session ∧
      (th.serve raw).card.respond = th.card.respond := by
  -- the thread makes its next call
  have hcall : ∀ (th : CardThread) (api : PiccApi), PiccSession.Orderly picc th.card.session →
      PiccSession.Orderly picc (th.call api).card.session ∧
        (th.call api).card.respond = th.card.respond := by
    intro th api h
    exact ⟨(h.step (E := Unit) (.call api)).2, rfl⟩
  have hanswer : ∀ (th : CardThread) (data : List UInt8), PiccSession.Orderly picc th.card.session →
      PiccSession.Orderly picc (th.answer data).card.session ∧
        (th.answer data).card.respond = th.card.respond := by
    intro th data h
    have hstep := (h.step (E := Unit) (.call (.sendResponse data))).2
    rw [CardThread.answer]
    rcases hout : th.card.session.step (.call (.sendResponse data) : PiccInput Unit) with ⟨out, session⟩
    rw [hout] at hstep
    split
    · next heq =>
      cases heq
      exact hcall (th.withSession session) _ hstep
    · next heq =>
      cases heq
      exact ⟨hstep, rfl⟩
  have hstep := (h.step (E := Unit) (.frame (.ok raw))).2
  rw [CardThread.serve]
  rcases hout : th.card.session.step (.frame (.ok raw) : PiccInput Unit) with ⟨out, session⟩
  rw [hout] at hstep
  split
  · next heq =>
    cases heq
    exact hcall (th.withSession session) _ hstep
  · next heq _ =>
    cases heq
    exact hcall (th.withSession session) _ hstep
  · next heq =>
    cases heq
    exact hanswer _ _ hstep
  · next heq =>
    cases heq
    split
    · exact ⟨hstep, rfl⟩
    · exact hcall _ _ hstep
  · next heq _ _ =>
    cases heq
    exact ⟨hstep, rfl⟩

/-- **So no call changes what the card brings along.** -/
theorem Hosts.transceive {air : Air} (h : Hosts host air) (frame : Frame) :
    Hosts host (PcdTransceiver.transceive air frame).2 := by
  obtain ⟨th, fates⟩ := air
  obtain rfl : fates = [] := h.fates
  obtain ⟨picc, hcrc, hconfig, horderly⟩ := h.orderly
  obtain ⟨horderly', hrespond⟩ := serve_orderly horderly frame.data
  exact ⟨rfl, hrespond.trans h.respond, picc, hcrc, hconfig, horderly'⟩

/-- A card that waits in `Idle` is where the call puts it. -/
theorem activating_of_idle {x : PiccSession (Logged Antenna)}
    (hcall : x.call = some .waitForActivation) (hstate : x.picc.state = .idle) :
    PiccSession.activating (E := Unit) x.picc = x := by
  obtain ⟨⟨transceiver, hwCrc, config, handler, state, fsd, lastSent⟩, call⟩ := x
  obtain rfl : state = .idle := hstate
  obtain rfl : call = some .waitForActivation := hcall
  rfl

/-- **An activation**, with REQA or with WUPA. What is known of a reader and a card in the field is
    carried over to the thread, call by call. -/
theorem activate_air {t : Tally Air Unit} (h : Hosts host t.inner)
    (haway : Away host handed n t.inner.thread) {req : Command} (hreq : req = .reqA ∨ req = .wupA) :
    ∃ t' : Tally Air Unit, (Activation.doActivate req).run t =
        ((.ok host.activation, t') : Res (ActivationError Unit) Activation × Tally Air Unit) ∧
      Selected host handed n t'.inner.thread := by
  obtain ⟨⟨th, fates⟩, log⟩ := t
  have hidle := activating_of_idle haway.call haway.state
  obtain ⟨t₁, hrun, hat⟩ := Field.run_doActivate (E := Unit) (fun _ _ => rfl) th.card.session.picc hreq
  rw [hidle] at hrun
  -- the thread waits for its activation, as its card in the field does
  have hwait : Waiting th ⟨⟨th.card.session⟩, []⟩ ⟨⟨th, fates⟩, log⟩ := by
    have hstate : th.card.session.picc.state = .idle := haway.state
    refine ⟨h.fates, rfl, Or.inr ⟨haway.call, ?_, ?_⟩, ?_⟩
    · rw [hstate]
      simp
    · rw [hstate]
      simp
    · rw [CardThread.activated_of_ne (Or.inr (by rw [hstate]; simp))]
      rfl
  have hact : Field.activationOf th.card.session.picc = host.activation := by
    rw [Field.activationOf, Host.activation, show th.card.session.picc.config = _ from h.config]
    rfl
  -- so the activation over the air ends as in the field
  have hfollows := (fieldSteps_air th).doActivate ‹Build› ‹Build› hreq _ _ hwait
  rcases hair : (Activation.doActivate req).run (⟨⟨th, fates⟩, log⟩ : Tally Air Unit) with ⟨r, t'⟩
  rw [hrun, hair] at hfollows
  rcases hfollows with ⟨e, -, herr⟩ | ⟨hres, hend⟩
  · cases herr
  · refine ⟨t', Prod.ext (hres.symm.trans (congrArg Res.ok hact)) rfl, ?_⟩
    obtain ⟨⟨⟨picc', call'⟩⟩, log'⟩ := t₁
    obtain rfl : call' = none := hat.call
    -- the last SELECT has let the call return
    have hactive : picc'.state = .active := hat.state
    have hthread : t'.inner.thread = th.withSession ⟨picc', some .waitForRats⟩ := by
      rw [hend.thread, CardThread.activated]
      dsimp only
      rw [hactive]
    rw [hthread]
    exact ⟨⟨haway.sessions, haway.handed_eq,
      (congrArg ProtocolHandler.limits hend.handler).trans haway.limits⟩, rfl⟩

/-! ## RATS

  The frame that ends `wait_for_rats`.  The CID and the frame size of the reader go into the
  session. -/

/-- One frame each way. -/
theorem run_air {t : Tally Air Unit} (hfates : t.inner.fates = []) (frame reply : Frame)
    {thread : CardThread} (hserve : t.inner.thread.serve frame.data = thread)
    (hsent : thread.card.sent = t.inner.thread.card.sent ++ [reply]) :
    ∃ log, PcdTransceiver.transceive t frame =
      (.ok reply.data, (⟨⟨thread, []⟩, log⟩ : Tally Air Unit)) := by
  obtain ⟨⟨th, fates⟩, log⟩ := t
  obtain rfl : fates = [] := hfates
  refine ⟨log ++ [(frame, .ok reply.data)], Pcd.transceive_tally ?_⟩
  show (Link.answerOf th.card (th.serve frame.data).card,
    ({ thread := th.serve frame.data } : Air)) = _
  have hserve : th.serve frame.data = thread := hserve
  have hsent : thread.card.sent = th.card.sent ++ [reply] := hsent
  rw [hserve, Link.answerOf, hsent, List.drop_left]

/-- **The thread gets a RATS**: it sends its ATS, and goes on to `receive_command`. -/
theorem serve_rats {th : CardThread} (hcall : th.card.session.call = some .waitForRats)
    (rats : RatsParam) {frame : Frame}
    (hframe : (Picc.beginSession rats th.card.session.picc).atsFrame = .ok frame) :
    th.serve (closed th.card.session.picc.hwCrc [0xe0, rats.toByte]) =
      { th with card := th.card.started rats frame } := by
  obtain ⟨⟨⟨picc, call⟩, respond, handed⟩, sessions⟩ := th
  obtain rfl : call = some .waitForRats := hcall
  have hrun : (PiccCall.waitForRats.resume (.ok (closed picc.hwCrc [0xe0, rats.toByte]) :
      Except Unit FrameVec)).run picc = (.ok (.ret .unit),
        { (Picc.beginSession rats picc).afterSend frame with state := .protocol }) := by
    rw [PiccCall.resume, Picc.run_waitForRats_rats (Picc.stripCrc_closed _ _), Act.run_bind,
      Picc.run_lift, RatsParam.tryFrom_toByte]
    simp only [Res.mapErr_ok]
    rw [Act.run_modify_bind, Act.run_bind, Picc.run_sendAts, hframe]
    rfl
  have hstep : PiccSession.step ⟨picc, some .waitForRats⟩
      (.frame (.ok (closed picc.hwCrc [0xe0, rats.toByte])) : PiccInput Unit) =
        (some (.ok .unit),
          ⟨{ (Picc.beginSession rats picc).afterSend frame with state := .protocol }, none⟩) := by
    show PiccSession.advance picc _ = _
    rw [PiccSession.advance, hrun]
  simp only [CardThread.serve, hstep]
  rfl

/-- What the card has ready to send. -/
theorem atsFrame_host {picc : Picc (Logged Antenna)} (hconfig : picc.config = host.config)
    (rats : RatsParam) : (Picc.beginSession rats picc).atsFrame =
      .ok (.standard (closed picc.hwCrc host.ats.bytes)) := by
  have hlen := host.length_le
  have hats : (Picc.beginSession rats picc).config.ats = some host.ats := by
    show picc.config.ats = _
    rw [hconfig]
    rfl
  have hbytes : host.ats.toBytes = .ok host.ats.bytes := by
    rw [Ats.toBytes_iff, ← Ats.length_bytes_eq_size]
    exact ⟨fits_frameCap (by omega), rfl⟩
  rw [Picc.atsFrame, hats, Res.okOr_some, Res.ok_bind, hbytes, Res.ok_bind]
  exact frameOf_of_fits _ (by omega)

/-- Reader and thread are in a session of these parameters, in step.  The link that it speaks of is
    the one to the card of the thread, over which exchanges are known. -/
structure Joined (host : Host) (handed : List ChainVec) (n : Nat) (g : Setting) (frames : Nat)
    (s : AirReader) : Prop where
  holds : Holds host handed n s.transceiver.inner.thread
  linked : ∃ w, Reader.Linked host.respond s.linked w ∧ w.fates = []
  inStep : s.linked.InStep
  setting : s.linked.setting = g
  frames_eq : s.linked.card.session.picc.handler.counters.frames = frames

/-- **A `connect`.** The thread sends the ATS of its configuration, and both sides start a session
    with the parameters that the meeting has for it. -/
theorem connect_air {t : Tally Air Unit} (h : Hosts host t.inner)
    (hsel : Selected host handed n t.inner.thread) (fsdi : Fsdi) (cid : Cid) :
    ∃ (s : AirReader) (t' : Tally Air Unit), (Pcd.connect fsdi cid).run t =
        ((.ok (s, host.atsRead), t') : Res (PcdError Unit) (AirReader × Ats) × Tally Air Unit) ∧
      Joined host handed n (host.setting fsdi cid) 0 s := by
  have hlen := host.length_le
  have hcrc : Pcd.probed (E := Unit) t = host.hwCrc := by
    rw [← h.hwCrc]
    simp only [Pcd.probed, PcdTransceiver.tryEnableHwCrc]
    cases t.inner.thread.card.session.picc.hwCrc <;> rfl
  have hprobe : (PcdTransceiver.tryEnableHwCrc (E := Unit) t).2 = t := rfl
  -- one call: the thread sends its ATS, and starts its session
  have hserve := serve_rats hsel.call ⟨fsdi, cid⟩ (atsFrame_host h.config ⟨fsdi, cid⟩)
  rw [h.hwCrc] at hserve
  obtain ⟨log, hcall⟩ := run_air h.fates
    (.standard (closed host.hwCrc [0xe0, RatsParam.toByte ⟨fsdi, cid⟩]))
    (.standard (closed host.hwCrc host.ats.bytes)) hserve rfl
  -- the ATS is read back as it was written
  have hread : (if host.hwCrc then Ats.fromCrcVerified (closed host.hwCrc host.ats.bytes)
      else Ats.tryFrom (closed host.hwCrc host.ats.bytes)) = .ok host.atsRead := by
    have hbytes := Ats.fromCrcVerified_bytes host.canonical (by omega)
    cases host.hwCrc with
    | true => exact hbytes
    | false =>
      show Ats.tryFrom (withCrc host.ats.bytes) = _
      rw [Ats.tryFrom, splitCrcA_withCrc]
      exact hbytes
  have hrun : (Pcd.readAts ‹Build› host.hwCrc fsdi cid).run t =
      ((.ok host.atsRead, ⟨⟨⟨t.inner.thread.card.started ⟨fsdi, cid⟩
          (.standard (closed host.hwCrc host.ats.bytes)), t.inner.thread.sessions⟩, []⟩, log⟩) :
        Res (PcdError Unit) Ats × Tally Air Unit) := by
    rw [Pcd.readAts, Act.run_bind, Act.run_lift, frameOf_of_fits _ (by simp)]
    simp only [Res.mapErr_ok]
    rw [Act.run_bind]
    simp only [Pcd.callOf, hcall, Pcd.ofExcept]
    rw [Act.run_lift, Frame.data_standard, hread]
    rfl
  have hconnect := Pcd.run_connect (E := Unit) ‹Build› fsdi cid t
  rw [hcrc, hprobe, hrun] at hconnect
  refine ⟨_, _, hconnect, ?_⟩
  have hfsd := fsdi.fsd_bounds
  have hfsc : t.inner.thread.card.session.picc.fsc = host.ats.format.fsci.fsc := by
    rw [Picc.fsc, h.config]
    rfl
  have hats : t.inner.thread.card.session.picc.config.ats = some host.ats := by
    rw [h.config]
    rfl
  have hcid := Reader.cid_beginSession ⟨fsdi, cid⟩ hats
  -- what the two sides hold from now on
  refine ⟨⟨hsel.sessions, hsel.handed_eq, hsel.limits⟩, ?_, ?_, ?_, ?_⟩
  · refine ⟨⟨.fresh (Picc.beginSession ⟨fsdi, cid⟩ t.inner.thread.card.session.picc).handler.cid
      host.limits handed, []⟩, ?_, rfl⟩
    exact ⟨⟨rfl, by rw [← hsel.limits]; rfl, by simp [Peer.fresh], hsel.handed_eq⟩, rfl, h.respond, h.hwCrc,
      hfsc, rfl, hfsd.1, hfsd.2, ⟨rfl, trivial, by simp [Peer.fresh]⟩, rfl⟩
  · exact ⟨rfl, rfl, show (1 : Fin 2) = 1 - 0 by decide⟩
  · rw [Host.setting, ← hcid, ← hsel.limits]
    rfl
  · rfl

/-! ## PPS

  Answered by `receive_command` without a block: nothing changes but the frame counter. -/

omit [Build] in
/-- The first byte of a PPS tells it from a block. -/
theorem isPps_pps (hwCrc : Bool) (cid : Cid) (rest : List UInt8) :
    Picc.isPps (closed hwCrc ((0xd0 + cid.value) :: rest)) = true := by
  have hfirst : ∀ cid : Cid, (0xd0 + cid.value) &&& 0xF0 = 0xD0 := by decide
  obtain ⟨tail, htail, -⟩ := Picc.closed_cons hwCrc (0xd0 + cid.value) rest
  rw [htail]
  exact decide_eq_true (hfirst cid)

omit [Build] in
/-- The thread once it has answered a PPS with its PPSS. -/
def tuned (thread : CardThread) (pps : PpsParam) : CardThread :=
  let picc := thread.card.session.picc
  thread.withSession ⟨(picc.withHandler picc.handler.counted).afterSend
    (.standard (closed picc.hwCrc [0xd0 + pps.cid.value])), some .receiveCommand⟩

/-- **A PPS in a session**: the card answers with its PPSS, and has counted a frame. -/
theorem serve_pps {th : CardThread} (hcall : th.card.session.call = some .receiveCommand)
    (hframes : th.card.session.picc.handler.FrameOk) (pps : PpsParam) :
    th.serve (closed th.card.session.picc.hwCrc [0xd0 + pps.cid.value, 0x11, pps.toByte]) =
      tuned th pps := by
  obtain ⟨⟨⟨picc, call⟩, respond, handed⟩, sessions⟩ := th
  obtain rfl : call = some .receiveCommand := hcall
  have hframes : picc.handler.FrameOk := hframes
  have hrun : (PiccCall.receiveCommand.resume (.ok (closed picc.hwCrc
      [0xd0 + pps.cid.value, 0x11, pps.toByte]) : Except Unit FrameVec)).run picc =
        (.ok (.wait .receiveCommand), (picc.withHandler picc.handler.counted).afterSend
          (.standard (closed picc.hwCrc [0xd0 + pps.cid.value]))) := by
    show (Picc.receiveCommand _).run picc = _
    rw [Picc.run_receiveCommand_pps (isPps_pps _ _ _), Act.run_bind, Picc.run_onHandler,
      ProtocolHandler.run_noteFrame, if_pos hframes]
    simp only [Res.mapErr_ok]
    rw [Act.run_bind, Picc.handlePps, Act.run_get_bind, Act.run_bind, Picc.run_lift,
      show (picc.withHandler picc.handler.counted).stripCrc _ = _ from Picc.stripCrc_closed picc _]
    simp only [Res.mapErr_ok]
    rw [Act.run_bind, Picc.run_lift, PpsParam.fromCrcVerified_bytes]
    simp only [Res.mapErr_ok]
    rw [Picc.run_sendStandard (by simp)]
    rfl
  have hstep : PiccSession.step ⟨picc, some .receiveCommand⟩ (.frame (.ok (closed picc.hwCrc
      [0xd0 + pps.cid.value, 0x11, pps.toByte])) : PiccInput Unit) =
        (none, ⟨(picc.withHandler picc.handler.counted).afterSend
          (.standard (closed picc.hwCrc [0xd0 + pps.cid.value])), some .receiveCommand⟩) := by
    show PiccSession.advance picc _ = _
    rw [PiccSession.advance, hrun]
  simp only [CardThread.serve, hstep, tuned]

omit [Build] in
/-- The reader reads the PPSS. -/
theorem ppsResp_read (hwCrc : Bool) (cid : Cid) :
    (if hwCrc then PpsResp.fromCrcVerified (closed hwCrc [0xd0 + cid.value])
      else PpsResp.tryFrom (closed hwCrc [0xd0 + cid.value])) = .ok cid := by
  have hread : ∀ cid : Cid, PpsResp.fromCrcVerified [0xd0 + cid.value] = .ok cid := by decide
  cases hwCrc with
  | true => exact hread cid
  | false =>
    show PpsResp.tryFrom (withCrc [0xd0 + cid.value]) = _
    rw [PpsResp.tryFrom, splitCrcA_withCrc]
    exact hread cid

/-- A PPS that is answered. -/
theorem run_pps {T E : Type} [PcdTransceiver T E] {s : Pcd T} {dri dsi : Dxi} {t : T}
    (hcall : PcdTransceiver.transceive s.transceiver (.standard (closed s.hwCrc
      [0xd0 + (s.handler.buildRack.cid.getD 0).value, 0x11,
        PpsParam.toByte ⟨s.handler.buildRack.cid.getD 0, dri, dsi⟩])) =
      (.ok (closed s.hwCrc [0xd0 + (s.handler.buildRack.cid.getD 0).value]), t)) :
    (Pcd.pps dri dsi).run s = ((.ok (), s.withTransceiver t) : Res (PcdError E) Unit × Pcd T) := by
  rw [Pcd.pps, Act.run_get_bind, Act.run_bind, Pcd.run_lift, frameOf_of_fits _ (by simp)]
  simp only [Res.mapErr_ok]
  rw [Act.run_bind]
  simp only [Pcd.transceive, hcall, Pcd.ofExcept]
  rw [Act.run_bind, Pcd.run_lift, ppsResp_read]
  rfl

variable {g : Setting} {frames : Nat} {s : AirReader}

namespace Joined

omit [Build] in
/-- One more frame is within the limit of the card. -/
theorem frameOk (h : Joined host handed n g frames s) (hframes : frames + 1 ≤ g.cardLimits.maxFrames) :
    s.transceiver.inner.thread.card.session.picc.handler.FrameOk := by
  have hlimits : s.transceiver.inner.thread.card.session.picc.handler.limits = g.cardLimits := by
    rw [← h.setting]
    rfl
  have heq : s.transceiver.inner.thread.card.session.picc.handler.counters.frames = frames :=
    h.frames_eq
  apply ProtocolHandler.frameOk_of_le
  rw [hlimits, heq]
  exact hframes

omit [Build] in
/-- And it is counted: the counter does not stop there. -/
theorem frames_counted (h : Joined host handed n g frames s)
    (hframes : frames + 1 ≤ g.cardLimits.maxFrames) :
    s.transceiver.inner.thread.card.session.picc.handler.counted.counters.frames = frames + 1 := by
  have heq : s.transceiver.inner.thread.card.session.picc.handler.counters.frames = frames :=
    h.frames_eq
  have hmax := g.cardLimits.frames_le
  show saturatingIncr u16Max _ = _
  rw [heq]
  exact saturatingIncr_of_lt (by omega)

end Joined

/-- **A PPS.** -/
theorem pps_air (hhosts : Hosts host s.transceiver.inner) (h : Joined host handed n g frames s)
    (hframes : frames + 1 ≤ g.cardLimits.maxFrames)
    (dri dsi : Dxi) : ∃ s' : AirReader, (Pcd.pps dri dsi).run s =
        ((.ok (), s') : Res (PcdError Unit) Unit × AirReader) ∧
      Joined host handed n g (frames + 1) s' := by
  obtain ⟨⟨peer, fates⟩, hl, hfates⟩ := h.linked
  obtain rfl : fates = [] := hfates
  have hcrc : s.transceiver.inner.thread.card.session.picc.hwCrc = s.hwCrc := hl.hwCrc
  have hserve := serve_pps h.inStep.call (h.frameOk hframes) ⟨s.handler.buildRack.cid.getD 0, dri, dsi⟩
  rw [hcrc] at hserve
  obtain ⟨log, hcall⟩ := run_air hhosts.fates (.standard (closed s.hwCrc _))
    (.standard (closed s.hwCrc _)) hserve (by rw [← hcrc]; rfl)
  have hrun := run_pps hcall
  have hcall' : peer.call = .receiveCommand :=
    Option.some.inj (hl.shows.call.symm.trans h.inStep.call)
  refine ⟨_, hrun, ⟨h.holds.sessions, h.holds.handed_eq, h.holds.limits⟩, ?_, ?_, h.setting,
    h.frames_counted hframes⟩
  · refine ⟨⟨⟨peer.call, peer.handler.counted, peer.last, peer.handed⟩, []⟩, ?_, rfl⟩
    exact ⟨⟨congrArg some hcall'.symm, congrArg ProtocolHandler.counted hl.shows.handler,
      hl.shows.last, hl.shows.handed⟩, rfl, hl.respond, hl.hwCrc, hl.fsc, hl.fsd, hl.fsd_ge, hl.fsd_le,
      ⟨hl.sound.role, by rw [hcall']; trivial, hl.sound.last⟩, hl.role⟩
  · exact ⟨rfl, h.inStep.chain, h.inStep.number⟩

/-! ## An exchange

  Carried over from the link. -/

omit [Build] in
/-- No answer of the dialogue is `Ending`. -/
theorem not_ending_turn (g : Setting) (number : Fin 2) (apdu resp : List UInt8) (i : Nat) :
    ¬ Ending (g.turn number apdu resp i).2 := by
  have hraw : ∀ {b : Block}, b.WellFormed → b.blockType ≠ .sBlock → ¬ Ending (.ok (b.raw g.hwCrc)) := by
    intro b hb ht hend
    exact ht ((ending_raw hb g.hwCrc).mp hend)
  show ¬ Ending (.ok ((g.replied number apdu resp i).raw g.hwCrc))
  rw [Setting.replied]
  split
  · refine hraw (ProtocolHandler.wellFormed_buildRack _) ?_
    rw [(ProtocolHandler.isRack_buildRack _).1]
    simp
  · refine hraw (ProtocolHandler.wellFormed_iblockOf _ _ _) ?_
    rw [show Block.blockType _ = .iBlock from (Peer.blockType_chunk _ resp g.responseInf _).1]
    simp

/-- **An exchange.** It is one over the link to the card of the thread, as long as no answer ends
    the session; and plain answers do not. -/
theorem exchange_air (h : Joined host handed n g frames s) {apdu : List UInt8} (hne : apdu ≠ [])
    (haff : g.Affords 1 frames apdu (host.respond (handed ++ [apdu]))) {fuel : Nat}
    (hcommand : g.commandBlocks apdu ≤ fuel)
    (hresponse : g.responseBlocks (host.respond (handed ++ [apdu])) ≤ fuel) :
    ∃ s' : AirReader, (Pcd.exchange fuel apdu).run s =
        ((.ok (host.respond (handed ++ [apdu])), s') : Res (PcdError Unit) ChainVec × AirReader) ∧
      Joined host (handed ++ [apdu]) n g 0 s' := by
  obtain ⟨⟨peer, fates⟩, hl, hfates⟩ := h.linked
  obtain rfl : fates = [] := hfates
  have hhanded : s.linked.card.handed = handed := h.holds.handed_eq
  have hcommand' : s.linked.setting.commandBlocks apdu ≤ fuel := by
    rw [h.setting]
    exact hcommand
  have hresponse' : s.linked.setting.responseBlocks (host.respond (handed ++ [apdu])) ≤ fuel := by
    rw [h.setting]
    exact hresponse
  have hfirst : ∀ i < s.linked.setting.commandBlocks apdu,
      ([] : List Fate).getD i .delivered = .delivered := by simp
  have hpatient : Fate.Patient 1 (([] : List Fate).drop (s.linked.setting.commandBlocks apdu)) := by
    rw [List.drop_nil]
    exact .nil Nat.one_pos
  -- over the link the exchange is delivered, call by call
  obtain ⟨t, w', hrun, hl', hdelivered, k, hk⟩ := Reader.exchange_delivers hl h.inStep hne
    (by rw [hhanded]) Nat.one_pos (by decide) (by rw [h.setting, h.frames_eq]; exact haff) hfirst
    hpatient hcommand' hresponse'
  obtain ⟨log, hlog, hretold⟩ := hdelivered.talk
  rw [hretold.eq] at hlog
  -- none of its answers is an S-Block, so none ends the session
  have hfine : ∀ call ∈ s.linked.setting.dialogue s.linked.handler.blockNumber apdu
      (host.respond (handed ++ [apdu])), ¬ Ending call.2 := by
    intro call hcall
    obtain ⟨i, -, rfl⟩ := List.mem_map.mp hcall
    exact not_ending_turn _ _ _ _ i
  obtain ⟨s', hrun', hover⟩ := Reader.exchange_air fuel apdu s (Or.inl h.inStep.call) hrun hlog hfine
  obtain rfl := hover.eq
  -- the two sides are in step as they are over the link
  refine ⟨s', hrun', ⟨hover.sessions_eq.trans h.holds.sessions, ?_, ?_⟩, ⟨w', hl', ?_⟩,
    hdelivered.inStep, ?_, ?_⟩
  · rw [← hhanded]
    exact hdelivered.handed
  · have hlimits : s'.linked.setting.cardLimits = host.limits := by
      rw [hdelivered.setting]
      exact h.holds.limits
    exact hlimits
  · rw [hk, List.drop_nil]
  · exact hdelivered.setting.trans h.setting
  · exact Nat.lt_one_iff.mp hdelivered.frames

/-! ## DESELECT

  The one block that ends a session: the card replies and halts, its call returns an error, and the
  thread takes it for the end of the session. -/

omit [Build] in
/-- What an S(DESELECT) says, whoever builds it. -/
theorem buildSblock_deselect (h : ProtocolHandler) :
    (h.buildSblock .deselect).WellFormed ∧ (h.buildSblock .deselect).blockType = .sBlock ∧
      (h.buildSblock .deselect).pcb.sSubtype = some .deselect ∧
      (h.buildSblock .deselect).bytes.length + 2 ≤ 16 := by
  have hlen := h.length_buildSblock .deselect
  have hprologue := h.prologueLen_le
  refine ⟨h.wellFormed_buildSblock (Or.inl rfl), ?_, ?_, by omega⟩
  · simp only [ProtocolHandler.buildSblock, ProtocolHandler.addCid]
    split <;> rfl
  · simp only [ProtocolHandler.buildSblock, ProtocolHandler.addCid]
    split <;> rfl

/-- The thread once it has answered an S(DESELECT): the session is over, and it waits for the next
    one, if there is one. -/
def parted (thread : CardThread) : CardThread :=
  let picc := thread.card.session.picc
  let halted := { (picc.withHandler picc.handler.counted.reset).saying
    (picc.handler.buildSblock .deselect) with state := .halted }
  match thread.sessions with
  | 0 => thread.withSession ⟨halted, none⟩
  | n + 1 => { thread.withSession ⟨halted, none⟩ with sessions := n }.call .waitForActivation

/-- **A DESELECT in a session.** -/
theorem serve_deselect {th : CardThread} (hcall : th.card.session.call = some .receiveCommand)
    (hframes : th.card.session.picc.handler.FrameOk) (h : ProtocolHandler) :
    th.serve ((h.buildSblock .deselect).raw th.card.session.picc.hwCrc) = parted th := by
  obtain ⟨⟨⟨picc, call⟩, respond, handed⟩, sessions⟩ := th
  obtain rfl : call = some .receiveCommand := hcall
  obtain ⟨hwf, ht, hsub, hlen⟩ := buildSblock_deselect h
  obtain ⟨-, -, hsub', hlen'⟩ := buildSblock_deselect picc.handler
  have hfsc := picc.fsc_bounds
  have hr : picc.handler.receive (h.buildSblock .deselect) =
      (.ok (.reply (picc.handler.buildSblock .deselect)), picc.handler.counted.reset) :=
    ProtocolHandler.Received.eq (.deselect hframes ht hsub)
  have hreply : Picc.isDeselectReply (picc.handler.buildSblock .deselect) = true :=
    decide_eq_true hsub'
  have hrun : (PiccCall.receiveCommand.resume (.ok ((h.buildSblock .deselect).raw picc.hwCrc) :
      Except Unit FrameVec)).run picc = (.err .deselected,
        { (picc.withHandler picc.handler.counted.reset).saying
          (picc.handler.buildSblock .deselect) with state := .halted }) := by
    show (Picc.receiveCommand _).run picc = _
    rw [Picc.run_receiveCommand_read hwf (by omega) hr]
    dsimp only
    rw [Act.run_bind, Picc.run_sendBlock_saying (by omega)]
    simp only [hreply, if_true]
    rfl
  have hstep : PiccSession.step ⟨picc, some .receiveCommand⟩
      (.frame (.ok ((h.buildSblock .deselect).raw picc.hwCrc)) : PiccInput Unit) =
        (some (.err .deselected), ⟨{ (picc.withHandler picc.handler.counted.reset).saying
          (picc.handler.buildSblock .deselect) with state := .halted }, none⟩) := by
    show PiccSession.advance picc _ = _
    rw [PiccSession.advance, hrun]
  cases sessions with
  | zero => simp only [CardThread.serve, hstep, parted]
  | succ n => simp only [CardThread.serve, hstep, parted]

/-- It has sent S(DESELECT). -/
theorem sent_parted (th : CardThread) : (parted th).card.sent = th.card.sent ++
    [.standard ((th.card.session.picc.handler.buildSblock .deselect).raw
      th.card.session.picc.hwCrc)] := by
  rw [parted]
  dsimp only
  split <;> rfl

omit [Build] in
/-- The reader's side of it. -/
theorem isDeselected_wire (h : ProtocolHandler) :
    Pcd.isDeselected (h.buildSblock .deselect).wire = true := by
  obtain ⟨-, ht, hsub, -⟩ := buildSblock_deselect h
  simp [Pcd.isDeselected, ht, hsub]

/-- **A DESELECT**: the thread goes on to its next session, if it has one.  The card counts a frame
    for it, so one must be left. -/
theorem deselect_air (hhosts : Hosts host s.transceiver.inner) (h : Joined host handed n g frames s)
    (hframes : frames + 1 ≤ g.cardLimits.maxFrames) :
    ∃ s' : AirReader, Pcd.deselect.run s =
        ((.ok (), s') : Res (PcdError Unit) Unit × AirReader) ∧
      s'.transceiver.inner.thread.card.handed = handed ∧
      ∀ m, n = m + 1 → Away host handed m s'.transceiver.inner.thread := by
  obtain ⟨w, hl, -⟩ := h.linked
  have hcrc : s.transceiver.inner.thread.card.session.picc.hwCrc = s.hwCrc := hl.hwCrc
  have hfsd : 16 ≤ s.fsd := hl.fsd_ge
  have hserve := serve_deselect h.inStep.call (h.frameOk hframes) s.handler
  rw [hcrc] at hserve
  obtain ⟨-, -, -, hlen⟩ := buildSblock_deselect s.handler
  obtain ⟨hwf, -, -, hlen'⟩ :=
    buildSblock_deselect s.transceiver.inner.thread.card.session.picc.handler
  -- one call: the card replies, and the thread goes on
  obtain ⟨log, hcall⟩ := run_air hhosts.fates (.standard (Block.raw s.hwCrc _))
    (.standard (Block.raw s.hwCrc _)) hserve (by rw [← hcrc]; exact sent_parted _)
  have hfor : frameFor s.hwCrc (s.handler.buildSblock .deselect) =
      .ok (.standard (Block.raw s.hwCrc (s.handler.buildSblock .deselect))) :=
    frameFor_of_fits s.hwCrc (by omega)
  have hblock := Pcd.run_transceiveBlock (E := Unit) hfor
  rw [hcall, Frame.data_standard, Pcd.received_raw hwf (by omega) (by omega)] at hblock
  -- the reply is what `deselect` waits for, so it is not tried again
  have hrun : Pcd.deselect.run s = ((.ok (), s.withTransceiver
      ⟨⟨parted s.transceiver.inner.thread, []⟩, log⟩) : Res (PcdError Unit) Unit × AirReader) := by
    rw [Pcd.deselect, Act.run_get_bind, Act.run_bind_ok (Act.run_attempt_ok hblock)]
    simp only [isDeselected_wire, if_true]
    rfl
  refine ⟨_, hrun, ?_, ?_⟩
  · show (parted s.transceiver.inner.thread).card.handed = handed
    rw [parted, ← h.holds.handed_eq]
    dsimp only
    split <;> rfl
  · -- with a session to come it waits for an activation again
    rintro m rfl
    show Away host handed m (parted s.transceiver.inner.thread)
    refine ⟨⟨?_, ?_, ?_⟩, ?_, ?_⟩ <;> rw [parted, h.holds.sessions]
    · rfl
    · exact h.holds.handed_eq
    · exact h.holds.limits
    · rfl
    · rfl

end Air

end Iso14443
