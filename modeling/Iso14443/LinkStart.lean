/-
  The start of a session over a link: `Pcd::connect` against a card in `wait_for_rats`.

  * `deliver_rats`   — what a card in `wait_for_rats` does with a RATS.
  * `connect_linked` — a `connect` that succeeds leaves reader and card in one session, in step.

  `connect` makes one call, of a RATS, and reads one answer, so if it succeeds that call was
  delivered and the card has sent its ATS.  From then on the card is a fresh `Peer`: the numbers
  are those of Rules A and C, the handler is new, and nothing has been sent that could be asked for
  again.
-/
import Iso14443.LinkStep

namespace Iso14443

open ProtocolHandler

/-! ## The card

  A RATS that can be read, and whose ATS fits a frame, starts a session. -/

namespace Card

variable [Build] {c : Card}

/-- The card after RATS: the session begun, and the application in `receive_command`. -/
def started (c : Card) (rats : RatsParam) (frame : Frame) : Card :=
  { c with session :=
      ⟨{ (Picc.beginSession rats c.session.picc).afterSend frame with state := .protocol },
        some .receiveCommand⟩ }

/-- **A card in `wait_for_rats` that gets a RATS** sends its ATS and starts the session, or says
    nothing. -/
theorem deliver_rats (hcall : c.session.call = some .waitForRats) (rats : RatsParam) :
    (∃ frame, (Picc.beginSession rats c.session.picc).atsFrame = .ok frame ∧
      c.deliver (closed c.session.picc.hwCrc [0xe0, rats.toByte]) = c.started rats frame) ∨
    (c.deliver (closed c.session.picc.hwCrc [0xe0, rats.toByte])).sent = c.sent := by
  have hrun : (PiccCall.waitForRats.resume (.ok (closed c.session.picc.hwCrc
      [0xe0, rats.toByte]) : Except Unit FrameVec)).run c.session.picc = (do
      Picc.sendAts
      Picc.setState .protocol
      pure (.ret .unit) : Act _ (PiccError Unit) Next).run
        (Picc.beginSession rats c.session.picc) := by
    rw [PiccCall.resume, Picc.run_waitForRats_rats (Picc.stripCrc_closed _ _),
      Act.run_bind, Picc.run_lift, RatsParam.tryFrom_toByte]
    rfl
  have hret := Picc.atsFrame_returns (Picc.beginSession rats c.session.picc)
  rw [Act.run_bind, Picc.run_sendAts] at hrun
  cases hframe : (Picc.beginSession rats c.session.picc).atsFrame with
  | ok frame =>
    rw [hframe] at hrun
    refine Or.inl ⟨frame, rfl, ?_⟩
    rw [deliver_end hcall (Or.inl rfl) hrun]
    rfl
  | err e =>
    rw [hframe] at hrun
    apply Or.inr
    rw [deliver_end hcall (Or.inr ⟨_, rfl⟩) hrun]
    rfl
  | panic => rw [hframe] at hret; exact hret.elim
  | outOfFuel => rw [hframe] at hret; exact hret.elim

/-- What an ATS frame says to a reader: the frame size of the card. -/
theorem fsc_of_atsFrame {picc : Picc (Logged Antenna)} {frame : Frame}
    (h : picc.atsFrame = .ok frame) {ats : Ats}
    (hr : (if picc.hwCrc then Ats.fromCrcVerified frame.data else Ats.tryFrom frame.data) = .ok ats) :
    ats.format.fsci.fsc = picc.fsc := by
  obtain ⟨own, hown, h⟩ := Res.bind_eq_ok.mp h
  obtain ⟨bytes, hbytes, h⟩ := Res.bind_eq_ok.mp h
  have hfsc : picc.fsc = own.format.fsci.fsc := by
    cases hats : picc.config.ats with
    | none => rw [hats] at hown; cases hown
    | some a =>
      rw [hats] at hown
      cases hown
      rw [Picc.fsc, hats]
  have hread : Ats.fromCrcVerified bytes = .ok ats := by
    cases hcrc : picc.hwCrc with
    | true =>
      rw [hcrc] at h hr
      cases h
      exact hr
    | false =>
      rw [hcrc] at h hr
      obtain ⟨data, hdata, h⟩ := Res.bind_eq_ok.mp h
      cases h
      obtain ⟨-, rfl⟩ := appendCrcA_eq_ok.mp hdata
      rwa [if_neg (by simp), Frame.data_standard, Ats.tryFrom, splitCrcA_withCrc] at hr
  rw [hfsc, Ats.fsci_of_toBytes hbytes hread]

end Card

/-! ## The reader

  The probe of the transceiver, the call, and what is read of the answer. -/

/-- A card in a new session, for the commands to come. -/
def Peer.fresh (cid : Option Cid) (limits : Limits) (handed : List ChainVec) : Peer :=
  ⟨.receiveCommand, withLimits .picc cid limits, none, handed⟩

namespace Reader

variable [Build]

/-- What a `connect` that succeeds has done: one call, and an ATS in the answer.  The session starts
    from that ATS and from what the probe said. -/
theorem connect_ok {link : Link} {fsdi : Fsdi} {cid : Cid} {s : Reader} {ats : Ats}
    {t : Tally Link Unit}
    (h : (Pcd.connect fsdi cid).run (⟨link, []⟩ : Tally Link Unit) = (.ok (s, ats), t)) :
    ∃ raw link' log, PcdTransceiver.transceive link (.standard (closed link.card.session.picc.hwCrc
        [0xe0, RatsParam.toByte ⟨fsdi, cid⟩])) = (.ok raw, link') ∧
      (if link.card.session.picc.hwCrc then Ats.fromCrcVerified raw else Ats.tryFrom raw) = .ok ats ∧
      s = Pcd.new ⟨link', log⟩ ats fsdi (some cid) link.card.session.picc.hwCrc := by
  -- the probe says what the card supports
  have hrun : (Pcd.connect fsdi cid).run (⟨link, []⟩ : Tally Link Unit) = (do
      let frame ← Act.lift .protocol (frameOf link.card.session.picc.hwCrc
        [0xe0, RatsParam.toByte ⟨fsdi, cid⟩])
      let resp ← ⟨fun t => (Pcd.ofExcept (PcdTransceiver.transceive t frame).1,
        (PcdTransceiver.transceive t frame).2)⟩
      let ats ← Act.lift .protocol (if link.card.session.picc.hwCrc then Ats.fromCrcVerified resp
        else Ats.tryFrom resp)
      let t ← Act.get
      pure (Pcd.new t ats fsdi (some cid) link.card.session.picc.hwCrc, ats) :
        Act (Tally Link Unit) (PcdError Unit) (Reader × Ats)).run ⟨link, []⟩ := by
    have htry : PcdTransceiver.tryEnableHwCrc (⟨link, []⟩ : Tally Link Unit) =
        (if link.card.session.picc.hwCrc then .ok () else .error (), ⟨link, []⟩) := rfl
    cases hcrc : link.card.session.picc.hwCrc with
    | true => rw [hcrc, if_pos rfl] at htry; simp only [Pcd.connect, htry]
    | false => rw [hcrc, if_neg Bool.false_ne_true] at htry; simp only [Pcd.connect, htry]
  -- each step of it has succeeded, so the call was answered
  rw [hrun] at h
  obtain ⟨frame, t₁, hframe, h⟩ := Act.run_bind_eq_ok.mp h
  rw [Act.run_lift, frameOf_of_fits _ (by simp)] at hframe
  cases hframe
  obtain ⟨raw, t₂, hraw, h⟩ := Act.run_bind_eq_ok.mp h
  obtain ⟨ats', t₃, hats, h⟩ := Act.run_bind_eq_ok.mp h
  rw [Act.run_lift] at hats
  rw [Act.run_get_bind, Act.run_pure] at h
  cases h
  -- what it was answered with
  cases hcall : PcdTransceiver.transceive link (.standard (closed link.card.session.picc.hwCrc
    [0xe0, RatsParam.toByte ⟨fsdi, cid⟩])) with
  | mk answer link' =>
    have hlogged := Pcd.transceive_tally (t := ⟨link, []⟩) hcall
    dsimp only at hraw
    rw [hlogged] at hraw
    cases answer with
    | error e => cases hraw
    | ok raw' =>
      cases hraw
      obtain ⟨hats, ht⟩ := Prod.ext_iff.mp hats
      obtain rfl : _ = t := ht
      exact ⟨raw, link', _, rfl, Res.mapErr_eq_ok.mp hats, rfl⟩

/-- **A `connect` that succeeds has started the card**, and read its ATS. -/
theorem connect_started {card : Card} {fates : List Fate} {fsdi : Fsdi} {cid : Cid} {s : Reader}
    {ats : Ats} {t : Tally Link Unit} (hcall : card.session.call = some .waitForRats)
    (h : (Pcd.connect fsdi cid).run (⟨⟨card, fates⟩, []⟩ : Tally Link Unit) = (.ok (s, ats), t)) :
    ∃ frame log, (Picc.beginSession ⟨fsdi, cid⟩ card.session.picc).atsFrame = .ok frame ∧
      (if card.session.picc.hwCrc then Ats.fromCrcVerified frame.data else Ats.tryFrom frame.data) =
        .ok ats ∧
      s = Pcd.new ⟨⟨card.started ⟨fsdi, cid⟩ frame, fates.tail⟩, log⟩ ats fsdi (some cid)
        card.session.picc.hwCrc := by
  obtain ⟨raw, link, log, hlink, hats, rfl⟩ := connect_ok h
  -- the frame has reached the card, and the answer the reader
  have hdeliver : Link.answerOf card (card.deliver (closed card.session.picc.hwCrc
      [0xe0, RatsParam.toByte ⟨fsdi, cid⟩])) = .ok raw ∧ link = ⟨card.deliver (closed
      card.session.picc.hwCrc [0xe0, RatsParam.toByte ⟨fsdi, cid⟩]), fates.tail⟩ := by
    cases fates with
    | nil => exact ⟨(Prod.ext_iff.mp hlink).1, (Prod.ext_iff.mp hlink).2.symm⟩
    | cons fate fates =>
      cases fate with
      | delivered => exact ⟨(Prod.ext_iff.mp hlink).1, (Prod.ext_iff.mp hlink).2.symm⟩
      | frameLost => cases (Prod.ext_iff.mp hlink).1
      | answerLost => cases (Prod.ext_iff.mp hlink).1
  obtain ⟨hanswer, rfl⟩ := hdeliver
  rcases Card.deliver_rats hcall ⟨fsdi, cid⟩ with ⟨frame, hframe, hcard⟩ | hsilent
  · have hsent : (card.started ⟨fsdi, cid⟩ frame).sent = card.sent ++ [frame] := rfl
    rw [hcard, Link.answerOf, hsent, List.drop_left] at hanswer
    cases hanswer
    exact ⟨frame, log, hframe, hats, by rw [hcard]⟩
  · rw [Link.answerOf, hsilent, List.drop_length] at hanswer
    cases hanswer

/-- **`connect` starts a session**: reader and card are in it together, with the numbers of Rules A
    and C, and what is left of the fates. -/
theorem connect_linked {card : Card} {fates : List Fate} {fsdi : Fsdi} {cid : Cid} {s : Reader}
    {ats : Ats} {t : Tally Link Unit} (hcall : card.session.call = some .waitForRats)
    (h : (Pcd.connect fsdi cid).run (⟨⟨card, fates⟩, []⟩ : Tally Link Unit) = (.ok (s, ats), t)) :
    s.handler = ProtocolHandler.new .pcd (some cid) ∧ ∃ cardCid, Linked card.respond s
      ⟨.fresh cardCid card.session.picc.handler.limits card.handed, fates.tail⟩ := by
  obtain ⟨frame, log, hframe, hats, rfl⟩ := connect_started hcall h
  have hfsd := fsdi.fsd_bounds
  have hfsc : ats.format.fsci.fsc = card.session.picc.fsc := Card.fsc_of_atsFrame hframe hats
  refine ⟨rfl, (Picc.beginSession ⟨fsdi, cid⟩ card.session.picc).handler.cid, ?_⟩
  exact ⟨⟨rfl, rfl, by simp [Peer.fresh], rfl⟩, rfl, rfl, rfl, hfsc.symm, rfl, hfsd.1, hfsd.2,
    ⟨rfl, trivial, by simp [Peer.fresh]⟩, rfl⟩

end Reader

end Iso14443
