/-
  What reader and card agree on when a session starts (`Pcd::connect`, `Picc::handle_active`).

  RATS carries the frame size of the reader and the CID it proposes, the ATS the frame size of the
  card and whether it supports a CID.  Both sides read what the other one wrote, with one
  exception: a card without CID support drops the CID, and the reader keeps it.

  * `connect_read`  — the ATS that `connect` returns is the configured one, and the frame sizes on
                      both sides are those of the other.
  * `Agreed`        — the parameters of the session, on both sides.
  * `agreed_iff`    — they are the same if and only if TC(1) announces CID support.

  A `connect` that succeeds has reached the card (`Iso14443.LinkStart`), so both sides are known
  after it, and the question is one of comparing fields.
-/
import Iso14443.LinkStart

namespace Iso14443

namespace Reader

variable [Build] {card : Card} {fates : List Fate} {fsdi : Fsdi} {cid : Cid} {s : Reader} {ats : Ats}
  {t : Tally Link Unit} {fsci : Fsci} {ta tc : UInt8} {tb : Tb} {historicalBytes : FrameVec}

/-- An ATS made by `Ats::new`, with historical bytes. -/
def configuredAts (fsci : Fsci) (ta : UInt8) (tb : Tb) (tc : UInt8) (historicalBytes : FrameVec) :
    Ats := { Ats.new fsci ta tb tc with historicalBytes }

/-- The ATS, field by field, less its length byte: the reader has the one that was sent, the card
    the one it was configured with. -/
structure SameAts (ats ats' : Ats) : Prop where
  format : ats.format = ats'.format
  ta : ats.ta = ats'.ta
  tb : ats.tb = ats'.tb
  tc : ats.tc = ats'.tc
  historicalBytes : ats.historicalBytes = ats'.historicalBytes

/-- What each side read of the other: the frame sizes and the ATS; and the numbers of Rules A and C.
    This much is true after every `connect` that succeeds. -/
structure ReadRight (configured : Ats) (s : Reader) (ats : Ats) : Prop where
  fsc : s.fsc = s.card.session.picc.fsc
  fsd : s.card.session.picc.fsd = s.fsd
  numbers : s.handler.blockNumber = 0 ∧ s.card.session.picc.handler.blockNumber = 1
  ats : SameAts ats configured

/-- The two sides of a session hold the same parameters.  The CID is the one that may differ: the
    card takes it where its ATS announces the support, the reader in any case. -/
structure Agreed (configured : Ats) (s : Reader) (ats : Ats) : Prop
    extends ReadRight configured s ats where
  cid : s.handler.cid = s.card.session.picc.handler.cid
  /-- The reader puts a CID in its blocks exactly where TC(1) announces it. -/
  announced : s.handler.cid.isSome = configured.cidSupported

omit [Build] in
/-- The CID of a session on the card's side. -/
theorem cid_beginSession (rats : RatsParam) {picc : Picc (Logged Antenna)} {own : Ats}
    (h : picc.config.ats = some own) : (Picc.beginSession rats picc).handler.cid =
      if own.cidSupported then some rats.cid else none := by
  simp only [Picc.beginSession, h, Cid.new_value]
  rfl

/-- **The reader reads the ATS the card was configured with.** -/
theorem sameAts_of_atsFrame {picc : Picc (Logged Antenna)} {frame : Frame} {own : Ats}
    (hown : picc.config.ats = some own) (hcan : own.Canonical) (hlen : own.bytes.length ≤ 254)
    (h : picc.atsFrame = .ok frame)
    (hr : (if picc.hwCrc then Ats.fromCrcVerified frame.data else Ats.tryFrom frame.data) = .ok ats) :
    SameAts ats own := by
  have hread : Ats.fromCrcVerified own.bytes = .ok ats := by
    obtain ⟨own', hown', h⟩ := Res.bind_eq_ok.mp h
    obtain ⟨bytes, hbytes, h⟩ := Res.bind_eq_ok.mp h
    rw [hown] at hown'
    cases hown'
    obtain rfl := Ats.toBytes_eq_ok hbytes
    rw [frameOf_of_fits _ (by omega)] at h
    cases h
    cases hcrc : picc.hwCrc with
    | true => rwa [hcrc] at hr
    | false =>
      rw [hcrc, if_neg Bool.false_ne_true, Frame.data_standard, Ats.tryFrom] at hr
      rwa [closed, if_neg Bool.false_ne_true, splitCrcA_withCrc] at hr
  rw [Ats.fromCrcVerified_bytes hcan (by omega)] at hread
  cases hread
  exact ⟨rfl, rfl, rfl, rfl, rfl⟩

/-- **Each side reads what the other wrote.** -/
theorem connect_read (hcall : card.session.call = some .waitForRats)
    (hconfig : card.session.picc.config.ats = some (configuredAts fsci ta tb tc historicalBytes))
    (hta : ta &&& taAll = ta) (htc : tc &&& (Tc.nadSupp ||| Tc.cidSupp) = tc)
    (hlen : (configuredAts fsci ta tb tc historicalBytes).bytes.length ≤ 254)
    (h : (Pcd.connect fsdi cid).run (⟨⟨card, fates⟩, []⟩ : Tally Link Unit) = (.ok (s, ats), t)) :
    ReadRight (configuredAts fsci ta tb tc historicalBytes) s ats := by
  obtain ⟨frame, log, hframe, hats, rfl⟩ := connect_started hcall h
  have hown : (Picc.beginSession ⟨fsdi, cid⟩ card.session.picc).config.ats =
      some (configuredAts fsci ta tb tc historicalBytes) := hconfig
  have hcan := Ats.canonical_new fsci tb hta htc historicalBytes
  exact ⟨Card.fsc_of_atsFrame hframe hats, rfl, ⟨rfl, rfl⟩,
    sameAts_of_atsFrame hown hcan hlen hframe hats⟩

/-- **Reader and card agree on the session if and only if the card supports a CID.** -/
theorem agreed_iff (hcall : card.session.call = some .waitForRats)
    (hconfig : card.session.picc.config.ats = some (configuredAts fsci ta tb tc historicalBytes))
    (hta : ta &&& taAll = ta) (htc : tc &&& (Tc.nadSupp ||| Tc.cidSupp) = tc)
    (hlen : (configuredAts fsci ta tb tc historicalBytes).bytes.length ≤ 254)
    (h : (Pcd.connect fsdi cid).run (⟨⟨card, fates⟩, []⟩ : Tally Link Unit) = (.ok (s, ats), t)) :
    Agreed (configuredAts fsci ta tb tc historicalBytes) s ats ↔
      (configuredAts fsci ta tb tc historicalBytes).cidSupported = true := by
  have hread := connect_read hcall hconfig hta htc hlen h
  obtain ⟨frame, log, -, -, rfl⟩ := connect_started hcall h
  have hcid := cid_beginSession ⟨fsdi, cid⟩ hconfig
  constructor
  · intro hagreed
    exact hagreed.announced.symm
  · intro hsupp
    rw [if_pos hsupp] at hcid
    exact { hread with cid := hcid.symm, announced := hsupp.symm }

/-! ## A card with a CID, and one without

  The same reader and the same card, but for TC(1). -/

/-- A card in `wait_for_rats`, with this TC(1) and one historical byte. -/
def activeCard (tc : UInt8) : Card where
  session :=
    { picc :=
        { transceiver := ⟨⟨true⟩, []⟩, hwCrc := true,
          config := { uid := sampleUid,
                      ats := some (configuredAts .fsc256 0x80 {} tc [0x2A]) },
          handler := ProtocolHandler.new .picc none, state := .active, fsd := 256, lastSent := none }
      call := some .waitForRats }
  respond := fun _ => []

/-- The reader that proposes CID 5 to it. -/
def connected (tc : UInt8) : Reader where
  transceiver := ⟨⟨(activeCard tc).started ⟨.fsd64, 5⟩ (.standard [6, 0x78, 0x80, 0x40, tc, 0x2A]), []⟩,
    [(.standard [0xe0, 0x55], .ok [6, 0x78, 0x80, 0x40, tc, 0x2A])]⟩
  hwCrc := true
  fsc := 256
  fsd := 64
  handler := ProtocolHandler.new .pcd (some 5)

omit [Build] in
/-- A card with CID support: both sides use CID 5. -/
theorem agreed_iff_sample : let : Build := Build.heap
    Agreed (configuredAts .fsc256 0x80 {} Tc.cidSupp [0x2A]) (connected Tc.cidSupp)
      { configuredAts .fsc256 0x80 {} Tc.cidSupp [0x2A] with length := 6 } := by
  intro _
  have hconnect : (Pcd.connect .fsd64 5).run (⟨⟨activeCard Tc.cidSupp, []⟩, []⟩ : Tally Link Unit) =
      (.ok (connected Tc.cidSupp, { configuredAts .fsc256 0x80 {} Tc.cidSupp [0x2A] with length := 6 }),
        (connected Tc.cidSupp).transceiver) := rfl
  refine (agreed_iff ?_ ?_ ?_ ?_ ?_ hconnect).mpr ?_
  · rfl
  · rfl
  all_goals decide

omit [Build] in
/-- **A card without CID support and its reader**: `connect` succeeds, the card has no CID, and the
    reader puts CID 5 in every block. -/
theorem not_agreed : let : Build := Build.heap
    (Pcd.connect .fsd64 5).run (⟨⟨activeCard 0, []⟩, []⟩ : Tally Link Unit) =
      (.ok (connected 0, { configuredAts .fsc256 0x80 {} 0 [0x2A] with length := 6 }),
        (connected 0).transceiver) ∧
    (connected 0).handler.cid = some 5 ∧ (connected 0).card.session.picc.handler.cid = none ∧
    ¬ Agreed (configuredAts .fsc256 0x80 {} 0 [0x2A]) (connected 0)
      { configuredAts .fsc256 0x80 {} 0 [0x2A] with length := 6 } := by
  intro _
  refine ⟨rfl, rfl, rfl, ?_⟩
  intro h
  have hcid := h.cid
  exact absurd hcid (by decide)

end Reader

end Iso14443
