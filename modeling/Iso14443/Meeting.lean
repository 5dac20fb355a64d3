/-
  What a reader and a card have to do with each other, without a frame.

  A `Meeting` is what is left of the two sides once bytes, frames, blocks, CRC and handlers are
  taken away: who waits for what, the parameters of the session, and the APDUs the card was handed.
  It says what the crate is for: the UID and the ATS reach the reader, every command reaches the
  card once, and its response the reader.

  * `Host`          — what the card brings along: UID, ATS, CRC mode, limits and its application.
  * `Meeting.step`  — what an operation of the reader gives, and what becomes of the meeting.
  * `Meeting.Fits`  — the operation has its place there, and the limits allow it.  It can be
                      computed (`Decidable`), operation by operation, without running any of the
                      code below.

  Nothing here is translated from the source.  The UID in particular is taken from the
  configuration field by field, its size and the time slots spelled out, and not from what the card
  makes of it.

  `Iso14443.Encounter` shows that a reader and the card thread do just that.
-/
import Iso14443.CrcModes
import Iso14443.ActivationLink
import Iso14443.Dialogue

namespace Iso14443

/-- What a card brings along, session after session: its configuration, its limits and its
    application.  The last two fields are invariants, so an ATS that cannot be sent is no host. -/
structure Host where
  uid : Uid
  bitFrameAc : BitFrameAntiCollision := .slot1
  ats : Ats
  hwCrc : Bool
  limits : Limits
  /-- What the application answers to the commands so far. -/
  respond : List ChainVec → List UInt8
  /-- The ATS holds defined flags only, and with its CRC it fits a frame. -/
  canonical : ats.Canonical
  length_le : ats.bytes.length ≤ 254

/-- Where the two sides stand. -/
inductive Meeting.Phase where
  /-- The card waits for its activation. -/
  | away
  /-- It waits for a RATS. -/
  | selected
  /-- They are in a session, and the card has counted `frames` since its last answer. -/
  | joined (g : Setting) (frames : Nat)
  /-- The session is over, and the reader has not dropped it. -/
  | parted

/-- The two sides: where they stand, the sessions the card has to serve from here, the one at hand
    included, and the APDUs its application was handed. -/
structure Meeting where
  phase : Meeting.Phase
  left : Nat
  handed : List ChainVec := []

namespace Host

/-- Its configuration. -/
def config (host : Host) : PiccConfig :=
  { uid := host.uid, bitFrameAc := host.bitFrameAc, ats := some host.ats }

/-- What a reader learns of it when it is activated: the size of its UID and its time slots, that the
    UID is complete, and that it speaks ISO 14443-4. -/
def activation (host : Host) : Activation where
  atqa :=
    { uidSize :=
        match host.uid with
        | .single _ => .single
        | .double _ => .double
        | .triple _ => .triple
      bitFrameAc := host.bitFrameAc
      proprietaryCoding := 0 }
  sak := { uidComplete := true, iso144434Compliant := true }
  uid := host.uid.asSlice

/-- The ATS as it is read, with its length. -/
def atsRead (host : Host) : Ats := { host.ats with length := UInt8.ofNat host.ats.bytes.length }

/-- The parameters of a session. -/
def setting [Build] (host : Host) (fsdi : Fsdi) (cid : Cid) : Setting where
  hwCrc := host.hwCrc
  fsc := host.ats.format.fsci.fsc
  fsd := fsdi.fsd
  cid := some cid
  limits := Limits.default
  cardCid := if host.ats.cidSupported then some cid else none
  cardLimits := host.limits

end Host

namespace Meeting

variable [Build]

/-- **What an operation gives, and what becomes of the meeting.** -/
def step (host : Host) (m : Meeting) (op : ReaderOp) : ReaderValue × Meeting :=
  match m.phase, op with
  | .away, .activate => (.activated host.activation, { m with phase := .selected })
  | .away, .wakeup => (.activated host.activation, { m with phase := .selected })
  | .selected, .connect fsdi cid =>
    (.connected host.atsRead, { m with phase := .joined (host.setting fsdi cid) 0 })
  | .joined g frames, .setLimits limits =>
    (.done, { m with phase := .joined { g with limits } frames })
  | .joined g frames, .pps _ _ => (.done, { m with phase := .joined g (frames + 1) })
  | .joined g _, .exchange _ apdu =>
    let handed := m.handed ++ [apdu]
    (.response (host.respond handed), { m with phase := .joined g 0, handed })
  | .joined _ _, .deselect => (.done, { m with phase := .parted, left := m.left - 1 })
  | .parted, .release => (.done, { m with phase := .away })
  | _, _ => (.done, m)

/-- Affording is a list of comparisons. -/
instance (g : Setting) (m f : Nat) (apdu resp : List UInt8) : Decidable (g.Affords m f apdu resp) :=
  decidable_of_iff (apdu.length ≤ g.cardLimits.maxChainLen ∧ Fits chainCap apdu.length ∧
      resp.length ≤ g.limits.maxChainLen ∧ Fits chainCap resp.length ∧
      g.commandBlocks apdu + g.responseBlocks resp - 1 ≤ g.limits.maxFrames ∧
      f + g.commandBlocks apdu + m * (g.responseBlocks resp - 1) ≤ g.cardLimits.maxFrames ∧
      m ≤ g.cardLimits.maxRetransmissions + 1)
    ⟨fun ⟨h1, h2, h3, h4, h5, h6, h7⟩ => ⟨h1, h2, h3, h4, h5, h6, h7⟩,
      fun h => ⟨h.command, h.commandFits, h.response, h.responseFits, h.frames, h.cardFrames, h.again⟩⟩

/-- **The operation has its place in the meeting**, and the limits allow it.  `fuel` bounds the loops
    of `exchange`. -/
def Fits (host : Host) (m : Meeting) (op : ReaderOp) : Prop :=
  match m.phase, op with
  | .away, .activate => 0 < m.left
  | .away, .wakeup => 0 < m.left
  | .selected, .connect _ _ => True
  | .joined _ _, .setLimits _ => True
  | .joined g frames, .pps _ _ => frames + 1 ≤ g.cardLimits.maxFrames
  | .joined g frames, .exchange fuel apdu =>
    let resp := host.respond (m.handed ++ [apdu])
    apdu ≠ [] ∧ g.Affords 1 frames apdu resp ∧ g.commandBlocks apdu ≤ fuel ∧
      g.responseBlocks resp ≤ fuel
  | .joined g frames, .deselect => frames + 1 ≤ g.cardLimits.maxFrames
  | .parted, .release => True
  | _, _ => False

/-- Whether an operation fits can be computed. -/
instance (host : Host) (m : Meeting) (op : ReaderOp) : Decidable (m.Fits host op) := by
  unfold Meeting.Fits
  split <;> infer_instance

end Meeting

end Iso14443
