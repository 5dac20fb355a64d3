/-
  A reader and a card, joined.

  * `Card`    — a card and its application, which answers every APDU it is handed and goes back to
                `receive_command` whatever happens.
  * `Link`    — the card behind a link that may lose a frame or its answer: a transceiver for a
                reader, so that `Pcd::exchange` runs against the card of this library.  What is
                lost is a list of `Fate`s, so "any losses" is a quantifier over lists.
  * `Peer`    — the same card and application one block at a time, without frames, CRC and bytes.
  * `deliver_shows` — a card that gets the frame of a block does what its `Peer` does.

  The `Peer` is the abstraction of this part of the development: the card as a machine that takes a
  block and answers a block or nothing.  What is proved about the two sides together is proved
  about it, and `deliver_shows` is its refinement by the card.  Two invariants make it go through:
  every block a peer sends can be sent (`Sound`, `Sendable`: well formed, and within the frames of
  the reader), and the card stands where the peer does (`Shows`).  The latter leaves one thing
  open, since a card may remember a block of an earlier session that its peer knows nothing of.
-/
import Iso14443.PcdStep
import Iso14443.PiccStep

namespace Iso14443

open ProtocolHandler

/-! ## The card and its application

  The application is a function from the commands so far to a response.  An error of a call does
  not stop it: it calls `receive_command` again. -/

/-- The antenna of the card: it takes every frame, and closes it in hardware or does not. -/
structure Antenna where
  hwCrc : Bool

/-- The antenna takes every frame. -/
instance : PiccTransceiver Antenna Unit where
  send t _ := (.ok (), t)
  tryEnableHwCrc t := (if t.hwCrc then .ok () else .error (), t)

/-- A card and its application: after every call that returns, the application makes the next one,
    with what it answers to the commands so far. -/
structure Card where
  session : PiccSession (Logged Antenna)
  /-- What the application answers: the commands so far, the last one included, give a response. -/
  respond : List ChainVec → List UInt8
  /-- The APDUs `receive_command` has returned so far. -/
  handed : List ChainVec := []

namespace Card

variable [Build]

/-- The application calls `receive_command`. -/
def listen (self : Card) : Card :=
  { self with session := (self.session.step (.call .receiveCommand)).2 }

/-- The application calls `send_response`, and then `receive_command`, which it reaches at once if
    the response is one block. -/
def answer (self : Card) (data : List UInt8) : Card :=
  match self.session.step (.call (.sendResponse data)) with
  | (none, session) => { self with session }
  | (some _, session) => { self with session }.listen

/-- A frame arrives at the call that waits; if the call returns, the application goes on. -/
def deliver (self : Card) (raw : FrameVec) : Card :=
  match self.session.step (.frame (.ok raw)) with
  | (none, session) => { self with session }
  | (some (.ok (.apdu data)), session) =>
    let handed := self.handed ++ [data]
    { self with session, handed }.answer (self.respond handed)
  | (some (.ok .unit), session) => { self with session }.listen
  | (some (.err _), session) => { self with session }.listen
  | (some .panic, session) => { self with session }
  | (some .outOfFuel, session) => { self with session }

/-- The frames the card has sent so far. -/
def sent (self : Card) : List Frame := self.session.picc.sent

end Card

/-! ## The link

  A call of the reader delivers its frame, and the answer is the first frame that the card sends on
  it. -/

/-- What becomes of one call of the reader's transceiver.  The reader cannot tell the last two
    apart, as it gets no answer either way; the card can. -/
inductive Fate where
  | delivered
  /-- The frame of the reader is lost. -/
  | frameLost
  /-- The frame arrives, and the answer to it is lost. -/
  | answerLost
deriving DecidableEq, Repr

/-- The card, and what becomes of the calls to come; the link is reliable once the list is used
    up. -/
structure Link where
  card : Card
  fates : List Fate := []

namespace Link

variable [Build]

/-- The answer to a frame: the first frame the card sends on it. -/
def answerOf (before after : Card) : Except Unit FrameVec :=
  match after.sent.drop before.sent.length with
  | [] => .error ()
  | frame :: _ => .ok frame.data

/-- A frame is lost, or delivered and its answer lost, or delivered and answered, as the fates
    say. -/
instance : PcdTransceiver Link Unit where
  transceive self frame :=
    match self.fates with
    | .frameLost :: fates => (.error (), { self with fates })
    | .answerLost :: fates => (.error (), { card := self.card.deliver frame.data, fates })
    | .delivered :: fates =>
      let card := self.card.deliver frame.data
      (answerOf self.card card, { card, fates })
    | [] =>
      let card := self.card.deliver frame.data
      (answerOf self.card card, { card })
  tryEnableHwCrc self := (if self.card.session.picc.hwCrc then .ok () else .error (), self)

end Link

/-! ## The card, one block at a time

  The card without its frames: what it remembers, its handler, and the call that waits.  `step` is
  written from the two loops of the card, and compared with them below. -/

/-- A card between two blocks: what is left of it once the radio, the configuration and the CRC are
    taken away.  It is the abstract card that a `Card` refines. -/
structure Peer where
  /-- The call that waits. -/
  call : PiccCall
  handler : ProtocolHandler
  /-- The block sent last. -/
  last : Option Block
  handed : List ChainVec

namespace Peer

/-- `receive_command` is called. -/
def listen (p : Peer) : Peer :=
  { p with call := .receiveCommand, handler := p.handler.beginExchange }

/-- The chunk of a response at `offset`. -/
def chunk (h : ProtocolHandler) (data : List UInt8) (maxInf offset : Nat) : Block :=
  h.iblockOf (Pcd.chunkAt data maxInf offset) (offset + maxInf < data.length)

/-- `send_response` sends the chunk at `offset`, and waits if there are more. -/
def sendChunk (p : Peer) (data : List UInt8) (maxInf offset : Nat) : Option Block × Peer :=
  let iblock := chunk p.handler data maxInf offset
  let p := { p with last := some iblock }
  (some iblock, if offset + maxInf < data.length then
    { p with call := .sendResponse data maxInf (offset + maxInf) iblock } else p.listen)

/-- The payload bytes that fit one I-Block of the card. -/
def maxInf (fsd : Nat) (h : ProtocolHandler) : Nat := fsd - (3 + if h.cid.isSome then 1 else 0)

/-- What the card does with a block: what it answers, and where it stands then. -/
def step [Build] (respond : List ChainVec → List UInt8) (fsd : Nat) (p : Peer) (b : Block) :
    Option Block × Peer :=
  let (r, handler) := receive p.handler b
  let p := { p with handler }
  match p.call, r with
  | .receiveCommand, .ok (.complete data) =>
    let p := { p with handed := p.handed ++ [data] }
    p.sendChunk (respond p.handed) (maxInf fsd handler) 0
  | .receiveCommand, .ok .chainingRetransmit =>
    match p.last with
    | some last => (some last, p)
    | none => (none, p.listen)
  | .sendResponse data maxInf stop _, .ok .chainingAck => p.sendChunk data maxInf stop
  | .sendResponse _ _ _ iblock, .ok .chainingRetransmit =>
    (some iblock, { p with last := some iblock })
  | _, .ok (.reply reply) =>
    let p := { p with last := some reply }
    (some reply, if Picc.isDeselectReply reply then p.listen else p)
  | _, _ => (none, p.listen)

/-- The card can send the block: it is well formed, and the reader takes frames of its size. -/
structure Sendable (fsd : Nat) (b : Block) : Prop where
  wellFormed : b.WellFormed
  length : b.bytes.length + 2 ≤ fsd

/-- A peer in a session: the application is in one of its two calls, and what it may have to send
    again can be sent. -/
structure Sound (fsd : Nat) (p : Peer) : Prop where
  role : p.handler.role = .picc
  call : match p.call with
    | .receiveCommand => True
    | .sendResponse data inf stop iblock =>
      0 < inf ∧ inf ≤ maxInf fsd p.handler ∧ stop < data.length ∧ Sendable fsd iblock
    | _ => False
  last : ∀ b ∈ p.last, Sendable fsd b

end Peer

/-! ## What a card does is what its peer does

  The relation between the two, and what it takes to send a chunk. -/

namespace ProtocolHandler

/-- The CID of a session never changes. -/
theorem receive_cid [Build] (h : ProtocolHandler) (b : Block) : (receive h b).2.cid = h.cid := by
  have hr := processReceived_received h b
  rw [receive]
  generalize (processReceived b).run h = r at hr ⊢
  cases hr <;> rfl

/-- The role neither. -/
theorem receive_role [Build] (h : ProtocolHandler) (b : Block) : (receive h b).2.role = h.role :=
  Event.role_eq (real_event h b)

end ProtocolHandler

namespace Card

variable [Build]

/-- The card stands where the peer does.  A card may remember a block of an earlier session that
    its peer knows nothing of. -/
structure Shows (c : Card) (p : Peer) : Prop where
  call : c.session.call = some p.call
  handler : c.session.picc.handler = p.handler
  last : ∀ b ∈ p.last, c.session.picc.lastSent = some b
  handed : c.handed = p.handed

/-- From `c` to `c'` the card sent the answer, if there is one, and the session is the same: no
    block changes the CRC mode, the frame size of the reader or the application. -/
structure Sends (c : Card) (answer : Option Block) (c' : Card) : Prop where
  sent : c'.sent = c.sent ++
    (answer.map fun b => Frame.standard (b.raw c.session.picc.hwCrc)).toList
  hwCrc : c'.session.picc.hwCrc = c.session.picc.hwCrc
  fsd : c'.session.picc.fsd = c.session.picc.fsd
  config : c'.session.picc.config = c.session.picc.config
  respond : c'.respond = c.respond

omit [Build] in
/-- A send leaves the frame size alone. -/
theorem Sends.fsc {c c' : Card} {answer : Option Block} (h : c.Sends answer c') :
    c'.session.picc.fsc = c.session.picc.fsc := by
  simp only [Picc.fsc, h.config]

end Card

namespace Picc

variable [Build] {s : Picc (Logged Antenna)}

/-- The card once it sent a block. -/
def saying (s : Picc (Logged Antenna)) (b : Block) : Picc (Logged Antenna) :=
  (s.remembering b).afterSend (.standard (b.raw s.hwCrc))

/-- A block that can be sent is sent. -/
theorem run_sendBlock_saying {b : Block} (h : b.bytes.length + 2 ≤ 256) :
    (sendBlock b).run s = (.ok (), s.saying b) := by
  rw [run_sendBlock (frameFor_of_fits s.hwCrc h)]
  rfl

/-- **One chunk of a response** goes out.  The call waits if there are more, with the end of the
    next one; it is over if this was the last one. -/
theorem run_sendChunk {data : List UInt8} {maxInf offset : Nat} (hoff : offset ≤ data.length)
    (hlen : (Peer.chunk s.handler data maxInf offset).bytes.length + 2 ≤ 256) :
    (sendChunk data maxInf offset).run s =
      (.ok (if offset + maxInf < data.length then
        .wait (.sendResponse data maxInf (offset + maxInf) (Peer.chunk s.handler data maxInf offset))
        else .ret .unit), s.saying (Peer.chunk s.handler data maxInf offset)) := by
  have hbytes := s.handler.length_iblockOf (Pcd.chunkAt data maxInf offset)
    (offset + maxInf < data.length)
  have hchunk : Fits frameCap (Pcd.chunkAt data maxInf offset).length := by
    rw [Peer.chunk] at hlen
    exact fits_frameCap (by omega)
  have hchain : decide (min (offset + maxInf) data.length < data.length) =
      decide (offset + maxInf < data.length) := by
    by_cases h : offset + maxInf < data.length
    · rw [decide_eq_true h, decide_eq_true (by omega)]
    · rw [decide_eq_false h, decide_eq_false (by omega)]
  have hslice : (data.take (min (offset + maxInf) data.length)).drop offset =
      Pcd.chunkAt data maxInf offset := Pcd.chunkAt_eq data maxInf offset
  rw [sendChunk, Act.run_get_bind, Act.run_bind, run_lift, Res.slice_of_le (by omega) (by omega),
    hslice]
  simp only [Res.mapErr_ok]
  rw [Act.run_bind, run_lift, hchain, ProtocolHandler.buildIblock_of_fits _ hchunk]
  simp only [Res.mapErr_ok]
  have hsend := run_sendBlock_saying (s := s) hlen
  rw [Peer.chunk] at hsend ⊢
  rw [Act.run_bind, hsend]
  by_cases h : offset + maxInf < data.length
  · simp only [h, decide_true, if_true]
    rw [Nat.min_eq_left (by omega)]
    rfl
  · simp only [h, decide_false, if_false]
    rfl

end Picc

namespace Card

variable [Build] {c : Card} {p : Peer}

/-! ### How one call ends, and what the application does then

  The three ways out of a round: wait again, return, fail. -/

section Deliver

variable {call : PiccCall} {raw : FrameVec} {picc : Picc (Logged Antenna)}

/-- A card that waits in a call takes the next frame there. -/
theorem step_frame (hcall : c.session.call = some call) (received : Except Unit FrameVec) :
    c.session.step (.frame received) =
      PiccSession.advance c.session.picc (call.resume received) := by
  obtain ⟨⟨picc, waiting⟩, respond, handed⟩ := c
  obtain rfl : waiting = some call := hcall
  rfl

/-- The call goes on waiting. -/
theorem deliver_wait (hcall : c.session.call = some call) {next : PiccCall}
    (hrun : (call.resume (.ok raw : Except Unit FrameVec)).run c.session.picc =
      (.ok (.wait next), picc)) : c.deliver raw = { c with session := ⟨picc, some next⟩ } := by
  have hstep : c.session.step (.frame (.ok raw : Except Unit FrameVec)) =
      (none, ⟨picc, some next⟩) := by
    rw [step_frame hcall, PiccSession.advance, hrun]
  rw [deliver, hstep]

/-- The call ends without an APDU, and the application listens again. -/
theorem deliver_end (hcall : c.session.call = some call) {r : Res (PiccError Unit) Next}
    (hr : r = .ok (.ret .unit) ∨ ∃ e, r = .err e)
    (hrun : (call.resume (.ok raw : Except Unit FrameVec)).run c.session.picc = (r, picc)) :
    c.deliver raw =
      { c with session := ⟨picc.withHandler picc.handler.beginExchange, some .receiveCommand⟩ } := by
  have hstep : ∃ out, (out = .ok .unit ∨ ∃ e, out = .err e) ∧
      c.session.step (.frame (.ok raw : Except Unit FrameVec)) = (some out, ⟨picc, none⟩) := by
    rw [step_frame hcall, PiccSession.advance, hrun]
    rcases hr with rfl | ⟨e, rfl⟩
    · exact ⟨_, Or.inl rfl, rfl⟩
    · exact ⟨_, Or.inr ⟨e, rfl⟩, rfl⟩
  obtain ⟨out, rfl | ⟨e, rfl⟩, hstep⟩ := hstep <;> rw [deliver, hstep] <;> rfl

/-- The call ends with an APDU, which the application answers. -/
theorem deliver_apdu (hcall : c.session.call = some call) {data : ChainVec}
    (hrun : (call.resume (.ok raw : Except Unit FrameVec)).run c.session.picc =
      (.ok (.ret (.apdu data)), picc)) : c.deliver raw =
      { c with session := ⟨picc, none⟩, handed := c.handed ++ [data] }.answer
        (c.respond (c.handed ++ [data])) := by
  have hstep : c.session.step (.frame (.ok raw : Except Unit FrameVec)) =
      (some (.ok (.apdu data)), ⟨picc, none⟩) := by
    rw [step_frame hcall, PiccSession.advance, hrun]
  rw [deliver, hstep]

end Deliver

end Card

/-! ## What a peer sends can be sent

  A block fits the reader's frames if its chunk was cut for them; a block that is sent again was
  sent before. -/

namespace Peer

section Sound

variable {fsd : Nat} {p : Peer}

/-- A chunk that fits the frame of the reader. -/
theorem sendable_chunk (h : ProtocolHandler) (data : List UInt8) (inf offset : Nat)
    (hfsd : 16 ≤ fsd) (hinf : inf ≤ maxInf fsd h) : Sendable fsd (chunk h data inf offset) := by
  have hlen := h.length_iblockOf (Pcd.chunkAt data inf offset) (offset + inf < data.length)
  have hchunk : (Pcd.chunkAt data inf offset).length ≤ inf := by
    rw [Pcd.chunkAt, List.length_take]
    omega
  refine ⟨h.wellFormed_iblockOf _ _, ?_⟩
  rw [chunk, hlen]
  simp only [maxInf] at hinf
  simp only [prologueLen]
  split at hinf <;> simp_all <;> omega

/-- Every frame size of the tables leaves room for a payload byte. -/
theorem maxInf_pos (h : ProtocolHandler) (hfsd : 16 ≤ fsd) : 0 < maxInf fsd h := by
  simp only [maxInf]
  split <;> omega

/-- What a handler replies is short. -/
theorem sendable_reply [Build] {h k : ProtocolHandler} {b reply : Block} (hfsd : 16 ≤ fsd)
    (hr : receive h b = (.ok (.reply reply), k)) : Sendable fsd reply := by
  have hrec := processReceived_received h b
  rw [show (processReceived b).run h = _ from hr] at hrec
  have hrack : ∀ h : ProtocolHandler, Sendable fsd h.buildRack := by
    intro h
    have h1 := h.length_buildRack
    have h2 := h.prologueLen_le
    exact ⟨h.wellFormed_buildRack, by omega⟩
  cases hrec with
  | repeated => exact hrack h
  | chained => exact hrack h.advanced
  | presence => exact hrack h
  | wtx _ _ _ hv =>
    obtain ⟨inf, hinf, -⟩ := (validWtx_iff b.payload).mp hv
    have h1 := h.length_buildWtxResponse b
    have h2 := h.prologueLen_le
    rw [hinf, List.length_singleton] at h1
    exact ⟨h.wellFormed_buildWtxResponse b, by omega⟩
  | deselect =>
    refine ⟨h.wellFormed_buildSblock (Or.inl rfl), ?_⟩
    have h1 := h.length_buildSblock .deselect
    have h2 := h.prologueLen_le
    omega

/-- Going back to listening keeps a peer sound. -/
theorem Sound.listen (h : p.Sound fsd) : p.listen.Sound fsd := ⟨h.role, trivial, h.last⟩

/-- Sending a chunk leaves a peer as sound as it was. -/
theorem Sound.sendChunk {data : List UInt8} {inf offset : Nat} (hrole : p.handler.role = .picc)
    (hfsd : 16 ≤ fsd) (hpos : 0 < inf) (hinf : inf ≤ maxInf fsd p.handler) :
    (p.sendChunk data inf offset).2.Sound fsd ∧
      ∀ a ∈ (p.sendChunk data inf offset).1, Sendable fsd a := by
  have hchunk := sendable_chunk p.handler data inf offset hfsd hinf
  have hlast : ∀ b ∈ some (chunk p.handler data inf offset), Sendable fsd b := by
    intro b hb
    cases hb
    exact hchunk
  refine ⟨?_, hlast⟩
  simp only [Peer.sendChunk]
  split
  · rename_i hmore
    exact ⟨hrole, ⟨hpos, hinf, hmore, hchunk⟩, hlast⟩
  · exact ⟨hrole, trivial, hlast⟩

/-- **Whatever block comes, a peer stays sound**, and answers with a block that can be sent.  In
    both calls the handler decides, so the cases are the outcomes of `receive`. -/
theorem Sound.step [Build] (h : p.Sound fsd) (hfsd : 16 ≤ fsd)
    (respond : List ChainVec → List UInt8) (b : Block) : (p.step respond fsd b).2.Sound fsd ∧
      ∀ a ∈ (p.step respond fsd b).1, Sendable fsd a := by
  obtain ⟨call, handler, last, handed⟩ := p
  have hcid := receive_cid handler b
  have hrole := (receive_role handler b).trans h.role
  have hcall := h.call
  have hlast := h.last
  cases hr : receive handler b with
  | mk r k =>
    rw [hr] at hcid hrole
    have hmax : maxInf fsd k = maxInf fsd handler := by
      dsimp only at hcid
      rw [maxInf, hcid, maxInf]
    have hlisten : (Peer.listen ⟨call, k, last, handed⟩).Sound fsd := ⟨hrole, trivial, hlast⟩
    simp only [Peer.step, hr]
    cases call with
    | waitForActivation => exact hcall.elim
    | waitForRats => exact hcall.elim
    | receiveCommand =>
      -- `receive_command`: what it answers was built by the handler, or was said before
      cases r with
      | ok a =>
        cases a with
        | complete data =>
          exact Sound.sendChunk (p := ⟨.receiveCommand, k, last, handed ++ [data]⟩) hrole hfsd
            (maxInf_pos k hfsd) (Nat.le_refl _)
        | reply reply =>
          have hsend := sendable_reply hfsd hr
          have hlast' : ∀ b ∈ some reply, Sendable fsd b := by intro b hb; cases hb; exact hsend
          refine ⟨?_, hlast'⟩
          dsimp only
          split
          · exact ⟨hrole, trivial, hlast'⟩
          · exact ⟨hrole, trivial, hlast'⟩
        | chainingAck => exact ⟨hlisten, by simp⟩
        | chainingRetransmit =>
          cases last with
          | none => exact ⟨hlisten, by simp⟩
          | some l => exact ⟨⟨hrole, trivial, hlast⟩, hlast⟩
      | err e => exact ⟨hlisten, by simp⟩
      | panic => exact ⟨hlisten, by simp⟩
      | outOfFuel => exact ⟨hlisten, by simp⟩
    | sendResponse data inf stop iblock =>
      -- `send_response`: besides, the chunks were cut for the frames of the reader
      obtain ⟨hpos, hinf, hstop, hiblock⟩ := hcall
      have hinf' : inf ≤ maxInf fsd k := by rw [hmax]; exact hinf
      cases r with
      | ok a =>
        cases a with
        | complete data => exact ⟨hlisten, by simp⟩
        | reply reply =>
          have hsend := sendable_reply hfsd hr
          have hlast' : ∀ b ∈ some reply, Sendable fsd b := by intro b hb; cases hb; exact hsend
          refine ⟨?_, hlast'⟩
          dsimp only
          split
          · exact ⟨hrole, trivial, hlast'⟩
          · exact ⟨hrole, ⟨hpos, hinf', hstop, hiblock⟩, hlast'⟩
        | chainingAck =>
          exact Sound.sendChunk (p := ⟨.sendResponse data inf stop iblock, k, last, handed⟩) hrole
            hfsd hpos hinf'
        | chainingRetransmit =>
          have hlast' : ∀ b ∈ some iblock, Sendable fsd b := by intro b hb; cases hb; exact hiblock
          exact ⟨⟨hrole, ⟨hpos, hinf', hstop, hiblock⟩, hlast'⟩, hlast'⟩
      | err e => exact ⟨hlisten, by simp⟩
      | panic => exact ⟨hlisten, by simp⟩
      | outOfFuel => exact ⟨hlisten, by simp⟩

end Sound

end Peer

/-! ## A delivered block

  Each call of the card with the frame of a block, against the step of its peer. -/

namespace Card

variable [Build] {c : Card} {p : Peer} {fsd : Nat}

omit [Build] in
/-- The card after a call that waits on, having sent a block or not. -/
theorem shows_wait (picc : Picc (Logged Antenna)) (answer : Option Block) {call : PiccCall}
    {handed : List ChainVec} (hcrc : picc.hwCrc = c.session.picc.hwCrc)
    (hfsd : picc.fsd = c.session.picc.fsd)
    (hconfig : picc.config = c.session.picc.config)
    (hsent : picc.sent = c.sent ++
      (answer.map fun b => Frame.standard (b.raw c.session.picc.hwCrc)).toList) :
    Shows { c with session := ⟨picc, some call⟩, handed }
        ⟨call, picc.handler, picc.lastSent, handed⟩ ∧
      Sends c answer { c with session := ⟨picc, some call⟩, handed } :=
  ⟨⟨rfl, rfl, fun _ hb => hb, rfl⟩, ⟨hsent, hcrc, hfsd, hconfig, rfl⟩⟩

/-- **`send_response` from its start**, called by the application: the card shows the peer that has
    sent its first chunk, and that chunk is what it sent. -/
theorem answer_shows (picc : Picc (Logged Antenna)) {handed : List ChainVec} {data : List UInt8}
    (hcrc : picc.hwCrc = c.session.picc.hwCrc) (hfsd : picc.fsd = fsd)
    (hc : c.session.picc.fsd = fsd) (hconfig : picc.config = c.session.picc.config)
    (hsent : picc.sent = c.sent) (h16 : 16 ≤ fsd) (h256 : fsd ≤ 256) :
    let c' := ({ c with session := ⟨picc, none⟩, handed } : Card).answer data
    let p : Peer := ⟨.receiveCommand, picc.handler, picc.lastSent, handed⟩
    c'.Shows (p.sendChunk data (Peer.maxInf fsd picc.handler) 0).2 ∧
      c.Sends (p.sendChunk data (Peer.maxInf fsd picc.handler) 0).1 c' := by
  intro c' p
  have hchunk := Peer.sendable_chunk picc.handler data (Peer.maxInf fsd picc.handler) 0 h16
    (Nat.le_refl _)
  have hlen : (Peer.chunk picc.handler data (Peer.maxInf fsd picc.handler) 0).bytes.length + 2 ≤
      256 := Nat.le_trans hchunk.length h256
  have hpos := Peer.maxInf_pos picc.handler h16
  -- the overhead that the source computes from an empty I-Block
  have hinf : fsd - (1 + (if (picc.handler.iblockOf [] false).cid.isSome then 1 else 0) + 2) =
      Peer.maxInf fsd picc.handler := by
    have hcid : (picc.handler.iblockOf [] false).cid.isSome = picc.handler.cid.isSome := by
      simp only [iblockOf, addCid, Block.withPayload]
      cases picc.handler.cid <;> rfl
    rw [hcid, Peer.maxInf]
    congr 1
    omega
  have hbegin : (PiccApi.begin (.sendResponse data) : Act _ (PiccError Unit) Next).run picc =
      (.ok (if 0 + Peer.maxInf fsd picc.handler < data.length then
        .wait (.sendResponse data (Peer.maxInf fsd picc.handler) (0 + Peer.maxInf fsd picc.handler)
          (Peer.chunk picc.handler data (Peer.maxInf fsd picc.handler) 0))
        else .ret .unit),
        picc.saying (Peer.chunk picc.handler data (Peer.maxInf fsd picc.handler) 0)) := by
    rw [PiccApi.begin, Act.run_get_bind, Act.run_bind, Picc.run_lift,
      buildIblock_of_fits _ (fits_frameCap (by simp))]
    simp only [Res.mapErr_ok, hfsd, hinf]
    rw [if_neg (by omega)]
    exact Picc.run_sendChunk (Nat.zero_le _) hlen
  have hstep : (⟨picc, none⟩ : PiccSession (Logged Antenna)).step
      (.call (.sendResponse data) : PiccInput Unit) =
      PiccSession.advance picc (PiccApi.begin (.sendResponse data)) := rfl
  have hsaid : (picc.saying (Peer.chunk picc.handler data (Peer.maxInf fsd picc.handler) 0)).sent =
      c.sent ++ [.standard ((Peer.chunk picc.handler data (Peer.maxInf fsd picc.handler) 0).raw
        c.session.picc.hwCrc)] := by
    rw [← hcrc, ← hsent]
    rfl
  simp only [c', p, Peer.sendChunk]
  rw [Card.answer, hstep, PiccSession.advance, hbegin]
  -- a chunk that is not the last one leaves the call waiting
  by_cases hmore : 0 + Peer.maxInf fsd picc.handler < data.length
  · simp only [hmore, if_true]
    exact shows_wait (picc.saying _) (some _) hcrc (hfsd.trans hc.symm) hconfig hsaid
  · simp only [hmore, if_false]
    exact ⟨⟨rfl, rfl, fun _ hb => hb, rfl⟩, ⟨hsaid, hcrc, hfsd.trans hc.symm, hconfig, rfl⟩⟩

/-- A reply goes out, and the call waits on, or ends on S(DESELECT). -/
theorem deliver_reply (hs : c.Shows p) {raw : FrameVec} {k : ProtocolHandler} {reply : Block}
    (h256 : reply.bytes.length + 2 ≤ 256)
    (hrun : (p.call.resume (.ok raw : Except Unit FrameVec)).run c.session.picc = (do
      Picc.sendBlock reply
      if Picc.isDeselectReply reply then do
        Picc.setState .halted
        Act.throw .deselected
      else pure (.wait p.call) : Act _ (PiccError Unit) Next).run (c.session.picc.withHandler k)) :
    let p' : Peer := { p with handler := k, last := some reply }
    (c.deliver raw).Shows (if Picc.isDeselectReply reply then p'.listen else p') ∧
      c.Sends (some reply) (c.deliver raw) := by
  intro p'
  rw [Act.run_bind, Picc.run_sendBlock_saying h256] at hrun
  have hshow : { c with handed := p.handed } = c := by rw [← hs.handed]
  cases hd : Picc.isDeselectReply reply with
  | false =>
    simp only [hd, Bool.false_eq_true, if_false] at hrun ⊢
    rw [deliver_wait hs.call hrun, ← hshow]
    exact shows_wait ((c.session.picc.withHandler k).saying reply) (some reply) rfl rfl rfl rfl
  | true =>
    simp only [hd, if_true] at hrun ⊢
    rw [deliver_end hs.call (Or.inr ⟨_, rfl⟩) hrun]
    exact ⟨⟨rfl, rfl, fun _ hb => hb, hs.handed⟩, ⟨rfl, rfl, rfl, rfl, rfl⟩⟩

/-- A call that ends without an answer. -/
theorem deliver_failed (hs : c.Shows p) {raw : FrameVec} {k : ProtocolHandler} {e : PiccError Unit}
    (hrun : (p.call.resume (.ok raw : Except Unit FrameVec)).run c.session.picc =
      (.err e, c.session.picc.withHandler k)) :
    (c.deliver raw).Shows (Peer.listen { p with handler := k }) ∧ c.Sends none (c.deliver raw) := by
  rw [deliver_end hs.call (Or.inr ⟨_, rfl⟩) hrun]
  exact ⟨⟨rfl, rfl, hs.last, hs.handed⟩, ⟨by simp [sent]; rfl, rfl, rfl, rfl, rfl⟩⟩

/-- A block for `receive_command`: the card does with the frame what the peer does with the block.
    If the command is complete, the application answers, and the first chunk goes out in the same
    step. -/
theorem deliver_shows_command {handler : ProtocolHandler} {last : Option Block}
    {handed : List ChainVec} {p : Peer} (hp : p = ⟨.receiveCommand, handler, last, handed⟩)
    (hs : c.Shows p) (hsound : p.Sound fsd) (hfsd : c.session.picc.fsd = fsd)
    (h16 : 16 ≤ fsd) (h256 : fsd ≤ 256) {b : Block} (hb : b.WellFormed)
    (hlen : b.bytes.length + 2 ≤ c.session.picc.fsc) (hask : p.last = none → b.blockType = .iBlock) :
    (c.deliver (b.raw c.session.picc.hwCrc)).Shows (p.step c.respond fsd b).2 ∧
      c.Sends (p.step c.respond fsd b).1 (c.deliver (b.raw c.session.picc.hwCrc)) := by
  subst hp
  obtain rfl : c.handed = handed := hs.handed
  rcases receive_cases handler b with ⟨a, k, hr⟩ | ⟨e, k, hr⟩ <;> simp only [Peer.step, hr] <;>
    have hrun := Picc.run_receiveCommand_read hb hlen ((congrArg (receive · b) hs.handler).trans hr)
  · -- what the handler makes of the block decides the round
    cases a with
    | chainingAck => exact deliver_failed hs hrun
    | reply reply =>
      have hsend := Peer.sendable_reply h16 hr
      exact deliver_reply hs (Nat.le_trans hsend.length h256) hrun
    | complete data =>
      rw [deliver_apdu hs.call hrun]
      exact answer_shows (c.session.picc.withHandler k) rfl hfsd hfsd rfl rfl h16 h256
    | chainingRetransmit =>
      cases last with
      | none =>
        -- an I-Block is never taken for a request to repeat
        rcases receive_iblock handler (hask rfl) with ⟨e, k', h, -⟩ | ⟨-, h⟩ | ⟨-, -, h⟩ |
          ⟨-, -, h⟩ <;> rw [h] at hr <;> cases hr
      | some l =>
        have hsend := hsound.last l rfl
        have hagain : (Picc.receiveCommand (b.raw c.session.picc.hwCrc) :
            Act _ (PiccError Unit) Next).run c.session.picc =
            (.ok (.wait .receiveCommand), (c.session.picc.withHandler k).saying l) := by
          rw [hrun]
          dsimp only
          rw [Act.run_get_bind, Act.run_bind, Picc.run_lift, Picc.withHandler_lastSent,
            hs.last l rfl]
          simp only [Res.okOr_some, Res.mapErr_ok]
          rw [Act.run_bind, Picc.run_sendBlock_saying (Nat.le_trans hsend.length h256)]
          rfl
        rw [deliver_wait hs.call hagain]
        exact shows_wait ((c.session.picc.withHandler k).saying l) (some l) rfl rfl rfl rfl
  · -- an error ends the call, and the application calls again
    exact deliver_failed hs hrun

/-- A block for `send_response`: the next chunk, the same one again, a reply, or an error, which the
    application answers by going back to `receive_command`. -/
theorem deliver_shows_response {data : List UInt8} {inf stop : Nat} {iblock : Block}
    {handler : ProtocolHandler} {last : Option Block} {handed : List ChainVec} {p : Peer}
    (hp : p = ⟨.sendResponse data inf stop iblock, handler, last, handed⟩) (hs : c.Shows p)
    (hsound : p.Sound fsd) (h16 : 16 ≤ fsd) (h256 : fsd ≤ 256) {b : Block} (hb : b.WellFormed)
    (hlen : b.bytes.length + 2 ≤ c.session.picc.fsc) :
    (c.deliver (b.raw c.session.picc.hwCrc)).Shows (p.step c.respond fsd b).2 ∧
      c.Sends (p.step c.respond fsd b).1 (c.deliver (b.raw c.session.picc.hwCrc)) := by
  subst hp
  obtain rfl : c.handed = handed := hs.handed
  obtain ⟨hpos, hinf, hstop, hiblock⟩ := hsound.call
  rcases receive_cases handler b with ⟨a, k, hr⟩ | ⟨e, k, hr⟩ <;> simp only [Peer.step, hr] <;>
    have hrun := Picc.run_sendResponse_read data inf stop iblock hb hlen
      ((congrArg (receive · b) hs.handler).trans hr)
  · cases a with
    | complete data => exact deliver_failed hs hrun
    | reply reply =>
      have hsend := Peer.sendable_reply h16 hr
      exact deliver_reply hs (Nat.le_trans hsend.length h256) hrun
    | chainingAck =>
      -- the next chunk goes out, and the call waits if there are more
      have hcid : k.cid = handler.cid := by
        have h := receive_cid handler b
        rw [hr] at h
        exact h
      have hchunk : Peer.Sendable fsd (Peer.chunk k data inf stop) :=
        Peer.sendable_chunk k data inf stop h16 (by rw [Peer.maxInf, hcid]; exact hinf)
      dsimp only at hrun
      rw [Picc.run_sendChunk (s := c.session.picc.withHandler k) (Nat.le_of_lt hstop)
        (Nat.le_trans hchunk.length h256)] at hrun
      simp only [Peer.sendChunk]
      by_cases hmore : stop + inf < data.length
      · simp only [hmore, if_true] at hrun ⊢
        rw [deliver_wait hs.call hrun]
        exact shows_wait ((c.session.picc.withHandler k).saying _) (some _) rfl rfl rfl rfl
      · simp only [hmore, if_false] at hrun ⊢
        rw [deliver_end hs.call (Or.inl rfl) hrun]
        exact ⟨⟨rfl, rfl, fun _ hb => hb, rfl⟩, ⟨rfl, rfl, rfl, rfl, rfl⟩⟩
    | chainingRetransmit =>
      -- the chunk that waits goes out again
      dsimp only at hrun
      rw [Act.run_bind, Picc.run_sendBlock_saying (Nat.le_trans hiblock.length h256)] at hrun
      rw [deliver_wait hs.call hrun]
      exact shows_wait ((c.session.picc.withHandler k).saying iblock) (some iblock) rfl rfl rfl rfl
  · exact deliver_failed hs hrun

/-- **A card that gets the frame of a block does what its peer does**: it sends the frame of the
    same answer, if there is one, and stands where the peer stands then.  A card that has sent no
    block in its session must not be asked for one. -/
theorem deliver_shows (hs : c.Shows p) (hsound : p.Sound fsd) (hfsd : c.session.picc.fsd = fsd)
    (h16 : 16 ≤ fsd) (h256 : fsd ≤ 256) {b : Block} (hb : b.WellFormed)
    (hlen : b.bytes.length + 2 ≤ c.session.picc.fsc) (hask : p.last = none → b.blockType = .iBlock) :
    (c.deliver (b.raw c.session.picc.hwCrc)).Shows (p.step c.respond fsd b).2 ∧
      c.Sends (p.step c.respond fsd b).1 (c.deliver (b.raw c.session.picc.hwCrc)) := by
  have hcall := hsound.call
  obtain ⟨call, handler, last, handed⟩ := p
  cases call with
  | waitForActivation => exact hcall.elim
  | waitForRats => exact hcall.elim
  | receiveCommand => exact deliver_shows_command rfl hs hsound hfsd h16 h256 hb hlen hask
  | sendResponse data inf stop iblock =>
    exact deliver_shows_response rfl hs hsound h16 h256 hb hlen

end Card

end Iso14443
