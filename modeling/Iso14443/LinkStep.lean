/-
  What a call of the reader does over a link, said once.

  * `step_*`      — what a peer does with a block, by what its handler makes of it.
  * `Holding`, `Due`, `Stale` — where a response stands: the chunk that the reader waits for has
                    gone out, it has not, or the card has given the response up.  An R(ACK) finds
                    the card in one of the three (`Awaited`) and leaves it in one of them
                    (`Awaited.rack`), and what it brings is the chunk, or an older one that its
                    number gives away, or nothing (`Reacts`).  The card refuses the R(ACK), repeats
                    a block, or takes it for a release: `refused`, `repeated`, `released`.
  * `Wire`        — the peer behind the link, and what becomes of the calls to come.
  * `Linked`      — a reader's session over a link that looks like a `Wire`; it lasts, whatever is
                    sent and lost.
  * `Linked.call` — one block out, one block in: what the wire says.

  So from here on a call of the reader is a step of the wire, and no proof looks at frames again.
  The one condition of `Linked.call` is that a card which has sent nothing in its session is not
  asked for it again: it could answer with a block of an earlier one.
-/
import Iso14443.Link

namespace Iso14443

open ProtocolHandler

/-! ## What a peer does with a block

  Equations for `Peer.step`, one for each action the handler can come up with. -/

namespace Peer

variable [Build] {respond : List ChainVec → List UInt8} {fsd : Nat} {p : Peer} {b : Block}
  {k : ProtocolHandler}

/-- A command is complete: the application is handed it, and answers. -/
theorem step_complete (hcall : p.call = .receiveCommand) {data : ChainVec}
    (hr : receive p.handler b = (.ok (.complete data), k)) : p.step respond fsd b =
      ({ p with handler := k, handed := p.handed ++ [data] } : Peer).sendChunk
        (respond (p.handed ++ [data])) (maxInf fsd k) 0 := by
  obtain ⟨call, handler, last, handed⟩ := p
  obtain rfl : call = .receiveCommand := hcall
  simp only [Peer.step, hr]

/-- The reader asks for what was sent last. -/
theorem step_again (hcall : p.call = .receiveCommand) {l : Block} (hlast : p.last = some l)
    (hr : receive p.handler b = (.ok .chainingRetransmit, k)) :
    p.step respond fsd b = (some l, { p with handler := k }) := by
  obtain ⟨call, handler, last, handed⟩ := p
  obtain rfl : call = .receiveCommand := hcall
  obtain rfl : last = some l := hlast
  simp only [Peer.step, hr]

section SendResponse

variable {data : List UInt8} {inf stop : Nat} {iblock : Block}
  (hcall : p.call = .sendResponse data inf stop iblock)

include hcall

/-- The reader has the chunk: the next one goes out. -/
theorem step_release (hr : receive p.handler b = (.ok .chainingAck, k)) :
    p.step respond fsd b = ({ p with handler := k } : Peer).sendChunk data inf stop := by
  obtain ⟨call, handler, last, handed⟩ := p
  obtain rfl : call = .sendResponse data inf stop iblock := hcall
  simp only [Peer.step, hr]

/-- The reader missed the chunk: it goes out again. -/
theorem step_repeat (hr : receive p.handler b = (.ok .chainingRetransmit, k)) :
    p.step respond fsd b = (some iblock, { p with handler := k, last := some iblock }) := by
  obtain ⟨call, handler, last, handed⟩ := p
  obtain rfl : call = .sendResponse data inf stop iblock := hcall
  simp only [Peer.step, hr]

/-- A command in the middle of a response ends the call. -/
theorem step_swallow {d : ChainVec} (hr : receive p.handler b = (.ok (.complete d), k)) :
    p.step respond fsd b = (none, ({ p with handler := k } : Peer).listen) := by
  obtain ⟨call, handler, last, handed⟩ := p
  obtain rfl : call = .sendResponse data inf stop iblock := hcall
  simp only [Peer.step, hr]

end SendResponse

/-- An R(ACK) that releases nothing ends the call. -/
theorem step_idle (hcall : p.call = .receiveCommand)
    (hr : receive p.handler b = (.ok .chainingAck, k)) :
    p.step respond fsd b = (none, ({ p with handler := k } : Peer).listen) := by
  obtain ⟨call, handler, last, handed⟩ := p
  obtain rfl : call = .receiveCommand := hcall
  simp only [Peer.step, hr]

/-- An R(ACK) goes out, whatever the application does. -/
theorem step_rack (hcall : p.call = .receiveCommand ∨ ∃ data inf stop iblock,
      p.call = .sendResponse data inf stop iblock) {h : ProtocolHandler}
    (hr : receive p.handler b = (.ok (.reply h.buildRack), k)) :
    p.step respond fsd b =
      (some h.buildRack, { p with handler := k, last := some h.buildRack }) := by
  obtain ⟨call, handler, last, handed⟩ := p
  rcases hcall with hcall | ⟨data, inf, stop, iblock, hcall⟩
  · obtain rfl : call = .receiveCommand := hcall
    simp only [Peer.step, hr, Picc.isDeselectReply_buildRack, Bool.false_eq_true, if_false]
  · obtain rfl : call = .sendResponse data inf stop iblock := hcall
    simp only [Peer.step, hr, Picc.isDeselectReply_buildRack, Bool.false_eq_true, if_false]

/-- A block the handler refuses ends the call. -/
theorem step_err {e : TypeAError} (hr : receive p.handler b = (.err e, k)) :
    p.step respond fsd b = (none, ({ p with handler := k } : Peer).listen) := by
  obtain ⟨call, handler, last, handed⟩ := p
  cases call <;> simp only [Peer.step, hr]

end Peer

/-! ## Where a response stands

  The reader expects block number `n`, with the chunk of the response at `offset`. -/

namespace Peer

/-- A chunk depends on nothing of a handler but its CID and its number. -/
theorem chunk_congr {h h' : ProtocolHandler} (hcid : h'.cid = h.cid)
    (hnum : h'.blockNumber = h.blockNumber) (data : List UInt8) (inf offset : Nat) :
    chunk h' data inf offset = chunk h data inf offset := by
  simp only [chunk, iblockOf, addCid, hcid, hnum]

/-- The chunk has gone out, and is what the card sends again when asked.  If it was the last one,
    the application is back in `receive_command`. -/
structure Holding (resp : List UInt8) (inf offset : Nat) (n : Fin 2) (p : Peer) : Prop where
  number : p.handler.blockNumber = n
  last : p.last = some (chunk p.handler resp inf offset)
  call : p.call = .receiveCommand ∨ (offset + inf < resp.length ∧
    p.call = .sendResponse resp inf (offset + inf) (chunk p.handler resp inf offset))

/-- The chunk has not gone out: the one before it waits for its R(ACK).  An R(ACK) with the number
    of this chunk releases it. -/
structure Due (resp : List UInt8) (inf offset : Nat) (n : Fin 2) (p : Peer) : Prop where
  number : p.handler.blockNumber = 1 - n
  last : ∃ l, p.last = some l ∧ l.blockType = .iBlock ∧ l.blockNumber = 1 - n
  call : ∃ iblock, p.call = .sendResponse resp inf offset iblock

/-- The card has given the response up, and has nothing but an older chunk. -/
structure Stale (n : Fin 2) (p : Peer) : Prop where
  call : p.call = .receiveCommand
  last : ∃ l, p.last = some l ∧ l.blockType = .iBlock ∧ l.blockNumber = 1 - n

/-- One of the three: what the card can be at when the reader waits for this chunk, whatever was
    lost before. -/
inductive Awaited (resp : List UInt8) (inf offset : Nat) (n : Fin 2) (p : Peer) : Prop
  | holding (h : Holding resp inf offset n p)
  | due (h : Due resp inf offset n p)
  | stale (h : Stale n p)

/-- What an answer may be: the chunk at last, or an older one that its number gives away. -/
inductive Given (resp : List UInt8) (inf offset : Nat) (n : Fin 2) (p : Peer) (a : Block) : Prop
  | chunk (h : Holding resp inf offset n p) (ha : a = Peer.chunk p.handler resp inf offset)
  | stale (h : Stale n p) (ht : a.blockType = .iBlock) (hn : a.blockNumber = 1 - n)

/-- A card that has given a chunk awaits the reader's next word on it. -/
theorem Given.awaited {resp : List UInt8} {inf offset : Nat} {n : Fin 2} {p : Peer} {a : Block}
    (h : Given resp inf offset n p a) : Awaited resp inf offset n p := by
  cases h with
  | chunk h _ => exact .holding h
  | stale h _ _ => exact .stale h

variable {resp : List UInt8} {inf offset : Nat} {n : Fin 2} {p : Peer}

/-- A card that answers a command has something to send again. -/
theorem Awaited.last_ne (h : Awaited resp inf offset n p) : p.last ≠ none := by
  cases h with
  | holding h => simp [h.last]
  | due h =>
    obtain ⟨l, hl, -⟩ := h.last
    simp [hl]
  | stale h =>
    obtain ⟨l, hl, -⟩ := h.last
    simp [hl]

/-- A chunk that goes out is held from then on. -/
theorem sendChunk_holding (resp : List UInt8) (inf offset : Nat) (hn : p.handler.blockNumber = n) :
    (p.sendChunk resp inf offset).1 = some (chunk p.handler resp inf offset) ∧
      Holding resp inf offset n (p.sendChunk resp inf offset).2 ∧
      (p.sendChunk resp inf offset).2.handed = p.handed ∧
      (p.sendChunk resp inf offset).2.handler.cid = p.handler.cid := by
  simp only [sendChunk]
  refine ⟨trivial, ?_, ?_, ?_⟩
  · split
    · rename_i hmore
      exact ⟨hn, rfl, Or.inr ⟨hmore, rfl⟩⟩
    · exact ⟨hn, rfl, Or.inl rfl⟩
  · split <;> rfl
  · split <;> rfl

/-- A chunk is an I-Block, chained if there are more. -/
theorem blockType_chunk (h : ProtocolHandler) (data : List UInt8) (inf offset : Nat) :
    (chunk h data inf offset).blockType = .iBlock ∧
      (chunk h data inf offset).blockNumber = h.blockNumber ∧
      (chunk h data inf offset).isChaining = decide (offset + inf < data.length) ∧
      (chunk h data inf offset).payload = Pcd.chunkAt data inf offset := by
  simp only [chunk, iblockOf, addCid]
  split <;> exact ⟨rfl, rfl, rfl, rfl⟩

/-- The chunk at hand releases the next one, which is then due, or given up. -/
theorem Holding.next (h : Holding resp inf offset n p) :
    Awaited resp inf (offset + inf) (1 - n) p := by
  have hlast : ∃ l, p.last = some l ∧ l.blockType = .iBlock ∧ l.blockNumber = 1 - (1 - n) := by
    obtain ⟨ht, hnum, -⟩ := blockType_chunk p.handler resp inf offset
    exact ⟨_, h.last, ht, by rw [hnum, h.number, one_sub_one_sub]⟩
  rcases h.call with hcall | ⟨hmore, hcall⟩
  · exact .stale ⟨hcall, hlast⟩
  · exact .due ⟨by rw [h.number, one_sub_one_sub], hlast, _, hcall⟩

variable [Build] {respond : List ChainVec → List UInt8} {fsd : Nat} {b : Block}

omit [Build] in
/-- The card reads an R(ACK) as one of two things, by its own number. -/
theorem rMeaning_rack {h : ProtocolHandler} (hrole : h.role = .picc) (hb : b.IsRack n) :
    h.rMeaning b = if h.blockNumber = n then .repeatLast else .release := by
  simp only [rMeaning, hrole, hb.2.1, hb.2.2]
  by_cases hn : n = h.blockNumber
  · rw [if_pos hn, if_pos hn.symm]
  · rw [if_neg hn, if_neg (fun h' => hn h'.symm)]

/-- What a handler of the card does with an R(ACK). -/
theorem receive_rack {h : ProtocolHandler} (hrole : h.role = .picc) (hb : b.IsRack n) :
    (∃ e k, receive h b = (.err e, k) ∧ k.blockNumber = h.blockNumber ∧ k.cid = h.cid) ∨
    (h.blockNumber = n ∧ ∃ k, receive h b = (.ok .chainingRetransmit, k) ∧ k.blockNumber = n ∧
      k.cid = h.cid) ∨
    (h.blockNumber ≠ n ∧ receive h b = (.ok .chainingAck, h.counted.advanced)) := by
  have hmean := rMeaning_rack hrole hb
  by_cases hf : h.FrameOk
  · by_cases hn : h.blockNumber = n
    · rw [if_pos hn] at hmean
      by_cases ha : h.AgainOk
      · exact Or.inr (Or.inl ⟨hn, _, Received.eq (.repeatLast hf hb.1 hmean ha), hn, rfl⟩)
      · exact Or.inl ⟨_, _, Received.eq (.repeatLastOut hf hb.1 hmean ha), rfl, rfl⟩
    · rw [if_neg hn] at hmean
      exact Or.inr (Or.inr ⟨hn, Received.eq (.release hf hb.1 hmean)⟩)
  · exact Or.inl ⟨_, _, Received.eq (.frames hf), rfl, rfl⟩

/-- What an R(ACK) does with a card that is awaited: nothing is handed over, the card is awaited as
    before, and what comes back is the chunk or an older one. -/
structure Reacts (resp : List UInt8) (inf offset : Nat) (n : Fin 2) (p : Peer)
    (r : Option Block × Peer) : Prop where
  handed : r.2.handed = p.handed
  awaited : Awaited resp inf offset n r.2
  given : ∀ a ∈ r.1, Given resp inf offset n r.2 a

/-- The budget of the card is used up: it says nothing, and has still its last block. -/
theorem Awaited.refused (h : Awaited resp inf offset n p) {e : TypeAError} {k : ProtocolHandler}
    (hr : receive p.handler b = (.err e, k)) (hk : k.blockNumber = p.handler.blockNumber)
    (hcid : k.cid = p.handler.cid) : Reacts resp inf offset n p (p.step respond fsd b) := by
  rw [step_err hr]
  refine ⟨rfl, ?_, by simp⟩
  cases h with
  | holding h =>
    refine .holding ⟨hk.trans h.number, ?_, Or.inl rfl⟩
    rw [show (listen { p with handler := k }).last = p.last from rfl, h.last]
    exact congrArg some (chunk_congr hcid hk _ _ _).symm
  | due h => exact .stale ⟨rfl, h.last⟩
  | stale h => exact .stale ⟨rfl, h.last⟩

/-- The reader asks for the last block: it is the chunk, or an older one.  A chunk that is due was
    not sent under this number. -/
theorem Awaited.repeated (h : Awaited resp inf offset n p) (hn : p.handler.blockNumber = n)
    {k : ProtocolHandler} (hr : receive p.handler b = (.ok .chainingRetransmit, k))
    (hk : k.blockNumber = n) (hcid : k.cid = p.handler.cid) :
    Reacts resp inf offset n p (p.step respond fsd b) := by
  cases h with
  | due h => exact absurd (hn.symm.trans h.number) (ne_one_sub n)
  | holding h =>
    have hchunk : chunk k resp inf offset = chunk p.handler resp inf offset :=
      chunk_congr hcid (hk.trans hn.symm) resp inf offset
    rcases h.call with hcall | ⟨hmore, hcall⟩
    · -- it was the last chunk, and the card is back in `receive_command`
      rw [step_again hcall h.last hr]
      have hhold : Holding resp inf offset n { p with handler := k } :=
        ⟨hk, by rw [hchunk]; exact h.last, Or.inl hcall⟩
      refine ⟨rfl, .holding hhold, ?_⟩
      intro a ha
      cases ha
      exact .chunk hhold hchunk.symm
    · -- there are more, and `send_response` sends it again
      rw [step_repeat hcall hr]
      have hhold : Holding resp inf offset n
          { p with handler := k, last := some (chunk p.handler resp inf offset) } :=
        ⟨hk, by rw [hchunk], Or.inr ⟨hmore, by rw [hchunk]; exact hcall⟩⟩
      refine ⟨rfl, .holding hhold, ?_⟩
      intro a ha
      cases ha
      exact .chunk hhold hchunk.symm
  | stale h =>
    obtain ⟨l, hl, ht, hln⟩ := h.last
    rw [step_again h.call hl hr]
    have hstale : Stale n { p with handler := k } := ⟨h.call, l, hl, ht, hln⟩
    refine ⟨rfl, .stale hstale, ?_⟩
    intro a ha
    cases ha
    exact .stale hstale ht hln

/-- The reader releases the next chunk: if it was due, it goes out. -/
theorem Awaited.released (h : Awaited resp inf offset n p) (hn : p.handler.blockNumber ≠ n)
    (hr : receive p.handler b = (.ok .chainingAck, p.handler.counted.advanced)) :
    Reacts resp inf offset n p (p.step respond fsd b) := by
  cases h with
  | holding h => exact absurd h.number hn
  | due h =>
    obtain ⟨iblock, hcall⟩ := h.call
    rw [step_release hcall hr]
    obtain ⟨hout, hhold, hhanded, hcid⟩ := sendChunk_holding resp inf offset
      (p := { p with handler := p.handler.counted.advanced })
      (show 1 - p.handler.blockNumber = n from one_sub_of_ne hn)
    refine ⟨hhanded, .holding hhold, ?_⟩
    intro a ha
    rw [hout] at ha
    cases ha
    exact .chunk hhold (chunk_congr hcid (hhold.number.trans (one_sub_of_ne hn).symm) _ _ _).symm
  | stale h =>
    rw [step_idle h.call hr]
    exact ⟨rfl, .stale ⟨rfl, h.last⟩, by simp⟩

/-- **An R(ACK) brings the chunk, an older one, or nothing**, and the card goes on waiting for one
    in one of the three ways. -/
theorem Awaited.rack (respond : List ChainVec → List UInt8) (fsd : Nat)
    (h : Awaited resp inf offset n p) (hrole : p.handler.role = .picc) (hb : b.IsRack n) :
    Reacts resp inf offset n p (p.step respond fsd b) := by
  rcases receive_rack hrole hb with ⟨e, k, hr, hk, hcid⟩ | ⟨hn, k, hr, hk, hcid⟩ | ⟨hn, hr⟩
  · exact h.refused hr hk hcid
  · exact h.repeated hn hr hk hcid
  · exact h.released hn hr

end Peer

/-! ## The wire

  A link with a peer at its end. -/

/-- The card behind a link, one block at a time. -/
structure Wire where
  peer : Peer
  fates : List Fate

namespace Wire

variable [Build]

/-- One block into the wire, and what comes back. -/
def call (respond : List ChainVec → List UInt8) (fsd : Nat) (w : Wire) (b : Block) :
    Option Block × Wire :=
  match w.fates with
  | .frameLost :: fates => (none, { w with fates })
  | .answerLost :: fates => (none, ⟨(w.peer.step respond fsd b).2, fates⟩)
  | .delivered :: fates =>
    ((w.peer.step respond fsd b).1, ⟨(w.peer.step respond fsd b).2, fates⟩)
  | [] => ((w.peer.step respond fsd b).1, ⟨(w.peer.step respond fsd b).2, []⟩)

/-- A call reaches the peer or does not, and what it brings the peer has answered. -/
theorem call_cases (respond : List ChainVec → List UInt8) (fsd : Nat) (w : Wire) (b : Block) :
    ((w.call respond fsd b).1 = none ∧ (w.call respond fsd b).2.peer = w.peer) ∨
    ((w.call respond fsd b).2.peer = (w.peer.step respond fsd b).2 ∧
      ∀ a ∈ (w.call respond fsd b).1, (w.peer.step respond fsd b).1 = some a) := by
  obtain ⟨peer, fates⟩ := w
  cases fates with
  | nil => exact Or.inr ⟨rfl, fun a ha => ha⟩
  | cons fate fates =>
    cases fate with
    | delivered => exact Or.inr ⟨rfl, fun a ha => ha⟩
    | frameLost => exact Or.inl ⟨rfl, rfl⟩
    | answerLost => exact Or.inr ⟨rfl, fun a ha => by cases ha⟩

/-- Each call uses up a fate. -/
theorem call_fates (respond : List ChainVec → List UInt8) (fsd : Nat) (w : Wire) (b : Block) :
    (w.call respond fsd b).2.fates = w.fates.tail := by
  obtain ⟨peer, fates⟩ := w
  cases fates with
  | nil => rfl
  | cons fate fates => cases fate <;> rfl

/-- A call that brings something was delivered. -/
theorem call_some {respond : List ChainVec → List UInt8} {fsd : Nat} {w : Wire} {b a : Block}
    (h : (w.call respond fsd b).1 = some a) {fate : Fate} (hfate : w.fates[0]? = some fate) :
    fate = .delivered := by
  obtain ⟨peer, fates⟩ := w
  cases fates with
  | nil => cases hfate
  | cons _ fates =>
    cases hfate
    cases fate with
    | delivered => rfl
    | frameLost => cases h
    | answerLost => cases h

/-- A frame that is lost never was. -/
theorem call_frameLost (respond : List ChainVec → List UInt8) (fsd : Nat) {w : Wire} (b : Block)
    (h : w.fates[0]? = some .frameLost) :
    (w.call respond fsd b).1 = none ∧ (w.call respond fsd b).2.peer = w.peer := by
  obtain ⟨peer, fates⟩ := w
  cases fates with
  | nil => cases h
  | cons f fates =>
    cases h
    exact ⟨rfl, rfl⟩

/-- A call that is delivered. -/
theorem call_delivered (respond : List ChainVec → List UInt8) (fsd : Nat) {w : Wire} (b : Block)
    (h : ∀ fate ∈ w.fates.head?, fate = .delivered) :
    w.call respond fsd b = ((w.peer.step respond fsd b).1,
      ⟨(w.peer.step respond fsd b).2, w.fates.tail⟩) := by
  obtain ⟨peer, fates⟩ := w
  cases fates with
  | nil => rfl
  | cons fate fates =>
    obtain rfl : fate = .delivered := h fate rfl
    rfl

end Wire

/-! ## A reader over a wire

  Frames are gone from here on: a call of the reader is a block into the wire and a block or
  nothing out of it. -/

/-- A reader's session over a link, with a log of its calls. -/
abbrev Reader := Pcd (Tally Link Unit)

namespace Reader

/-- The card at the other end. -/
def card (s : Reader) : Card := s.transceiver.inner.card

/-- What the reader hears of an answer, or of none. -/
def heard (hwCrc : Bool) : Option Block → Except Unit FrameVec
  | some a => .ok (a.raw hwCrc)
  | none => .error ()

/-- What the reader makes of it. -/
def brought : Option Block → Res (PcdError Unit) Block
  | some a => .ok a.wire
  | none => .err (.pcdTransceiver ())

/-- The call that sent `b`, and brought `a` or nothing. -/
def logged (hwCrc : Bool) (b : Block) (a : Option Block) : Frame × Except Unit FrameVec :=
  (.standard (b.raw hwCrc), heard hwCrc a)

/-- **Reader and card are in one session**: the same CRC mode and frame sizes on both sides, and the
    card where the wire says. -/
structure Linked (respond : List ChainVec → List UInt8) (s : Reader) (w : Wire) : Prop where
  shows : s.card.Shows w.peer
  fates : s.transceiver.inner.fates = w.fates
  respond : s.card.respond = respond
  hwCrc : s.card.session.picc.hwCrc = s.hwCrc
  fsc : s.card.session.picc.fsc = s.fsc
  fsd : s.card.session.picc.fsd = s.fsd
  fsd_ge : 16 ≤ s.fsd
  fsd_le : s.fsd ≤ 256
  sound : w.peer.Sound s.fsd
  role : s.handler.role = .pcd

variable {respond : List ChainVec → List UInt8} {s : Reader} {w : Wire}

namespace Linked

/-- The reader's handler may move. -/
theorem withHandler (h : Linked respond s w) {k : ProtocolHandler} (hk : k.role = .pcd) :
    Linked respond { s with handler := k } w :=
  { h with role := hk }

/-- The frame size of a card. -/
theorem fsc_bounds (h : Linked respond s w) : 16 ≤ s.fsc ∧ s.fsc ≤ 256 := by
  rw [← h.fsc]
  exact s.card.session.picc.fsc_bounds

/-- The chunk size of the reader is neither zero nor past a frame. -/
theorem maxInf_bounds (h : Linked respond s w) : s.maxInf ≠ 0 ∧ s.maxInf ≤ 256 := by
  have hfsc := h.fsc_bounds
  simp only [Pcd.maxInf]
  split <;> omega

/-- A chunk of a command fits the frame of the card. -/
theorem sendable_chunk (h : Linked respond s w) (apdu : List UInt8) (offset : Nat) (chaining : Bool) :
    Peer.Sendable s.fsc (s.handler.iblockOf (Pcd.chunkAt apdu s.maxInf offset) chaining) := by
  have hfsc := h.fsc_bounds
  have hlen := s.handler.length_iblockOf (Pcd.chunkAt apdu s.maxInf offset) chaining
  have hchunk : (Pcd.chunkAt apdu s.maxInf offset).length ≤ s.maxInf := by
    rw [Pcd.chunkAt, List.length_take]
    omega
  refine ⟨s.handler.wellFormed_iblockOf _ _, ?_⟩
  rw [hlen]
  simp only [Pcd.maxInf] at hchunk ⊢
  simp only [prologueLen]
  split at hchunk <;> simp_all <;> omega

/-- So does an R(ACK). -/
theorem sendable_rack (h : Linked respond s w) : Peer.Sendable s.fsc s.handler.buildRack := by
  have hfsc := h.fsc_bounds
  have h1 := s.handler.length_buildRack
  have h2 := s.handler.prologueLen_le
  exact ⟨s.handler.wellFormed_buildRack, by omega⟩

/-- What the reader hears of a card that answered. -/
theorem answerOf_sends {c c' : Card} {answer : Option Block} (h : c.Sends answer c') :
    Link.answerOf c c' = heard c.session.picc.hwCrc answer := by
  rw [Link.answerOf, h.sent, List.drop_left]
  cases answer <;> rfl

variable [Build]

/-- The reader makes of an answer what the card put into it. -/
theorem received_heard (s : Reader) (hfsd : s.fsd ≤ 256) {answer : Option Block}
    (hanswer : ∀ a ∈ answer, Peer.Sendable s.fsd a) :
    s.received (heard s.hwCrc answer) = brought answer := by
  cases answer with
  | none => rfl
  | some a =>
    have ha := hanswer a rfl
    have hlen := ha.length
    exact Pcd.received_raw ha.wellFormed hlen (by omega)

/-- **One block out, one block in**, on a card that is asked for nothing it has not sent.  The call
    of the code is the call of the abstract link (`Wire.call`), and it is all that is needed of the
    two sides from here on. -/
theorem call (h : Linked respond s w) {b : Block} (hb : Peer.Sendable s.fsc b)
    (hask : w.peer.last = none → b.blockType = .iBlock) :
    ∃ t, (Pcd.transceiveBlock b).run s =
      (brought (w.call respond s.fsd b).1, s.withTransceiver t) ∧
      Linked respond (s.withTransceiver t) (w.call respond s.fsd b).2 ∧
      Pcd.calls (s.withTransceiver t) = s.calls ++
        [logged s.hwCrc b (w.call respond s.fsd b).1] := by
  have hfsc := h.fsc_bounds
  have hblen := hb.length
  have hframe : frameFor s.hwCrc b = .ok (.standard (b.raw s.hwCrc)) :=
    frameFor_of_fits s.hwCrc (by omega)
  obtain ⟨hshows, hsends⟩ := Card.deliver_shows h.shows h.sound h.fsd h.fsd_ge h.fsd_le hb.wellFormed
    (by rw [h.fsc]; exact hblen) hask
  obtain ⟨hsound, hanswer⟩ := h.sound.step h.fsd_ge respond b
  have hheard := answerOf_sends hsends
  rw [h.respond, h.hwCrc] at hshows hsends hheard
  -- the session with the card after the block, and with what is left of the fates
  have hlinked : ∀ fates log, Linked respond
      (s.withTransceiver ⟨⟨s.card.deliver (b.raw s.hwCrc), fates⟩, log⟩)
      ⟨(w.peer.step respond s.fsd b).2, fates⟩ := by
    intro fates log
    exact ⟨hshows, rfl, hsends.respond.trans h.respond, hsends.hwCrc.trans h.hwCrc,
      hsends.fsc.trans h.fsc, hsends.fsd.trans h.fsd, h.fsd_ge, h.fsd_le, hsound, h.role⟩
  -- the call, by what the transceiver does with the frame
  have hcall : ∀ (answer : Option Block) (card : Card) (fates : List Fate),
      (∀ a ∈ answer, Peer.Sendable s.fsd a) →
      PcdTransceiver.transceive s.transceiver.inner (.standard (b.raw s.hwCrc)) =
        (heard s.hwCrc answer, (⟨card, fates⟩ : Link)) →
      (Pcd.transceiveBlock b).run s = (brought answer, s.withTransceiver
        ⟨⟨card, fates⟩, s.calls ++ [logged s.hwCrc b answer]⟩) := by
    intro answer card fates ha ht
    rw [Pcd.run_transceiveBlock hframe, Pcd.transceive_tally ht, received_heard s h.fsd_le ha]
    rfl
  obtain ⟨peer, fates⟩ := w
  obtain ⟨transceiver, hwCrc, fsc, fsd, handler⟩ := s
  obtain ⟨⟨card, fates'⟩, log⟩ := transceiver
  obtain rfl : fates' = fates := h.fates
  cases fates' with
  | nil =>
    exact ⟨_, hcall _ (card.deliver (b.raw hwCrc)) [] hanswer (Prod.ext hheard rfl), hlinked _ _, rfl⟩
  | cons fate fates =>
    cases fate with
    | delivered =>
      exact ⟨_, hcall _ (card.deliver (b.raw hwCrc)) fates hanswer (Prod.ext hheard rfl),
        hlinked _ _, rfl⟩
    | frameLost =>
      exact ⟨_, hcall none card fates (by simp) rfl, { h with fates := rfl }, rfl⟩
    | answerLost =>
      exact ⟨_, hcall none (card.deliver (b.raw hwCrc)) fates (by simp) rfl, hlinked _ _, rfl⟩

end Linked

end Reader

end Iso14443
