/-
  What arrives within the budgets of both sides.

  `Iso14443.LinkStep` says what a block may bring, whatever the budgets are.  Here the budgets are
  large enough, and the block brings what it is for.

  * `Fate.Patient`   — no `m` calls in a row fail.  This is the one assumption about the link, and
                       `m` is three where the reader tries three times.
  * `Setting`        — what a session never changes: CRC mode, frame sizes, CIDs and limits.
  * `Peer.Gave`      — the card has given a chunk of its response.
  * `Peer.Offers`    — the card gives the chunk on any of the next `a` R(ACK)s, with `f` frames
                       left.  An R(ACK) that arrives moves the card from the chunk before to this
                       one, or makes it repeat this one; either way the offer stands with one
                       R(ACK) less (`Offers.rack`), which is the whole reason why recovery works.
  * `Reader.ask`     — the reader that asks for it gets it: its calls fail, on the way out or on
                       the way back, until one is delivered, and that one brings the chunk.
-/
import Iso14443.LinkSend

namespace Iso14443

open ProtocolHandler

/-! ## Losses

  A list of fates says what becomes of the calls to come, and nothing is lost after its end. -/

/-- **No `m` calls in a row fail.**  Calls after the last fate are delivered. -/
def Fate.Patient (m : Nat) (fates : List Fate) : Prop :=
  ∀ i ≤ fates.length, ∃ j < m, fates.getD (i + j) .delivered = .delivered

/-- Patience looks at finitely many places. -/
instance (m : Nat) (fates : List Fate) : Decidable (Fate.Patient m fates) :=
  inferInstanceAs (Decidable (∀ i ≤ fates.length, ∃ j < m, fates.getD (i + j) .delivered = .delivered))

/-- Where nothing is lost any patience will do. -/
theorem Fate.Patient.nil {m : Nat} (hm : 0 < m) : Fate.Patient m [] := by
  intro i _
  exact ⟨0, hm, by simp⟩

/-- What is patient stays so later on. -/
theorem Fate.Patient.drop {m : Nat} {fates : List Fate} (h : Fate.Patient m fates) (k : Nat) :
    Fate.Patient m (fates.drop k) := by
  intro i hi
  rw [List.length_drop] at hi
  by_cases hk : k ≤ fates.length
  · obtain ⟨j, hj, hd⟩ := h (k + i) (by omega)
    refine ⟨j, hj, ?_⟩
    simpa [List.getD_eq_getElem?_getD, Nat.add_assoc] using hd
  · obtain ⟨j, hj, -⟩ := h 0 (Nat.zero_le _)
    refine ⟨j, hj, ?_⟩
    rw [List.drop_of_length_le (by omega)]
    simp

/-! ## Counters that do not run out

  A counter that is below its limit by so much passes that many checks. -/

namespace ProtocolHandler

variable {h : ProtocolHandler} {f a : Nat}

/-- Counting a frame costs one frame. -/
theorem frames_counted (h : ProtocolHandler) : h.counted.counters.frames ≤ h.counters.frames + 1 :=
  saturatingIncr_le _ _

/-- A repeat costs one repeat. -/
theorem retransmissions_again (h : ProtocolHandler) :
    h.again.counters.retransmissions ≤ h.counters.retransmissions + 1 :=
  saturatingIncr_le _ _

/-- A frame that the budget has room for passes. -/
theorem frameOk_of_le (hf : h.counters.frames + 1 ≤ h.limits.maxFrames) : h.FrameOk :=
  Nat.le_trans h.frames_counted hf

/-- A repeat that the budget has room for passes. -/
theorem againOk_of_le (ha : h.counters.retransmissions + 1 ≤ h.limits.maxRetransmissions) :
    h.AgainOk :=
  Nat.le_trans h.retransmissions_again ha

/-- There is room for one more chunk of data that has room as a whole. -/
theorem room [Build] {payload data : List UInt8} {k : Nat}
    (hdata : h.chain ++ payload = data.take k) (hframes : h.counters.frames + 1 ≤ h.limits.maxFrames)
    (hlen : data.length ≤ h.limits.maxChainLen) (hfits : Fits chainCap data.length) : h.FrameOk ∧
      h.chain.length + payload.length ≤ h.limits.maxChainLen ∧
      Fits chainCap (h.chain.length + payload.length) := by
  have hle : h.chain.length + payload.length ≤ data.length := by
    rw [← List.length_append, hdata, List.length_take]
    exact Nat.min_le_right _ _
  exact ⟨frameOk_of_le hframes, Nat.le_trans hle hlen, hfits.mono hle⟩

end ProtocolHandler

/-! ## The card, within its budgets

  The invariant of the card while the reader asks.  Each R(ACK) with number `n` either moves the
  card to the chunk at `offset`, if it still stands at the one before, or makes it send that chunk
  again. -/

namespace Peer

variable {resp : List UInt8} {inf offset m a f : Nat} {n : Fin 2} {p : Peer}

/-- The card has given the chunk at `offset` under number `n`: it waits for the R(ACK) to it if there
    are more, and for the next command if it was the last. -/
structure Gave (resp : List UInt8) (inf offset : Nat) (n : Fin 2) (p : Peer) : Prop where
  number : p.handler.blockNumber = n
  last : p.last = some (chunk p.handler resp inf offset)
  call : p.call = if offset + inf < resp.length then
    .sendResponse resp inf (offset + inf) (chunk p.handler resp inf offset) else .receiveCommand

/-- The chunk before it waits for its R(ACK): the card still has the number of that chunk, and is in
    `send_response` at this one. -/
structure Next (resp : List UInt8) (inf offset : Nat) (n : Fin 2) (p : Peer) : Prop where
  number : p.handler.blockNumber = 1 - n
  last : p.last ≠ none
  call : ∃ iblock, p.call = .sendResponse resp inf offset iblock

/-- **The card gives the chunk at `offset` on any of the next `a` R(ACK)s** with number `n`, and has
    `f` frames left in this call.  `m` is what its limits allow in a row. -/
structure Offers (m : Nat) (resp : List UInt8) (inf offset : Nat) (n : Fin 2) (a f : Nat)
    (p : Peer) : Prop where
  chain : p.handler.chain = []
  frames : p.handler.counters.frames + f ≤ p.handler.limits.maxFrames
  again : m ≤ p.handler.limits.maxRetransmissions + 1
  stands : (Next resp inf offset n p ∧ a ≤ m) ∨
    (Gave resp inf offset n p ∧ p.handler.counters.retransmissions + a < m ∧
      (p.call = .receiveCommand → p.handler.counters.frames + a < m))

/-- What is offered with a large allowance is offered with a smaller one. -/
theorem Offers.mono {a' f' : Nat} (h : Offers m resp inf offset n a f p) (ha : a' ≤ a)
    (hf : f' ≤ f) : Offers m resp inf offset n a' f' p := by
  have hframes := h.frames
  refine ⟨h.chain, by omega, h.again, ?_⟩
  rcases h.stands with ⟨hnext, hle⟩ | ⟨hgave, hretr, hidle⟩
  · exact Or.inl ⟨hnext, by omega⟩
  · exact Or.inr ⟨hgave, by omega, fun hcall => by have := hidle hcall; omega⟩

/-- A card that offers a chunk has sent something. -/
theorem Offers.last_ne (h : Offers m resp inf offset n a f p) : p.last ≠ none := by
  rcases h.stands with ⟨hnext, -⟩ | ⟨hgave, -⟩
  · exact hnext.last
  · simp [hgave.last]

/-- With more to come, the card offers the next chunk. -/
theorem Offers.next (h : Offers m resp inf offset n 0 f p) (hgave : Gave resp inf offset n p)
    (hmore : offset + inf < resp.length) : Offers m resp inf (offset + inf) (1 - n) m f p := by
  have hcall := hgave.call
  rw [if_pos hmore] at hcall
  refine ⟨h.chain, h.frames, h.again, Or.inl ⟨⟨?_, h.last_ne, _, hcall⟩, Nat.le_refl _⟩⟩
  rw [hgave.number, one_sub_one_sub]

/-- A chunk goes out. -/
theorem gave_sendChunk (hn : p.handler.blockNumber = n) (resp : List UInt8) (inf offset : Nat) :
    (p.sendChunk resp inf offset).1 = some (chunk (p.sendChunk resp inf offset).2.handler resp inf
        offset) ∧
      Gave resp inf offset n (p.sendChunk resp inf offset).2 := by
  simp only [sendChunk]
  by_cases hmore : offset + inf < resp.length
  · simp only [if_pos hmore]
    exact ⟨trivial, hn, rfl, by rw [if_pos hmore]⟩
  · simp only [if_neg hmore]
    exact ⟨rfl, hn, rfl, by rw [if_neg hmore]; rfl⟩

/-- The last chunk goes out, or one with more to come; either way the card can be made to send it
    again, as often as its retransmissions allow. -/
theorem offers_sendChunk (hn : p.handler.blockNumber = n) (hchain : p.handler.chain = [])
    (hframes : p.handler.counters.frames + f ≤ p.handler.limits.maxFrames)
    (hagain : m ≤ p.handler.limits.maxRetransmissions + 1)
    (hretr : p.handler.counters.retransmissions = 0) (ha : a < m) (resp : List UInt8)
    (inf offset : Nat) : Offers m resp inf offset n a f (p.sendChunk resp inf offset).2 := by
  have hgave := (gave_sendChunk hn resp inf offset).2
  by_cases hmore : offset + inf < resp.length
  · have hp : (p.sendChunk resp inf offset).2 =
        { p with
          last := some (chunk p.handler resp inf offset)
          call := .sendResponse resp inf (offset + inf) (chunk p.handler resp inf offset) } := by
      simp only [sendChunk, if_pos hmore]
    rw [hp] at hgave ⊢
    refine ⟨hchain, hframes, hagain, Or.inr ⟨hgave, ?_, fun hcall => by cases hcall⟩⟩
    show p.handler.counters.retransmissions + a < m
    omega
  · have hp : (p.sendChunk resp inf offset).2 =
        listen { p with last := some (chunk p.handler resp inf offset) } := by
      simp only [sendChunk, if_neg hmore]
    rw [hp] at hgave ⊢
    refine ⟨rfl, ?_, hagain, Or.inr ⟨hgave, ?_, fun _ => ?_⟩⟩
    · show 0 + f ≤ p.handler.limits.maxFrames
      omega
    · show 0 + a < m
      omega
    · show 0 + a < m
      omega

variable [Build] {b : Block}

/-- A step of the peer brings the chunk at `offset`, and leaves an offer of `a` more. -/
structure Brings (m : Nat) (resp : List UInt8) (inf offset : Nat) (n : Fin 2) (a f : Nat) (p : Peer)
    (out : Option Block × Peer) : Prop where
  chunk : out.1 = some (chunk out.2.handler resp inf offset)
  gave : Gave resp inf offset n out.2
  offers : Offers m resp inf offset n a f out.2
  handed : out.2.handed = p.handed

/-- **To a card that waits for it, the R(ACK) releases the chunk**: it carries the other number. -/
theorem Next.rack (h : Next resp inf offset n p) (hrole : p.handler.role = .picc) (hb : b.IsRack n)
    (hchain : p.handler.chain = []) (hframes : p.handler.counters.frames + (f + 1) ≤
      p.handler.limits.maxFrames) (hagain : m ≤ p.handler.limits.maxRetransmissions + 1)
    (ha : a < m) (respond : List ChainVec → List UInt8) (fsd : Nat) :
    Brings m resp inf offset n a f p (p.step respond fsd b) := by
  have hcount := p.handler.frames_counted
  have hmean := rMeaning_rack hrole hb
  have hne : p.handler.blockNumber ≠ n := by
    rw [h.number]
    exact (ne_one_sub n).symm
  rw [if_neg hne] at hmean
  have hr : receive p.handler b = (.ok .chainingAck, p.handler.counted.advanced) :=
    Received.eq (.release (frameOk_of_le (by omega)) hb.1 hmean)
  obtain ⟨iblock, hcall⟩ := h.call
  rw [step_release hcall hr]
  have hn : (1 : Fin 2) - p.handler.blockNumber = n := one_sub_of_ne hne
  obtain ⟨hout, hgave⟩ := gave_sendChunk
    (p := { p with handler := p.handler.counted.advanced }) hn resp inf offset
  refine ⟨hout, hgave, ?_, ?_⟩
  · refine offers_sendChunk (p := { p with handler := p.handler.counted.advanced }) hn hchain ?_
      hagain rfl ha resp inf offset
    show p.handler.counted.counters.frames + f ≤ p.handler.limits.maxFrames
    omega
  · simp only [sendChunk]
    split <;> rfl

omit [Build] in
/-- What is sent again is what was given, and the offer is one smaller. -/
theorem Offers.again_of_gave {p' : Peer} (h : Offers m resp inf offset n (a + 1) (f + 1) p)
    (hretr : p.handler.counters.retransmissions + (a + 1) < m)
    (hidle : p.call = .receiveCommand → p.handler.counters.frames + (a + 1) < m)
    (hgave : Gave resp inf offset n p') (hhandler : p'.handler = p.handler.counted.again)
    (hcall : p'.call = p.call) : Offers m resp inf offset n a f p' := by
  have hframes := h.frames
  have hcount := p.handler.frames_counted
  have hretr' := p.handler.counted.retransmissions_again
  refine ⟨by rw [hhandler]; exact h.chain, ?_, by rw [hhandler]; exact h.again,
    Or.inr ⟨hgave, ?_, ?_⟩⟩
  · rw [hhandler]
    show p.handler.counted.counters.frames + f ≤ p.handler.limits.maxFrames
    omega
  · rw [hhandler]
    show p.handler.counted.again.counters.retransmissions + a < m
    have : p.handler.counted.counters.retransmissions = p.handler.counters.retransmissions := rfl
    omega
  · rw [hhandler, hcall]
    intro hcall
    have := hidle hcall
    show p.handler.counted.counters.frames + a < m
    omega

/-- **To a card that has sent it, the R(ACK) is a request to send it again**: it carries the number
    of the chunk. -/
theorem Gave.rack (h : Gave resp inf offset n p)
    (hoffers : Offers m resp inf offset n (a + 1) (f + 1) p)
    (hretr : p.handler.counters.retransmissions + (a + 1) < m)
    (hidle : p.call = .receiveCommand → p.handler.counters.frames + (a + 1) < m)
    (hrole : p.handler.role = .picc) (hb : b.IsRack n) (respond : List ChainVec → List UInt8)
    (fsd : Nat) : Brings m resp inf offset n a f p (p.step respond fsd b) := by
  have hframes := hoffers.frames
  have hagain := hoffers.again
  have hmean := rMeaning_rack hrole hb
  rw [if_pos h.number] at hmean
  have hr : receive p.handler b = (.ok .chainingRetransmit, p.handler.counted.again) :=
    Received.eq (.repeatLast (frameOk_of_le (by omega)) hb.1 hmean (againOk_of_le (by omega)))
  have hcall := h.call
  by_cases hmore : offset + inf < resp.length
  · -- the call has it at hand
    rw [if_pos hmore] at hcall
    rw [step_repeat hcall hr]
    have hgave' : Gave resp inf offset n { p with
        handler := p.handler.counted.again, last := some (Peer.chunk p.handler resp inf offset) } :=
      ⟨h.number, rfl, by rw [if_pos hmore]; exact hcall⟩
    exact ⟨rfl, hgave', hoffers.again_of_gave hretr hidle hgave' rfl rfl, rfl⟩
  · -- the call is over, and the card remembers it
    rw [if_neg hmore] at hcall
    rw [step_again hcall h.last hr]
    have hgave' : Gave resp inf offset n { p with handler := p.handler.counted.again } :=
      ⟨h.number, h.last, by rw [if_neg hmore]; exact hcall⟩
    exact ⟨rfl, hgave', hoffers.again_of_gave hretr hidle hgave' rfl rfl, rfl⟩

/-- **An R(ACK) brings the chunk**, whether the one before it has arrived or not. -/
theorem Offers.rack (h : Offers m resp inf offset n (a + 1) (f + 1) p)
    (hrole : p.handler.role = .picc) (hb : b.IsRack n) (respond : List ChainVec → List UInt8)
    (fsd : Nat) : Brings m resp inf offset n a f p (p.step respond fsd b) := by
  rcases h.stands with ⟨hnext, hle⟩ | ⟨hgave, hretr, hidle⟩
  · exact hnext.rack hrole hb h.chain h.frames h.again hle respond fsd
  · exact hgave.rack h hretr hidle hrole hb respond fsd

/-- A chunk of a command with more to come is taken in, and acknowledged. -/
theorem step_taken (hcall : p.call = .receiveCommand) (hrole : p.handler.role = .picc)
    (ht : b.blockType = .iBlock) (hc : b.isChaining = true)
    (hn : p.handler.blockNumber = 1 - b.blockNumber) (hf : p.handler.FrameOk)
    (hl : p.handler.chain.length + b.payload.length ≤ p.handler.limits.maxChainLen)
    (hb : Fits chainCap (p.handler.chain.length + b.payload.length))
    (respond : List ChainVec → List UInt8) (fsd : Nat) : p.step respond fsd b =
      (some p.handler.advanced.buildRack, { p with
        handler := (p.handler.counted.extended b.payload).advanced
        last := some p.handler.advanced.buildRack }) := by
  have hrep : ¬ p.handler.repeatsLastIblock b := by
    rw [repeats_picc hrole b, hn]
    simpa using ne_one_sub b.blockNumber
  exact step_rack (Or.inl hcall) (Received.eq (.chained hf ht hrep hl hb hc))

/-- The last chunk completes it: the application is handed the command, and answers. -/
theorem step_completed (hcall : p.call = .receiveCommand) (hrole : p.handler.role = .picc)
    (ht : b.blockType = .iBlock) (hc : b.isChaining = false)
    (hn : p.handler.blockNumber = 1 - b.blockNumber) (hf : p.handler.FrameOk)
    (hl : p.handler.chain.length + b.payload.length ≤ p.handler.limits.maxChainLen)
    (hb : Fits chainCap (p.handler.chain.length + b.payload.length))
    (respond : List ChainVec → List UInt8) (fsd : Nat) : p.step respond fsd b =
      (p.handing (p.handler.chain ++ b.payload)).sendChunk
        (respond (p.handed ++ [p.handler.chain ++ b.payload])) (maxInf fsd p.handler) 0 := by
  have hrep : ¬ p.handler.repeatsLastIblock b := by
    rw [repeats_picc hrole b, hn]
    simpa using ne_one_sub b.blockNumber
  have hr := Received.eq (.complete hf ht hrep hl hb (by simp [hc]))
  exact step_complete hcall hr

/-- A card keeps its CID and its limits. -/
def Keeps (p p' : Peer) : Prop :=
  p'.handler.cid = p.handler.cid ∧ p'.handler.limits = p.handler.limits

omit [Build] in
/-- A chunk on its way changes none of the peer's settings. -/
theorem keeps_sendChunk (p : Peer) (data : List UInt8) (inf offset : Nat) :
    p.Keeps (p.sendChunk data inf offset).2 := by
  simp only [sendChunk]
  split <;> exact ⟨rfl, rfl⟩

/-- A step of the peer changes none of its settings. -/
theorem keeps_step (p : Peer) (respond : List ChainVec → List UInt8) (fsd : Nat) (b : Block) :
    p.Keeps (p.step respond fsd b).2 := by
  have hcid := receive_cid p.handler b
  have hlimits : (receive p.handler b).2.limits = p.handler.limits :=
    Event.limits_eq (real_event p.handler b)
  obtain ⟨call, handler, last, handed⟩ := p
  cases hr : receive handler b with
  | mk r k =>
    rw [hr] at hcid hlimits
    simp only [Peer.step, hr]
    have hsend : ∀ (p : Peer) data inf offset, p.handler = k →
        Keeps ⟨call, handler, last, handed⟩ (p.sendChunk data inf offset).2 := by
      rintro p data inf offset rfl
      obtain ⟨h1, h2⟩ := keeps_sendChunk p data inf offset
      exact ⟨h1.trans hcid, h2.trans hlimits⟩
    split
    · exact hsend _ _ _ _ rfl
    · split <;> exact ⟨hcid, hlimits⟩
    · exact hsend _ _ _ _ rfl
    · exact ⟨hcid, hlimits⟩
    · split <;> exact ⟨hcid, hlimits⟩
    · exact ⟨hcid, hlimits⟩

end Peer

/-! ## What a session never changes

  Collected into one value, so that two states of a session can be compared by one equation. -/

/-- The parameters of a session, on both sides.  No exchange changes them, and the lengths of the
    chunks are computed from them. -/
structure Setting where
  hwCrc : Bool
  fsc : Nat
  fsd : Nat
  cid : Option Cid
  limits : Limits
  cardCid : Option Cid
  cardLimits : Limits

/-- The parameters of this one. -/
def Reader.setting (s : Reader) : Setting where
  hwCrc := s.hwCrc
  fsc := s.fsc
  fsd := s.fsd
  cid := s.handler.cid
  limits := s.handler.limits
  cardCid := s.card.session.picc.handler.cid
  cardLimits := s.card.session.picc.handler.limits

namespace Setting

/-- The payload bytes of a command that fit one I-Block. -/
def commandInf (g : Setting) : Nat := g.fsc - (3 + if g.cid.isSome then 1 else 0)

/-- The payload bytes of a response that fit one I-Block. -/
def responseInf (g : Setting) : Nat := g.fsd - (3 + if g.cardCid.isSome then 1 else 0)

end Setting

namespace Reader

open Pcd

variable {respond : List ChainVec → List UInt8} {s : Reader} {w : Wire}

/-- The chunk size of the responses is the one of the setting. -/
theorem Linked.responseInf_setting (h : Linked respond s w) :
    Peer.maxInf s.fsd w.peer.handler = s.setting.responseInf := by
  rw [← h.shows.handler]
  rfl

/-- The parameters are those of the reader and of the peer. -/
theorem Linked.setting_eq (h : Linked respond s w) : s.setting =
    ⟨s.hwCrc, s.fsc, s.fsd, s.handler.cid, s.handler.limits, w.peer.handler.cid,
      w.peer.handler.limits⟩ := by
  rw [← h.shows.handler]
  rfl

/-- A setting is read off the two sides. -/
theorem Linked.eq_of_setting {g : Setting} (h : Linked respond s w) (hg : s.setting = g) : g =
    ⟨s.hwCrc, s.fsc, s.fsd, s.handler.cid, s.handler.limits, w.peer.handler.cid,
      w.peer.handler.limits⟩ := by
  rw [← hg, h.setting_eq]

/-- A call leaves them alone. -/
theorem Linked.setting_call {t : Tally Link Unit} {w' : Wire} (h : Linked respond s w)
    (h' : Linked respond (s.withTransceiver t) w') (hkeeps : w.peer.Keeps w'.peer) :
    setting (s.withTransceiver t) = s.setting := by
  rw [h.setting_eq, h'.setting_eq, hkeeps.1, hkeeps.2]
  rfl

/-! ## Asking for a chunk

  A call and its retries.  The calls that fail move only the card, and only within its offer. -/

section Asking

variable [Build] {resp : List UInt8} {inf offset m : Nat} {n : Fin 2}

/-- One R(ACK) over the wire: the chunk, if it is delivered, and nothing otherwise. -/
theorem Wire.call_offers {a f : Nat} {w : Wire} {b : Block}
    (h : w.peer.Offers m resp inf offset n (a + 1) (f + 1)) (hrole : w.peer.handler.role = .picc)
    (hb : b.IsRack n) (respond : List ChainVec → List UInt8) (fsd : Nat) :
    let out := w.call respond fsd b
    out.2.peer.Offers m resp inf offset n a f ∧ out.2.peer.handed = w.peer.handed ∧
      w.peer.Keeps out.2.peer ∧
      if w.fates.getD 0 .delivered = .delivered then
        out.1 = some (Peer.chunk out.2.peer.handler resp inf offset) ∧
          out.2.peer.Gave resp inf offset n
      else out.1 = none := by
  obtain ⟨hout, hgave, hoffers, hhanded⟩ := h.rack hrole hb respond fsd
  have hkeeps := w.peer.keeps_step respond fsd b
  have hlost := h.mono (Nat.le_succ a) (Nat.le_succ f)
  obtain ⟨peer, fates⟩ := w
  cases fates with
  | nil => exact ⟨hoffers, hhanded, hkeeps, hout, hgave⟩
  | cons fate fates =>
    cases fate with
    | delivered => exact ⟨hoffers, hhanded, hkeeps, hout, hgave⟩
    | frameLost => exact ⟨hlost, rfl, ⟨rfl, rfl⟩, rfl⟩
    | answerLost => exact ⟨hoffers, hhanded, hkeeps, rfl⟩

/-- A call that is delivered. -/
theorem Wire.call_next (respond : List ChainVec → List UInt8) (fsd : Nat) {w : Wire} (b : Block)
    (h : w.fates.getD 0 .delivered = .delivered) : w.call respond fsd b =
      ((w.peer.step respond fsd b).1, ⟨(w.peer.step respond fsd b).2, w.fates.tail⟩) := by
  refine Wire.call_delivered respond fsd b fun fate hfate => ?_
  cases hw : w.fates with
  | nil => rw [hw] at hfate; cases hfate
  | cons f fates =>
    rw [hw] at h hfate
    cases hfate
    exact h

/-- The reader asked for a chunk: it has it, after `q` calls that failed.  Each of these calls was
    the same R(ACK), and used up one of the fates. -/
structure Got (respond : List ChainVec → List UInt8) (m : Nat) (resp : List UInt8)
    (inf offset : Nat) (n : Fin 2) (f : Nat) (s : Reader) (w : Wire) (q : Nat)
    (t : Tally Link Unit) (w' : Wire) : Prop where
  linked : Linked respond (s.withTransceiver t) w'
  gave : w'.peer.Gave resp inf offset n
  offers : w'.peer.Offers m resp inf offset n 0 f
  handed : w'.peer.handed = w.peer.handed
  keeps : w.peer.Keeps w'.peer
  fates : w'.fates = w.fates.drop (q + 1)
  calls : calls (s.withTransceiver t) = s.calls ++
    (List.replicate q (logged s.hwCrc s.handler.buildRack none) ++
      [logged s.hwCrc s.handler.buildRack (some (Peer.chunk w'.peer.handler resp inf offset))])

/-- The first call is delivered. -/
theorem ask_delivered {a f : Nat} (h : Linked respond s w) (hn : s.handler.blockNumber = n)
    (hoffers : w.peer.Offers m resp inf offset n (a + 1) (f + 1))
    (hfate : w.fates.getD 0 .delivered = .delivered) (k : Nat) :
    ∃ t w', Got respond m resp inf offset n f s w 0 t w' ∧ (retry true (k + 1)).run s =
      (.ok (Peer.chunk w'.peer.handler resp inf offset).wire, s.withTransceiver t) := by
  obtain ⟨t, hrun, hl, hcalls⟩ := h.call h.sendable_rack fun hlast => absurd hlast hoffers.last_ne
  obtain ⟨ho, hh, hkeeps, hres⟩ := Wire.call_offers hoffers h.sound.role
    (hn ▸ isRack_buildRack s.handler) respond s.fsd
  rw [if_pos hfate] at hres
  rw [hres.1] at hrun hcalls
  refine ⟨t, _, ⟨hl, hres.2, ho.mono (Nat.zero_le _) (Nat.le_refl _), hh, hkeeps, ?_, hcalls⟩, ?_⟩
  · rw [Wire.call_fates, List.drop_one]
  · rw [retry, Act.run_get_bind, if_pos rfl, Act.run_bind_ok (Act.run_attempt_ok hrun)]
    rfl

/-- The reader asks with an R(ACK) of its own, time after time. -/
theorem run_transceiveWithRecovery (s : Reader) :
    (transceiveWithRecovery s.handler.buildRack true).run s = (retry true (maxRetries + 1)).run s := by
  rw [transceiveWithRecovery, retry, Act.run_get_bind, if_pos rfl]

/-- **Asking brings the chunk**, if one of the calls that the reader makes is delivered.  Every
    call that fails either never reached the card or made it send the chunk, so the next one is as
    good. -/
theorem ask {f : Nat} (j : Nat) : ∀ {k : Nat} {s : Reader} {w : Wire}, Linked respond s w →
    s.handler.blockNumber = n → w.peer.Offers m resp inf offset n (j + 1) (j + 1 + f) →
    w.fates.getD j .delivered = .delivered → j < k →
    ∃ q t w', q ≤ j ∧ Got respond m resp inf offset n f s w q t w' ∧
      (retry true k).run s =
        (.ok (Peer.chunk w'.peer.handler resp inf offset).wire, s.withTransceiver t) := by
  induction j with
  | zero =>
    intro k s w h hn hoffers hfate hk
    obtain ⟨k, rfl⟩ : ∃ k', k = k' + 1 := ⟨k - 1, by omega⟩
    have hoffers : w.peer.Offers m resp inf offset n (0 + 1) (f + 1) :=
      hoffers.mono (Nat.le_refl _) (by omega)
    obtain ⟨t, w', hgot, hrun⟩ := ask_delivered h hn hoffers hfate k
    exact ⟨0, t, w', Nat.le_refl _, hgot, hrun⟩
  | succ j ih =>
    intro k s w h hn hoffers hfate hk
    obtain ⟨k, rfl⟩ : ∃ k', k = k' + 1 := ⟨k - 1, by omega⟩
    by_cases hd : w.fates.getD 0 .delivered = .delivered
    · -- the first call is delivered already
      have hoffers : w.peer.Offers m resp inf offset n (0 + 1) (f + 1) :=
        hoffers.mono (by omega) (by omega)
      obtain ⟨t, w', hgot, hrun⟩ := ask_delivered h hn hoffers hd k
      exact ⟨0, t, w', Nat.zero_le _, hgot, hrun⟩
    · -- it fails, and the reader asks again
      have hoffers : w.peer.Offers m resp inf offset n (j + 1 + 1) (j + 1 + f + 1) :=
        hoffers.mono (Nat.le_refl _) (by omega)
      obtain ⟨t, hrun, hl, hcalls⟩ :=
        h.call h.sendable_rack fun hlast => absurd hlast hoffers.last_ne
      obtain ⟨ho, hh, hkeeps, hres⟩ := Wire.call_offers hoffers h.sound.role
        (hn ▸ isRack_buildRack s.handler) respond s.fsd
      rw [if_neg hd] at hres
      rw [hres] at hrun hcalls
      have hfates := Wire.call_fates respond s.fsd w s.handler.buildRack
      have hfate' : (w.call respond s.fsd s.handler.buildRack).2.fates.getD j .delivered =
          .delivered := by
        rw [hfates, ← List.drop_one]
        simpa [List.getD_eq_getElem?_getD, Nat.add_comm] using hfate
      obtain ⟨q, t', w', hq, hgot, hrun'⟩ := ih hl hn ho hfate' (by omega : j < k)
      refine ⟨q + 1, t', w', by omega, ?_, ?_⟩
      · refine ⟨hgot.linked, hgot.gave, hgot.offers, hgot.handed.trans hh, ?_, ?_, ?_⟩
        · exact ⟨hgot.keeps.1.trans hkeeps.1, hgot.keeps.2.trans hkeeps.2⟩
        · rw [hgot.fates, hfates, List.drop_tail]
        · have hcalls' := hgot.calls
          rw [hcalls, List.append_assoc] at hcalls'
          exact hcalls'
      · rw [retry, Act.run_get_bind, if_pos rfl, Act.run_bind_ok (Act.run_attempt_err hrun)]
        exact hrun'

end Asking

end Reader

end Iso14443
