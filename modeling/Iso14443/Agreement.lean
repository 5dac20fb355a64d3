/-
  Agreement over a lossy link (`Pcd::exchange` against `Picc::receive_command` and
  `Picc::send_response`).

  A reader and a card of this library are joined by a link that loses any frames it likes, and go
  through exchange after exchange.  The limits may be anything, so exchanges fail in every way
  there is; the question is whether the two sides ever disagree.

  * **The response** never goes wrong.  `Asked`: the reader asks for a chunk until it gets a block,
    and what it gets is that chunk, or an older one that its number gives away.  So the response it
    assembles is the one the card sends (`collectResponse_agrees`).
  * **The command** goes right from a clean start: the card is handed the command the reader sends,
    or nothing (`sendLoop_agrees`).  The invariant is `Fitting`: the chunk at `offset` finds the
    card with the command up to there.

  The reader keeps its block number when an exchange fails on the way out, and the card keeps the
  chain it has: the next exchange may start where the card takes its first block for an old one, or
  for the rest of an old one.  That is what `Clean` excludes, a condition on the two sides before
  the exchange and on the losses to come.

  * `exchange_agrees`   — one exchange.
  * `exchanges_agree`   — all of them, from `connect` on.
-/
import Iso14443.LinkSend
import Iso14443.LinkStart

namespace Iso14443.Reader

open ProtocolHandler Pcd

variable [Build] {respond : List ChainVec → List UInt8} {s : Reader} {w : Wire}

/-! ## The response

  The reader asks for one chunk after the other, with recovery.  An answer that is not the chunk it
  waits for carries the other number, and is passed over; so nothing is assembled twice or left
  out. -/

section Response

variable {resp : List UInt8} {inf offset : Nat} {n : Fin 2}

/-- The reader asked for the chunk at `offset`: it has a block now, or an error, and the card is
    still ready for the next question. -/
def Asked (respond : List ChainVec → List UInt8) (resp : List UInt8) (inf offset : Nat) (n : Fin 2)
    (w : Wire) (s : Reader) (out : Res (PcdError Unit) Block × Reader) : Prop :=
  ∃ t w', out.2 = s.withTransceiver t ∧ Linked respond out.2 w' ∧ w'.peer.handed = w.peer.handed ∧
    w'.peer.Awaited resp inf offset n ∧
    ((∃ e, out.1 = .err e) ∨ ∃ a, out.1 = .ok a.wire ∧ w'.peer.Given resp inf offset n a)

/-- One R(ACK). -/
theorem asked_once (h : Linked respond s w) (hn : s.handler.blockNumber = n)
    (ha : w.peer.Awaited resp inf offset n) :
    Asked respond resp inf offset n w s ((transceiveBlock s.handler.buildRack).run s) := by
  have hrack : s.handler.buildRack.IsRack n := hn ▸ isRack_buildRack s.handler
  obtain ⟨t, hrun, hl, -⟩ := h.call h.sendable_rack fun hlast => absurd hlast ha.last_ne
  obtain ⟨hhanded, hawaited, hgiven⟩ := ha.rack respond s.fsd h.sound.role hrack
  rw [hrun]
  refine ⟨t, _, rfl, hl, ?_⟩
  rcases Wire.call_cases respond s.fsd w s.handler.buildRack with ⟨hnone, hpeer⟩ | ⟨hpeer, hsome⟩
  · rw [hpeer, hnone]
    exact ⟨rfl, ha, Or.inl ⟨_, rfl⟩⟩
  · rw [hpeer]
    refine ⟨hhanded, hawaited, ?_⟩
    cases hout : (w.call respond s.fsd s.handler.buildRack).1 with
    | none => exact Or.inl ⟨_, rfl⟩
    | some a => exact Or.inr ⟨a, rfl, hgiven a (hsome a hout)⟩

omit [Build] in
/-- Asking again after an error. -/
theorem Asked.again {t : Tally Link Unit} {w' : Wire} {out : Res (PcdError Unit) Block × Reader}
    (hhanded : w'.peer.handed = w.peer.handed)
    (h : Asked respond resp inf offset n w' (s.withTransceiver t) out) :
    Asked respond resp inf offset n w s out := by
  obtain ⟨t', w'', hout, hl, hh, hrest⟩ := h
  exact ⟨t', w'', hout, hl, hh.trans hhanded, hrest⟩

/-- The retries, Rule 5. -/
theorem asked_retry (k : Nat) : ∀ {s : Reader} {w : Wire}, Linked respond s w →
    s.handler.blockNumber = n → w.peer.Awaited resp inf offset n →
    Asked respond resp inf offset n w s ((retry true k).run s) := by
  induction k with
  | zero =>
    intro s w h hn ha
    exact ⟨s.transceiver, w, rfl, h, rfl, ha, Or.inl ⟨_, rfl⟩⟩
  | succ k ih =>
    intro s w h hn ha
    obtain ⟨t, w', hout, hl, hh, haw, hres⟩ := asked_once h hn ha
    simp only [retry, Act.run_get_bind, if_true]
    rcases hres with ⟨e, he⟩ | ⟨a, hok, hgiven⟩
    · rw [hout] at hl
      rw [Act.run_bind_ok (Act.run_attempt_err (Prod.ext he hout))]
      exact (ih hl hn haw).again hh
    · rw [Act.run_bind_ok (Act.run_attempt_ok (Prod.ext hok hout))]
      rw [hout] at hl
      exact ⟨t, w', rfl, hl, hh, haw, Or.inr ⟨a, rfl, hgiven⟩⟩

/-- **Asking with recovery** brings the chunk, or an older one, or an error. -/
theorem asked_recovery (h : Linked respond s w) (hn : s.handler.blockNumber = n)
    (ha : w.peer.Awaited resp inf offset n) : Asked respond resp inf offset n w s
      ((transceiveWithRecovery s.handler.buildRack true).run s) := by
  obtain ⟨t, w', hout, hl, hh, haw, hres⟩ := asked_once h hn ha
  simp only [transceiveWithRecovery]
  rcases hres with ⟨e, he⟩ | ⟨a, hok, hgiven⟩
  · rw [hout] at hl
    rw [Act.run_bind_ok (Act.run_attempt_err (Prod.ext he hout))]
    exact (asked_retry maxRetries hl hn haw).again hh
  · rw [Act.run_bind_ok (Act.run_attempt_ok (Prod.ext hok hout))]
    rw [hout] at hl
    exact ⟨t, w', rfl, hl, hh, haw, Or.inr ⟨a, rfl, hgiven⟩⟩

/-- What collecting the response comes to: the link is kept, the card hands nothing over, and what is
    returned is the response. -/
def Gathers (respond : List ChainVec → List UInt8) (resp : List UInt8) (w : Wire)
    (out : Res (PcdError Unit) ChainVec × Reader) : Prop :=
  ∃ w', Linked respond out.2 w' ∧ w'.peer.handed = w.peer.handed ∧ ∀ r, out.1 = .ok r → r = resp

/-- **The reader asks for the chunk at some offset**, with its chain up to there, and collects on from
    what it is given. -/
theorem asked_collect {fuel : Nat} (hnext : ∀ {s : Reader} {w : Wire} {a : Block},
      Linked respond s w → s.handler.chain = resp.take offset →
      w.peer.Given resp inf offset s.handler.blockNumber a →
      Gathers respond resp w ((collectResponse fuel a.wire).run s))
    (h : Linked respond s w) {k : ProtocolHandler} (hk : k.role = .pcd)
    (hchain : k.chain = resp.take offset) (haw : w.peer.Awaited resp inf offset k.blockNumber) :
    Gathers respond resp w ((do
      let block ← transceiveWithRecovery k.buildRack true
      collectResponse fuel block : Act Reader (PcdError Unit) ChainVec).run
        { s with handler := k }) := by
  obtain ⟨t, w', hout, hl, hh, haw', hres⟩ :=
    asked_recovery (h.withHandler hk) (s := { s with handler := k }) rfl haw
  rcases hres with ⟨e, he⟩ | ⟨x, hok, hg⟩
  · rw [Act.run_bind_err (Prod.ext he hout)]
    rw [hout] at hl
    exact ⟨w', hl, hh, by simp⟩
  · rw [Act.run_bind_ok (Prod.ext hok hout)]
    rw [hout] at hl
    obtain ⟨w'', hl', hh', hr⟩ := hnext hl hchain hg
    exact ⟨w'', hl', hh'.trans hh, hr⟩

omit [Build] in
/-- What a reader is given is an I-Block. -/
theorem blockType_of_given {p : Peer} {a : Block} (h : p.Given resp inf offset n a) :
    a.blockType = .iBlock := by
  cases h with
  | chunk _ ha => rw [ha]; exact (Peer.blockType_chunk _ _ _ _).1
  | stale _ ht _ => exact ht

omit [Build] in
/-- A block that the reader does not take for a repeated one is the chunk it asked for. -/
theorem chunk_of_given {p : Peer} {h : ProtocolHandler} {a : Block} (hrole : h.role = .pcd)
    (hgiven : p.Given resp inf offset h.blockNumber a) (hrep : h.repeatsLastIblock a = false) :
    Peer.Holding resp inf offset h.blockNumber p ∧ a = Peer.chunk p.handler resp inf offset := by
  cases hgiven with
  | chunk hh ha => exact ⟨hh, ha⟩
  | stale _ _ hn =>
    have hnum : a.blockNumber = h.blockNumber := by
      simpa [repeatsLastIblock, hrole] using hrep
    exact absurd (hnum.symm.trans hn) (ne_one_sub _)

/-- **The response the reader assembles is the one the card sends.**  The block at hand is the chunk
    at the offset the reader has come to, or an older block that it has already; the induction is on
    the fuel of the loop. -/
theorem collectResponse_agrees (fuel : Nat) : ∀ {s : Reader} {w : Wire} {offset : Nat} {a : Block},
    Linked respond s w → s.handler.chain = resp.take offset →
    w.peer.Given resp inf offset s.handler.blockNumber a →
    Gathers respond resp w ((collectResponse fuel a.wire).run s) := by
  induction fuel with
  | zero =>
    intro s w offset a h _ _
    exact ⟨w, h, rfl, by simp [collectResponse]⟩
  | succ fuel ih =>
    intro s w offset a h hchain hgiven
    have hrole := (receive_role s.handler a).trans h.role
    rcases receive_iblock s.handler (blockType_of_given hgiven) with ⟨e, k, hr, -⟩ | ⟨hrep, hr⟩ |
      ⟨hrep, hchaining, hr⟩ | ⟨hrep, hchaining, hr⟩ <;> rw [hr] at hrole <;>
      rw [← receive_wire] at hr
    · refine ⟨w, ?_, rfl, ?_⟩ <;>
        rw [collectResponse, Act.run_bind, run_onHandler_receive, hr]
      · exact h.withHandler hrole
      · simp
    · -- an older chunk is acknowledged once more
      rw [run_collectResponse hr]
      exact asked_collect ih h (k := s.handler.counted.again) hrole hchain hgiven.awaited
    · -- the chunk, with another one to come
      rw [run_collectResponse hr]
      obtain ⟨hh, ha⟩ := chunk_of_given h.role hgiven hrep
      obtain ⟨-, -, -, hpay⟩ := Peer.blockType_chunk w.peer.handler resp inf offset
      refine asked_collect ih h (k := (s.handler.counted.extended a.payload).advanced) hrole ?_ hh.next
      rw [advanced_chain, extended_chain, counted_chain, hchain, ha, hpay, take_append_chunkAt]
    · -- the last chunk
      rw [run_collectResponse hr]
      obtain ⟨hh, ha⟩ := chunk_of_given h.role hgiven hrep
      refine ⟨w, h.withHandler hrole, rfl, ?_⟩
      rintro r hok
      cases hok
      obtain ⟨-, -, hmore, hpay⟩ := Peer.blockType_chunk w.peer.handler resp inf offset
      rw [ha, hmore] at hchaining
      rw [hchain, ha, hpay, take_append_chunkAt]
      exact List.take_of_length_le (Nat.le_of_not_lt (of_decide_eq_false hchaining))

end Response

/-! ## The command

  Chunk after chunk, without recovery.  The reader toggles its number with each acknowledgement,
  and so does the card with each chunk it takes in; where they do not toggle together, a chunk is
  taken for a repeat of one the card has. -/

section Command

variable {apdu : List UInt8} {offset : Nat}

/-- The command does not arrive: the frame of one of its chunks from `offset` on is lost, or the
    answer to one before the last. -/
def Cut (s : Reader) (apdu : List UInt8) (offset : Nat) : Prop :=
  ∃ k, offset + k * s.maxInf < apdu.length ∧
    (s.transceiver.inner.fates[k]? = some .frameLost ∨
      (s.transceiver.inner.fates[k]? = some .answerLost ∧
        offset + (k + 1) * s.maxInf < apdu.length))

/-- The chunk at `offset` finds the card where it must: if it waits for a command, it has the
    command up to this chunk.  Where the numbers say that it has this chunk as well, it takes it for
    a repeated one: then it must have it indeed, or it is the last one, which is not an APDU then. -/
def Fitting (s : Reader) (apdu : List UInt8) (offset : Nat) : Prop :=
  s.card.session.call = some .receiveCommand →
    if s.card.session.picc.handler.blockNumber = s.handler.blockNumber then
      apdu.length ≤ offset + s.maxInf ∨
        s.card.session.picc.handler.chain = apdu.take (offset + s.maxInf)
    else s.card.session.picc.handler.chain = apdu.take offset

/-- Fitting is a list of comparisons. -/
instance (s : Reader) (apdu : List UInt8) (offset : Nat) : Decidable (s.Fitting apdu offset) :=
  inferInstanceAs (Decidable (_ → _))

/-- What the send loop leaves behind: no APDU, and no answer but an R-Block; or the APDU handed over
    exactly as it is, and the first chunk of its response. -/
def Sent (respond : List ChainVec → List UInt8) (apdu : List UInt8) (w : Wire)
    (out : Res (PcdError Unit) (Option Block) × Reader) : Prop :=
  ∃ w', Linked respond out.2 w' ∧
    ((w'.peer.handed = w.peer.handed ∧
      ∀ x, out.1 = .ok x → ∃ a, x = some (Block.wire a) ∧ a.blockType = .rBlock) ∨
    (w'.peer.handed = w.peer.handed ++ [apdu] ∧ ∀ x, out.1 = .ok x → out.2.handler.chain = [] ∧
      ∃ a inf, x = some (Block.wire a) ∧
        w'.peer.Given (respond w'.peer.handed) inf 0 out.2.handler.blockNumber a))

/-- A call with a chunk that has more to come: it is acknowledged, or there is no answer and the
    application has been handed nothing. -/
theorem Linked.call_chained (h : Linked respond s w) (hmore : offset + s.maxInf < apdu.length) :
    ((w.call respond s.fsd (s.commandChunk apdu offset)).1 = none ∧
      (w.call respond s.fsd (s.commandChunk apdu offset)).2.peer.handed = w.peer.handed) ∨
    ∃ rack, (w.call respond s.fsd (s.commandChunk apdu offset)).1 = some rack ∧
      Peer.Acked (s.commandChunk apdu offset) rack w.peer
        (w.call respond s.fsd (s.commandChunk apdu offset)).2.peer := by
  obtain ⟨ht, -, hc, -⟩ := s.blockType_commandChunk apdu offset
  rw [decide_eq_true hmore] at hc
  have hstep := Peer.step_chained h.sound respond ht hc
  rcases Wire.call_cases respond s.fsd w (s.commandChunk apdu offset) with ⟨hnone, hpeer⟩ |
    ⟨hpeer, hsome⟩
  · exact Or.inl ⟨hnone, by rw [hpeer]⟩
  · rw [hpeer]
    rcases hstep with ⟨hnone, hhanded⟩ | ⟨rack, hrack, hacked⟩
    · refine Or.inl ⟨?_, hhanded⟩
      cases hout : (w.call respond s.fsd (s.commandChunk apdu offset)).1 with
      | none => rfl
      | some a => rw [hsome a hout] at hnone; cases hnone
    · cases hout : (w.call respond s.fsd (s.commandChunk apdu offset)).1 with
      | none => exact Or.inl ⟨rfl, hacked.handed⟩
      | some a =>
        obtain rfl : a = rack := by
          have ha := hsome a hout
          rw [hrack] at ha
          cases ha
          rfl
        exact Or.inr ⟨a, rfl, hacked⟩

/-- A call with the last chunk: either nothing is handed over and an answer, if there is one, is an
    R-Block; or the command is handed over and the answer is the first chunk of its response. -/
theorem Linked.call_last (h : Linked respond s w) (hend : apdu.length ≤ offset + s.maxInf) :
    ((w.call respond s.fsd (s.commandChunk apdu offset)).2.peer.handed = w.peer.handed ∧
      ∀ a ∈ (w.call respond s.fsd (s.commandChunk apdu offset)).1, a.blockType = .rBlock) ∨
    (w.peer.call = .receiveCommand ∧ w.peer.handler.blockNumber ≠ s.handler.blockNumber ∧
      let p := w.peer.handing (w.peer.handler.chain ++ chunkAt apdu s.maxInf offset)
      let next := p.sendChunk (respond p.handed) (Peer.maxInf s.fsd w.peer.handler) 0
      (w.call respond s.fsd (s.commandChunk apdu offset)).2.peer = next.2 ∧
        ∀ a ∈ (w.call respond s.fsd (s.commandChunk apdu offset)).1, next.1 = some a) := by
  obtain ⟨ht, hn, hc, hpay⟩ := s.blockType_commandChunk apdu offset
  rw [decide_eq_false (Nat.not_lt.mpr hend)] at hc
  have hstep := Peer.step_last h.sound respond ht hc
  rw [hn, hpay] at hstep
  rcases Wire.call_cases respond s.fsd w (s.commandChunk apdu offset) with ⟨hnone, hpeer⟩ |
    ⟨hpeer, hsome⟩
  · exact Or.inl ⟨by rw [hpeer], by simp [hnone]⟩
  · rcases hstep with ⟨hnone, hhanded⟩ | ⟨-, rack, hrack, ht, hhanded⟩ | ⟨hcall, hne, hnext⟩
    · refine Or.inl ⟨by rw [hpeer, hhanded], ?_⟩
      intro a ha
      rw [hsome a ha] at hnone
      cases hnone
    · refine Or.inl ⟨by rw [hpeer, hhanded], ?_⟩
      intro a ha
      rw [hsome a ha] at hrack
      cases hrack
      exact ht
    · refine Or.inr ⟨hcall, hne, ?_, ?_⟩
      · rw [hpeer, hnext]
        rfl
      · intro a ha
        have hout := hsome a ha
        rw [hnext] at hout
        exact hout

omit [Build] in
/-- Where the card stands is where its peer does. -/
theorem Linked.fitting_iff (h : Linked respond s w) : s.Fitting apdu offset ↔
    (w.peer.call = .receiveCommand →
      if w.peer.handler.blockNumber = s.handler.blockNumber then
        apdu.length ≤ offset + s.maxInf ∨ w.peer.handler.chain = apdu.take (offset + s.maxInf)
      else w.peer.handler.chain = apdu.take offset) := by
  rw [Fitting, h.shows.call, h.shows.handler, Option.some.injEq]

/-- After a chunk that was acknowledged the next one fits again, or the command does not arrive: the
    card has it up to the next chunk, or the loss that cuts it short is still to come. -/
theorem Linked.next_fitting (h : Linked respond s w) (hmore : offset + s.maxInf < apdu.length)
    (hfit : s.Cut apdu offset ∨ s.Fitting apdu offset) {rack : Block}
    (hsome : (w.call respond s.fsd (s.commandChunk apdu offset)).1 = some rack)
    (hacked : Peer.Acked (s.commandChunk apdu offset) rack w.peer
      (w.call respond s.fsd (s.commandChunk apdu offset)).2.peer) {t : Tally Link Unit}
    {s' : Reader} (hs' : s' = { s.withTransceiver t with handler := s.handler.counted.advanced })
    (h' : Linked respond s' (w.call respond s.fsd (s.commandChunk apdu offset)).2) :
    s'.Cut apdu (offset + s.maxInf) ∨ s'.Fitting apdu (offset + s.maxInf) := by
  obtain ⟨-, hn, -, hpay⟩ := s.blockType_commandChunk apdu offset
  have hmax : s'.maxInf = s.maxInf := by rw [hs']; rfl
  have hnum : s'.handler.blockNumber = 1 - s.handler.blockNumber := by rw [hs']; rfl
  have hfates := Wire.call_fates respond s.fsd w (s.commandChunk apdu offset)
  rcases hfit with ⟨k, hk, hfate⟩ | hfit
  · rw [h.fates] at hfate
    cases k with
    | zero =>
      -- this call was answered
      rcases hfate with hfate | ⟨hfate, -⟩ <;> cases Wire.call_some hsome hfate
    | succ k =>
      refine Or.inl ⟨k, ?_⟩
      rw [h'.fates, hfates, List.getElem?_tail, hmax]
      rw [Nat.succ_mul] at hk
      rw [Nat.succ_mul (k + 1)] at hfate
      exact ⟨by omega, hfate.imp_right fun hf => ⟨hf.1, by omega⟩⟩
  · refine Or.inr (h'.fitting_iff.mpr fun hcall => ?_)
    have hfit := h.fitting_iff.mp hfit (hacked.call.symm.trans hcall)
    rw [if_neg (by rw [hacked.number, hn, hnum]; exact ne_one_sub _)]
    rcases hacked.handler with ⟨heq, hk⟩ | ⟨hne, hk⟩
    · rw [if_pos (heq.trans hn)] at hfit
      rw [hk]
      exact hfit.resolve_left (Nat.not_le.mpr hmore)
    · rw [if_neg (hn ▸ hne)] at hfit
      rw [hk, advanced_chain, extended_chain, counted_chain, hfit, hpay, take_append_chunkAt]

omit [Build] in
/-- The last chunk is lost, or fits. -/
theorem Linked.last_fitting (h : Linked respond s w)
    (hend : apdu.length ≤ offset + s.maxInf) (hfit : s.Cut apdu offset ∨ s.Fitting apdu offset) :
    w.fates[0]? = some .frameLost ∨ s.Fitting apdu offset := by
  rcases hfit with ⟨k, hk, hfate⟩ | hfit
  · rw [h.fates] at hfate
    cases k with
    | zero =>
      refine Or.inl (hfate.resolve_right fun hf => ?_)
      have := hf.2
      omega
    | succ k =>
      rw [Nat.succ_mul] at hk
      omega
  · exact Or.inr hfit

/-- The send loop from the last chunk on: if the call is answered with the response, the card has
    handed over the whole command, since the chunk fitted. -/
theorem sendLoop_sent_last (h : Linked respond s w) (hchain : s.handler.chain = [])
    (hoff : offset < apdu.length) (hend : apdu.length ≤ offset + s.maxInf)
    (hfit : s.Cut apdu offset ∨ s.Fitting apdu offset) (fuel : Nat) :
    Sent respond apdu w ((sendLoop apdu s.maxInf (fuel + 1) offset none).run s) := by
  -- without an answer the loop fails, with one it ends
  have hout : ∀ P : Res (PcdError Unit) (Option Block) × Reader → Prop,
      (∀ t e, Linked respond (s.withTransceiver t)
        (w.call respond s.fsd (s.commandChunk apdu offset)).2 → P (.err e, s.withTransceiver t)) →
      (∀ t, ∀ a ∈ (w.call respond s.fsd (s.commandChunk apdu offset)).1,
        Linked respond (s.withTransceiver t)
          (w.call respond s.fsd (s.commandChunk apdu offset)).2 →
        P (.ok (some a.wire), s.withTransceiver t)) →
      P ((sendLoop apdu s.maxInf (fuel + 1) offset none).run s) := by
    intro P hnone hsome
    cases hcall : (w.call respond s.fsd (s.commandChunk apdu offset)).1 with
    | none =>
      obtain ⟨t, e, hrun, hl⟩ := sendLoop_silent h hoff hcall fuel none
      rw [hrun]
      exact hnone t e hl
    | some a =>
      obtain ⟨t, hrun, hl, -⟩ := sendLoop_last h hoff hend hcall fuel none
      rw [hrun]
      exact hsome t a hcall hl
  rcases h.last_fitting hend hfit with hlost | hfit
  · obtain ⟨hnone, hpeer⟩ := Wire.call_frameLost respond s.fsd (s.commandChunk apdu offset) hlost
    refine hout _ (fun t e hl => ⟨_, hl, Or.inl ⟨by rw [hpeer], by simp⟩⟩) fun t a ha => ?_
    rw [hnone] at ha
    cases ha
  rcases h.call_last hend with ⟨hhanded, hrblock⟩ | ⟨hcall, hne, hpeer, hans⟩
  · refine hout _ (fun t e hl => ⟨_, hl, Or.inl ⟨hhanded, by simp⟩⟩) fun t a ha hl =>
      ⟨_, hl, Or.inl ⟨hhanded, ?_⟩⟩
    rintro x hx
    cases hx
    exact ⟨a, rfl, hrblock a ha⟩
  · -- the card hands over what it has, which is the command
    have hfit := h.fitting_iff.mp hfit hcall
    rw [if_neg hne] at hfit
    have hdata : w.peer.handler.chain ++ chunkAt apdu s.maxInf offset = apdu := by
      rw [hfit, take_append_chunkAt, List.take_of_length_le hend]
    rw [hdata] at hpeer hans
    obtain ⟨hchunk, hhold, hhanded, hcid⟩ := Peer.sendChunk_holding
      (respond (w.peer.handing apdu).handed) (Peer.maxInf s.fsd w.peer.handler) 0
      (p := w.peer.handing apdu) (show _ = s.handler.blockNumber from one_sub_of_ne hne)
    rw [← hpeer] at hhold hhanded hcid
    have hnext : ∀ x, x ∈ (w.call respond s.fsd (s.commandChunk apdu offset)).1 →
        (w.call respond s.fsd (s.commandChunk apdu offset)).2.peer.Given
          (respond (w.call respond s.fsd (s.commandChunk apdu offset)).2.peer.handed)
          (Peer.maxInf s.fsd w.peer.handler) 0 s.handler.blockNumber x := by
      intro a ha
      have haeq := hans a ha
      rw [hchunk] at haeq
      cases haeq
      rw [hhanded]
      exact .chunk hhold (Peer.chunk_congr hcid.symm
        ((show _ = s.handler.blockNumber from one_sub_of_ne hne).trans hhold.number.symm) _ _ _)
    refine hout _ (fun t e hl => ⟨_, hl, Or.inr ⟨hhanded, by simp⟩⟩) fun t a ha hl =>
      ⟨_, hl, Or.inr ⟨hhanded, ?_⟩⟩
    rintro x hx
    cases hx
    exact ⟨hchain, a, _, rfl, hnext a ha⟩

/-- **The send loop**, from a chunk that fits on: by induction on the fuel, one acknowledged chunk
    after the other. -/
theorem sendLoop_sent (fuel : Nat) : ∀ {s : Reader} {w : Wire} {offset : Nat}, Linked respond s w →
    s.handler.chain = [] → offset < apdu.length → (s.Cut apdu offset ∨ s.Fitting apdu offset) →
    Sent respond apdu w ((sendLoop apdu s.maxInf fuel offset none).run s) := by
  induction fuel with
  | zero =>
    intro s w offset h _ hoff _
    rw [sendLoop, if_pos hoff]
    exact ⟨w, h, Or.inl ⟨rfl, by simp⟩⟩
  | succ fuel ih =>
    intro s w offset h hchain hoff hfit
    by_cases hmore : offset + s.maxInf < apdu.length
    · rcases h.call_chained hmore with ⟨hnone, hhanded⟩ | ⟨rack, hsome, hacked⟩
      · obtain ⟨t, e, hrun, hl⟩ := sendLoop_silent h hoff hnone fuel none
        rw [hrun]
        exact ⟨_, hl, Or.inl ⟨hhanded, by simp⟩⟩
      · have hn := (s.blockType_commandChunk apdu offset).2.1
        obtain ⟨t, hrun, hl, -⟩ := sendLoop_acked h hmore hsome (hn ▸ hacked.rack) fuel none
        rw [hrun]
        by_cases hf : s.handler.FrameOk
        · rw [if_pos hf]
          have hl' := hl.withHandler (k := s.handler.counted.advanced) h.role
          obtain ⟨w', hl'', hrest⟩ := ih hl' hchain hmore (h.next_fitting hmore hfit hsome hacked
            rfl hl')
          rw [hacked.handed] at hrest
          exact ⟨w', hl'', hrest⟩
        · rw [if_neg hf]
          exact ⟨_, hl.withHandler h.role, Or.inl ⟨hacked.handed, by simp⟩⟩
    · exact sendLoop_sent_last h hchain hoff (Nat.le_of_not_lt hmore) hfit fuel

end Command

/-! ## The exchange

  The two loops one after the other.  A clean start is what the send loop needs, and the receive
  loop needs nothing. -/

/-- **A clean start of an exchange**: the command does not arrive anyway, or the card waits for it
    with nothing left of an older one, and does not take it for an older one unless that is short. -/
def Clean (s : Reader) (apdu : List UInt8) : Prop := s.Cut apdu 0 ∨ s.Fitting apdu 0

/-- One exchange: the card is handed the APDU or nothing, and a response is the one to this APDU.
    Both loops, one after the other: what the first one leaves in the reader's hands is an R-Block
    or the first chunk. -/
theorem exchange_agrees (fuel : Nat) {apdu : List UInt8} (h : Linked respond s w)
    (hclean : s.Clean apdu) : ∃ w', Linked respond ((exchange fuel apdu).run s).2 w' ∧
      (w'.peer.handed = w.peer.handed ∨ w'.peer.handed = w.peer.handed ++ [apdu]) ∧
      ∀ r, ((exchange fuel apdu).run s).1 = .ok r →
        w'.peer.handed = w.peer.handed ++ [apdu] ∧ r = respond w'.peer.handed := by
  have hbegin := h.withHandler (k := s.handler.beginExchange) h.role
  rw [run_exchange fuel apdu s h.maxInf_bounds.1]
  by_cases hoff : 0 < apdu.length
  · obtain ⟨w', hl, hsent⟩ := sendLoop_sent fuel hbegin rfl hoff hclean
    have hmax : ({ s with handler := s.handler.beginExchange } : Reader).maxInf = s.maxInf := rfl
    rw [hmax] at hl hsent
    have hhanded : w'.peer.handed = w.peer.handed ∨ w'.peer.handed = w.peer.handed ++ [apdu] :=
      hsent.imp And.left And.left
    rw [Act.run_bind]
    generalize (sendLoop apdu s.maxInf fuel 0 none).run
      { s with handler := s.handler.beginExchange } = out at hl hsent
    obtain ⟨r, s'⟩ := out
    cases r with
    | err e => exact ⟨w', hl, hhanded, by simp⟩
    | panic => exact ⟨w', hl, hhanded, by simp⟩
    | outOfFuel => exact ⟨w', hl, hhanded, by simp⟩
    | ok x =>
      dsimp only
      -- the send loop handed nothing over, or brought the first chunk of the response
      rcases hsent with ⟨-, hrblock⟩ | ⟨hnew, hchunk⟩
      · -- what it left is an R-Block, which ends the exchange
        obtain ⟨a, rfl, ht⟩ := hrblock x rfl
        obtain ⟨r, hr, k, hk, hrun⟩ := collectResponse_rblock hl.role (b := a.wire) ht fuel
        rw [Act.run_bind, run_lift, Res.okOr_some, Res.mapErr_ok]
        dsimp only
        rw [hrun]
        exact ⟨w', hl.withHandler hk, hhanded, fun data hdata => absurd hdata (hr data)⟩
      · obtain ⟨hchain, a, inf, rfl, hgiven⟩ := hchunk x rfl
        obtain ⟨w'', hl', hsame, hr⟩ :=
          collectResponse_agrees fuel hl (hchain.trans List.take_zero.symm) hgiven
        rw [Act.run_bind, run_lift, Res.okOr_some, Res.mapErr_ok]
        refine ⟨w'', hl', by rw [hsame]; exact hhanded, ?_⟩
        intro r hok
        rw [hsame]
        exact ⟨hnew, hr r hok⟩
  · -- an empty command is an error at once
    obtain rfl : apdu = [] := List.eq_nil_of_length_eq_zero (by omega)
    rw [Act.run_bind, sendLoop_done (by simp)]
    refine ⟨w, hbegin, Or.inl rfl, ?_⟩
    intro r hr
    cases hr

/-! ## All exchanges

  An exchange that starts clean leaves reader and card in their session, however it ends, so the
  next one can be asked the same question. -/

/-- One exchange as the step of a machine. -/
def exchanging (fuel : Nat) (s : Reader) (apdu : List UInt8) : Res (PcdError Unit) ChainVec × Reader :=
  (exchange fuel apdu).run s

/-- Reader and card agree in an exchange: the card is handed its APDU once, or nothing; and a response
    is the application's response to it. -/
structure Agrees (f : List UInt8 → List UInt8)
    (e : Run.Event Reader (List UInt8) (Res (PcdError Unit) ChainVec)) : Prop where
  handed : e.after.card.handed = e.before.card.handed ∨
    e.after.card.handed = e.before.card.handed ++ [e.input]
  answered : ∀ r, e.output = .ok r →
    e.after.card.handed = e.before.card.handed ++ [e.input] ∧ r = f e.input

/-- An application that answers each command by itself. -/
def answering (f : List UInt8 → List UInt8) (handed : List ChainVec) : List UInt8 :=
  f (handed.getLastD [])

/-- The run of a session, from any state of it.  The link between the two sides survives every
    exchange, also those that failed, so the next one starts from the same invariant. -/
theorem exchanging_agrees (fuel : Nat) (f : List UInt8 → List UInt8) (apdus : List (List UInt8)) :
    ∀ {s : Reader} {w : Wire}, Linked (answering f) s w →
    (∀ e ∈ Run.trace (exchanging fuel) s apdus, e.before.Clean e.input) →
    (∀ e ∈ Run.trace (exchanging fuel) s apdus, Agrees f e) ∧
      ∃ handed, handed.Sublist apdus ∧
        (Run.after (exchanging fuel) s apdus).card.handed = s.card.handed ++ handed := by
  induction apdus with
  | nil =>
    intro s w _ _
    exact ⟨by simp, [], List.Sublist.refl _, by simp⟩
  | cons apdu apdus ih =>
    intro s w h hclean
    -- the first exchange, and those after it from where it leaves the two sides
    obtain ⟨w', hl, hhanded, hanswered⟩ :=
      exchange_agrees fuel h (hclean _ (List.mem_cons_self ..))
    obtain ⟨hrest, handed, hsub, hafter⟩ :=
      ih hl fun e he => hclean e (List.mem_cons_of_mem _ he)
    rw [← hl.shows.handed, ← h.shows.handed] at hhanded
    have hagrees : Agrees f (Run.event (exchanging fuel) s apdu) := by
      refine ⟨hhanded, ?_⟩
      intro r hr
      obtain ⟨hnew, hresp⟩ := hanswered r hr
      rw [hnew, answering, List.getLastD_concat] at hresp
      rw [← hl.shows.handed, ← h.shows.handed] at hnew
      exact ⟨hnew, hresp⟩
    constructor
    · intro e he
      rcases List.mem_cons.mp he with rfl | he
      · exact hagrees
      · exact hrest e he
    · rw [Run.after_cons]
      -- the command joins those handed over, or it does not
      rcases hhanded with hsame | hnew
      · exact ⟨handed, hsub.cons apdu, hafter.trans (congrArg (· ++ handed) hsame)⟩
      · exact ⟨apdu :: handed, hsub.cons_cons apdu,
          (hafter.trans (congrArg (· ++ handed) hnew)).trans (List.append_assoc _ _ _)⟩

/-- **Agreement over a lossy link.**  Whatever frames and answers are lost, a reader and a card that
    `connect` has brought together agree in every exchange of every run whose exchanges all start
    clean: the card is handed the APDUs of the reader, each at most once and in their order, and a
    response that the reader gets is the response to its APDU, which the card was handed. -/
theorem exchanges_agree (fuel : Nat) (f : List UInt8 → List UInt8) {card : Card} {fates : List Fate}
    {fsdi : Fsdi} {cid : Cid} {s : Reader} {ats : Ats} {t : Tally Link Unit}
    (hcall : card.session.call = some .waitForRats) (hrespond : card.respond = answering f)
    (hconnect : (connect fsdi cid).run (⟨⟨card, fates⟩, []⟩ : Tally Link Unit) = (.ok (s, ats), t))
    (apdus : List (List UInt8))
    (hclean : ∀ e ∈ Run.trace (exchanging fuel) s apdus, e.before.Clean e.input) :
    (∀ e ∈ Run.trace (exchanging fuel) s apdus, Agrees f e) ∧
      ∃ handed, handed.Sublist apdus ∧
        (Run.after (exchanging fuel) s apdus).card.handed = card.handed ++ handed := by
  obtain ⟨-, cardCid, hstart⟩ := connect_linked hcall hconnect
  rw [hrespond] at hstart
  have hhanded : s.card.handed = card.handed := hstart.shows.handed
  rw [← hhanded]
  exact exchanging_agrees fuel f apdus hstart hclean

/-! ## A clean run, and one that is not

  A card with frames of 16 bytes answers each command with the command. -/

/-- The card, in `wait_for_rats`. -/
def echoCard : Card where
  session :=
    { picc :=
        { transceiver := ⟨⟨true⟩, []⟩, hwCrc := true,
          config := { uid := sampleUid, ats := some (Ats.new .fsc16 0 {} Tc.cidSupp) },
          handler := ProtocolHandler.new .picc none, state := .active, fsd := 256, lastSent := none }
      call := some .waitForRats }
  respond := answering id

/-- Its ATS on the air. -/
def echoAts : List UInt8 := [0x05, 0x70, 0x00, 0x40, 0x02]

/-- A reader of the smallest frame size, connected to it. -/
def echoReader (fates : List Fate) : Reader where
  transceiver := ⟨⟨echoCard.started ⟨.fsd16, 3⟩ (.standard echoAts), fates⟩,
    [(.standard [0xe0, 0x03], .ok echoAts)]⟩
  hwCrc := true
  fsc := 16
  fsd := 16
  handler := ProtocolHandler.new .pcd (some 3)

omit [Build] in
/-- The reader comes about by `Pcd::connect` with that card. -/
theorem connect_echoReader (fates : List Fate) : let : Build := Build.heap
    (connect .fsd16 3).run (⟨⟨echoCard, .delivered :: fates⟩, []⟩ : Tally Link Unit) =
      (.ok (echoReader fates, { Ats.new .fsc16 0 {} Tc.cidSupp with length := 5 }),
        (echoReader fates).transceiver) := by
  intro _
  rfl

/-- A command of two chunks. -/
def twoChunks : List UInt8 := [1, 2, 3, 4, 5, 6, 7, 8, 9, 10, 11, 12, 13]

omit [Build] in
/-- The frame of the first command is lost, and the first answer to the second: the third one finds
    a card that takes its first chunk for that of the second, which it is. -/
theorem exchanges_agree_sample : let : Build := Build.heap
    (∀ e ∈ Run.trace (exchanging 4) (echoReader [.frameLost, .answerLost])
        [[7], twoChunks, twoChunks], Agrees id e) ∧
      ∃ handed, handed.Sublist [[7], twoChunks, twoChunks] ∧
        (Run.after (exchanging 4) (echoReader [.frameLost, .answerLost])
          [[7], twoChunks, twoChunks]).card.handed = echoCard.handed ++ handed := by
  intro _
  refine exchanges_agree 4 id rfl rfl (connect_echoReader _) _ ?_
  have hfit : ∀ e ∈ Run.trace (exchanging 4) (echoReader [.frameLost, .answerLost])
      [[7], twoChunks, twoChunks], e.before.Fitting e.input 0 := by decide +kernel
  exact fun e he => Or.inr (hfit e he)

omit [Build] in
/-- The answer to the first command is lost; the second one takes two chunks, of which the card takes
    the first for the command before: what it is handed, and answers, is the rest. -/
theorem not_exchanges_agree : let : Build := Build.heap
    (connect .fsd16 3).run (⟨⟨echoCard, [.delivered, .answerLost]⟩, []⟩ : Tally Link Unit) =
      (.ok (echoReader [.answerLost], { Ats.new .fsc16 0 {} Tc.cidSupp with length := 5 }),
        (echoReader [.answerLost]).transceiver) ∧
      ((Run.trace (exchanging 4) (echoReader [.answerLost]) [[7], twoChunks]).map fun e =>
        (e.output, e.after.card.handed)) =
          [(.err (.pcdTransceiver ()), [[7]]), (.ok [13], [[7], [13]])] ∧
      ¬ ∀ e ∈ Run.trace (exchanging 4) (echoReader [.answerLost]) [[7], twoChunks],
        Agrees id e := by
  intro _
  have hrun : ((Run.trace (exchanging 4) (echoReader [.answerLost]) [[7], twoChunks]).map fun e =>
      (e.output, e.after.card.handed)) =
        [(.err (.pcdTransceiver ()), [[7]]), (.ok [13], [[7], [13]])] := by decide +kernel
  refine ⟨connect_echoReader _, hrun, ?_⟩
  intro h
  obtain ⟨e, he, hout⟩ := List.mem_map.mp (hrun ▸ List.mem_cons_of_mem _ (List.mem_cons_self ..) :
    (Res.ok [13], [[7], [13]]) ∈ (Run.trace (exchanging 4) (echoReader [.answerLost])
      [[7], twoChunks]).map fun e => (e.output, e.after.card.handed))
  have hin : ∀ e ∈ Run.trace (exchanging 4) (echoReader [.answerLost]) [[7], twoChunks],
      e.input ≠ [13] := by decide +kernel
  obtain ⟨-, hresp⟩ := (h e he).answered [13] (congrArg Prod.fst hout)
  exact hin e he hresp.symm

end Iso14443.Reader
