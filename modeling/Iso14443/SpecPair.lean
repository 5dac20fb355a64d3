/-
  The reader of this library against the card of the tests of `pcd.rs` (`Iso14443.SpecCard`), on a link
  that loses frames and answers.

  The tests drive `Pcd` against a card that applies the numbering rules literally, with a fixed list of
  commands.  Here the commands are any, their responses are cut into chunks in any way, and every loss
  that the recovery of the reader is made for may happen.

  * `Asks`, `Brought`       — the reader asks for a chunk, and gets it.
  * `Collecting`, `Collected` — the response comes in.
  * `Sending`, `HandedOver` — the command goes out.
  * `exchange_specCard`     — one exchange, with losses while the response comes in.
  * `specCard_served`       — every sequence of exchanges.

  Each loop has an invariant and a result, both of them structures: what holds before a round with `d`
  chunks left, and what the loop leaves behind.  A lemma for the last round and one for any other give
  the induction on `d`.  Between the loops goes the number: the card is one behind the reader while a
  command is sent, and level with it while a response comes in.
-/
import Iso14443.SpecCard

namespace Iso14443

open ProtocolHandler

/-- A reader with the card of the tests behind a link. -/
abbrev SpecPair := Pcd (Lossy SpecCard)

namespace SpecPair

open Pcd SpecCard

variable [Build] {s : SpecPair} {chunks : List (List UInt8)} {i j r a : Nat} {n : Fin 2}

/-- The card. -/
def card (s : SpecPair) : SpecCard := s.transceiver.inner

/-- The losses to come. -/
def fates (s : SpecPair) : List Fate := s.transceiver.fates

/-- The pair once `k` calls have been made, with the card at `c` by then. -/
def afterCalls (s : SpecPair) (k : Nat) (c : SpecCard) : SpecPair :=
  s.withTransceiver ⟨c, s.fates.drop k⟩

/-- The pair with the handler of the reader at `h`. -/
def atHandler (s : SpecPair) (h : ProtocolHandler) : SpecPair := { s with handler := h }

omit [Build] in
/-- The calls of two stretches add up, and the later card and handler count. -/
theorem afterCalls_add (s : SpecPair) (k k' : Nat) (c c' : SpecCard) (h h' : ProtocolHandler) :
    (((s.afterCalls k c).atHandler h).afterCalls k' c').atHandler h' =
      (s.afterCalls (k + k') c').atHandler h' := by
  show ({ s.withTransceiver ⟨c', (s.fates.drop k).drop k'⟩ with handler := h' } : SpecPair) = _
  rw [List.drop_drop]
  rfl

/-- The parameters a session starts with: no CRC in the hardware of the card, and frames the buffers
    hold. -/
structure Sound (s : SpecPair) : Prop where
  hwCrc : s.hwCrc = false
  role : s.handler.role = .pcd
  fsc : s.fsc ≤ 256
  fsd_ge : 16 ≤ s.fsd
  fsd : s.fsd ≤ 256
  inf : s.maxInf ≠ 0

/-- What a reader keeps of its handler, over a whole session: no block changes the role, the limits
    or the CID. -/
structure Kept (h h' : ProtocolHandler) : Prop where
  role : h'.role = h.role
  limits : h'.limits = h.limits
  cid : h'.cid = h.cid

omit [Build] in
/-- A sound session stays sound after some calls and a step of the handler. -/
theorem Sound.next (h : s.Sound) (k : Nat) (c : SpecCard) {h' : ProtocolHandler}
    (hkept : Kept s.handler h') : ((s.afterCalls k c).atHandler h').Sound := by
  refine ⟨h.hwCrc, hkept.role.trans h.role, h.fsc, h.fsd_ge, h.fsd, ?_⟩
  have hinf := h.inf
  have hcid : ((s.afterCalls k c).atHandler h').handler.cid = s.handler.cid := hkept.cid
  have hfsc : ((s.afterCalls k c).atHandler h').fsc = s.fsc := rfl
  rw [maxInf] at hinf ⊢
  rw [hcid, hfsc]
  exact hinf

/-- **A block is delivered.** -/
theorem run_delivered (h : s.Sound) {b answer : Block} (hwf : b.WellFormed)
    (hlen : b.bytes.length + 2 ≤ 256) (hp : s.card.frames + 1 ≤ s.card.patience)
    (hfate : s.fates.getD 0 .delivered = .delivered) {c' : SpecCard}
    (hreact : ({ s.card with frames := s.card.frames + 1 } : SpecCard).react b.wire =
      (.ok (answer.raw false), c'))
    (hwf' : answer.WellFormed) (hlen' : answer.bytes.length + 2 ≤ s.fsd) :
    (transceiveBlock b).run s =
      ((.ok answer.wire, s.afterCalls 1 c') : Res (PcdError Unit) Block × _) := by
  have hfsd := h.fsd
  have hframe : frameFor s.hwCrc b = .ok (.standard (b.raw s.hwCrc)) := frameFor_of_fits _ hlen
  have hraw : b.raw s.hwCrc = b.raw false := by rw [h.hwCrc]
  have hcall := (transceive_block (c := s.card) hwf hlen hp).trans hreact
  have hget := received_raw (E := Unit) hwf' hlen' (by omega)
  rw [h.hwCrc] at hget
  have hrun : PcdTransceiver.transceive s.transceiver (.standard (b.raw false)) =
      (.ok (answer.raw false), (⟨c', s.fates.drop 1⟩ : Lossy SpecCard)) := by
    rw [Lossy.transceive_delivered hfate]
    show ((PcdTransceiver.transceive s.card _).1, (⟨(PcdTransceiver.transceive s.card _).2, _⟩ :
      Lossy SpecCard)) = _
    rw [hcall]
    rfl
  rw [run_transceiveBlock hframe, hraw, hrun, hget]
  rfl

/-- **Nothing comes back.** -/
theorem run_failed (h : s.Sound) {b : Block} (hwf : b.WellFormed) (hlen : b.bytes.length + 2 ≤ 256)
    (hp : s.card.frames + 1 ≤ s.card.patience) (hfate : s.fates.getD 0 .delivered ≠ .delivered) :
    ∃ c', (transceiveBlock b).run s = ((.err (.pcdTransceiver ()),
        s.afterCalls 1 c') : Res (PcdError Unit) Block × SpecPair) ∧
      (s.fates.take 1 = [.frameLost] ∧ c' = s.card ∨ s.fates.take 1 = [.answerLost] ∧
        c' = (({ s.card with frames := s.card.frames + 1 } : SpecCard).react b.wire).2) := by
  have hframe : frameFor s.hwCrc b = .ok (.standard (b.raw s.hwCrc)) := frameFor_of_fits _ hlen
  have hraw : b.raw s.hwCrc = b.raw false := by rw [h.hwCrc]
  obtain ⟨⟨c', fates'⟩, hrun, rfl, hcases⟩ :=
    Lossy.transceive_failed (t := s.transceiver) hfate (.standard (b.raw false))
  rw [run_transceiveBlock hframe, hraw, hrun]
  refine ⟨c', rfl, hcases.imp id fun harrived => ⟨harrived.1, ?_⟩⟩
  rw [← transceive_block (c := s.card) hwf hlen hp]
  exact harrived.2

/-- The reader asks with an R(ACK) of its own, time after time. -/
theorem run_recovery (s : SpecPair) : (transceiveWithRecovery s.handler.buildRack true).run s =
    (retry true (maxRetries + 1)).run s := by
  rw [transceiveWithRecovery, retry, Act.run_get_bind, if_pos rfl]

omit [Build] in
/-- An R(ACK) of a reader fits any frame. -/
theorem rack_fits (h : ProtocolHandler) : h.buildRack.bytes.length + 2 ≤ 256 := by
  have hlen := h.prologueLen_le
  rw [length_buildRack]
  omega

/-! ## Asking for a chunk

  The reader asks with one R(ACK) after the other.  The card keeps `Offers` all along: whether a call
  fails on its way out or on its way back, the next one brings the same chunk. -/

/-- The reader asks for the chunk after `j`; `a` of its R(ACK)s have arrived.  The first of them
    moves the card on, and each one after it makes the card repeat the chunk. -/
structure Asks (s : SpecPair) (chunks : List (List UInt8)) (i j : Nat) (n : Fin 2) (r a : Nat) :
    Prop where
  sound : s.Sound
  number : s.handler.blockNumber = n
  short : Short s.fsd chunks
  offers : s.card.Offers chunks i j n r a

/-- The chunk has come, with the call after `q` that failed, and the card is `c'` by then. -/
structure Brought (s : SpecPair) (chunks : List (List UInt8)) (i j : Nat) (n : Fin 2) (r a q : Nat)
    (c' : SpecCard) : Prop where
  /-- Each answer that was lost is an R(ACK) that arrived. -/
  offers : c'.Offers chunks i j n r (a + (s.fates.take (q + 1)).count .answerLost + 1)
  same : s.card.Same c'
  frames : c'.frames ≤ s.card.frames + q + 1

/-- **A call that is delivered** brings the chunk. -/
theorem Asks.delivered {k : Nat} (h : s.Asks chunks i j n r a)
    (hp : s.card.frames + 1 ≤ s.card.patience) (hfate : s.fates.getD 0 .delivered = .delivered) :
    ∃ c', (retry true (k + 1)).run s =
        ((.ok (cutBlock n chunks (j + 1)).wire, s.afterCalls 1 c') :
          Res (PcdError Unit) Block × SpecPair) ∧ s.Brought chunks i j n r a 0 c' := by
  have hsound := h.sound
  obtain ⟨c', hreact, hoffers', hsame, hframes⟩ :=
    h.offers.react h.short hsound.fsd (h.number ▸ isRack_buildRack s.handler)
  have hlen := h.short.length_cutBlock h.offers.more n
  have hrun := run_delivered hsound s.handler.wellFormed_buildRack (rack_fits s.handler) hp hfate
    hreact (wellFormed_cutBlock n chunks (j + 1)) hlen
  have hcount : (s.fates.take 1).count .answerLost = 0 := by
    rcases hs : s.fates with _ | ⟨fate, fates⟩
    · rfl
    · rw [hs] at hfate
      obtain rfl : fate = .delivered := hfate
      rfl
  refine ⟨c', ?_, ⟨?_, hsame, Nat.le_of_eq hframes⟩⟩
  · rw [retry, Act.run_get_bind, if_pos rfl, Act.run_bind_ok (Act.run_attempt_ok hrun)]
    rfl
  · rw [hcount]
    exact hoffers'

/-- **A call that fails** leaves the reader asking, with one loss less to come. -/
theorem Asks.failed {k : Nat} (h : s.Asks chunks i j n r a)
    (hp : s.card.frames + 1 ≤ s.card.patience) (hfate : s.fates.getD 0 .delivered ≠ .delivered) :
    ∃ c', (retry true (k + 1) : Act SpecPair (PcdError Unit) Block).run s =
        (retry true k).run (s.afterCalls 1 c') ∧
      (s.afterCalls 1 c').Asks chunks i j n r
        (a + (s.fates.take 1).count .answerLost) ∧
      s.card.Same c' ∧ c'.frames ≤ s.card.frames + 1 := by
  have hsound := h.sound
  obtain ⟨c1, hrun, hcases⟩ :=
    run_failed hsound s.handler.wellFormed_buildRack (rack_fits s.handler) hp hfate
  obtain ⟨c2, hreact, hoffers2, hsame2, hframes2⟩ :=
    h.offers.react h.short hsound.fsd (h.number ▸ isRack_buildRack s.handler)
  have hc1 : c1.Offers chunks i j n r (a + (s.fates.take 1).count .answerLost) ∧
      s.card.Same c1 ∧ c1.frames ≤ s.card.frames + 1 := by
    rcases hcases with ⟨htake, rfl⟩ | ⟨htake, rfl⟩
    · -- the frame has not arrived
      rw [htake]
      exact ⟨h.offers, ⟨rfl, rfl, rfl, rfl⟩, Nat.le_succ _⟩
    · -- it has, and the card has answered it
      rw [htake, hreact]
      exact ⟨hoffers2, hsame2, Nat.le_of_eq hframes2⟩
  refine ⟨c1, ?_, ⟨hsound.next _ _ ⟨rfl, rfl, rfl⟩, h.number, h.short, hc1.1⟩, hc1.2⟩
  rw [retry, Act.run_get_bind, if_pos rfl, Act.run_bind_ok (Act.run_attempt_err hrun)]

omit [Build] in
/-- A call that failed before counts with the others. -/
theorem Brought.after {c1 c' : SpecCard} {q : Nat} (hsame : s.card.Same c1)
    (hframes : c1.frames ≤ s.card.frames + 1)
    (h : (s.afterCalls 1 c1).Brought chunks i j n r
      (a + (s.fates.take 1).count .answerLost) q c') : s.Brought chunks i j n r a (q + 1) c' := by
  have hcount : (s.fates.take (q + 1 + 1)).count .answerLost =
      (s.fates.take 1).count .answerLost + ((s.fates.drop 1).take (q + 1)).count .answerLost := by
    rw [Nat.add_comm (q + 1) 1, List.take_add, List.count_append]
  refine ⟨?_, hsame.trans h.same, ?_⟩
  · have hoffers := h.offers
    have hsum : a + (s.fates.take 1).count .answerLost +
        ((s.fates.drop 1).take (q + 1)).count .answerLost + 1 =
          a + (s.fates.take (q + 1 + 1)).count .answerLost + 1 := by omega
    rw [← hsum]
    exact hoffers
  · have hle : c'.frames ≤ c1.frames + q + 1 := h.frames
    omega

omit [Build] in
/-- The losses after the first one. -/
theorem fates_drop_one (fates : List Fate) (w : Nat) :
    (fates.drop 1).getD w .delivered = fates.getD (w + 1) .delivered := by
  rw [List.getD_eq_getElem?_getD, List.getElem?_drop, Nat.add_comm 1 w,
    ← List.getD_eq_getElem?_getD]

/-- **Asking brings the chunk**, with the first call that is delivered; every answer that was lost
    makes the card repeat itself once. -/
theorem ask (w : Nat) : ∀ {k a : Nat} {s : SpecPair}, s.Asks chunks i j n r a →
    s.card.frames + w + 1 ≤ s.card.patience → s.fates.getD w .delivered = .delivered → w < k →
    ∃ q c', q ≤ w ∧ (retry true k).run s =
        ((.ok (cutBlock n chunks (j + 1)).wire, s.afterCalls (q + 1) c') :
          Res (PcdError Unit) Block × SpecPair) ∧ s.Brought chunks i j n r a q c' := by
  induction w with
  | zero =>
    intro k a s h hp hfate hk
    obtain ⟨k, rfl⟩ : ∃ k', k = k' + 1 := ⟨k - 1, by omega⟩
    obtain ⟨c', hrun, hbrought⟩ := h.delivered (k := k) hp hfate
    exact ⟨0, c', Nat.le_refl 0, hrun, hbrought⟩
  | succ w ih =>
    intro k a s h hp hfate hk
    obtain ⟨k, rfl⟩ : ∃ k', k = k' + 1 := ⟨k - 1, by omega⟩
    by_cases hd : s.fates.getD 0 .delivered = .delivered
    · obtain ⟨c', hrun, hbrought⟩ := h.delivered (k := k) (by omega) hd
      exact ⟨0, c', Nat.zero_le _, hrun, hbrought⟩
    · -- it fails, and the reader asks again
      obtain ⟨c1, hrun, hasks, hsame, hframes⟩ := h.failed (k := k) (by omega) hd
      have hpat := hsame.patience
      have hp1 : (s.afterCalls 1 c1).card.frames + w + 1 ≤
          (s.afterCalls 1 c1).card.patience := by
        show c1.frames + w + 1 ≤ c1.patience
        omega
      obtain ⟨q, c', hq, hrun', hbrought⟩ :=
        ih (k := k) hasks hp1 ((fates_drop_one s.fates w).trans hfate) (by omega)
      refine ⟨q + 1, c', by omega, (hrun.trans hrun').trans ?_, .after hsame hframes hbrought⟩
      rw [Nat.add_comm (q + 1) 1]
      exact congrArg _ (afterCalls_add s 1 (q + 1) c1 c' s.handler s.handler)

/-! ## The response

  `collect_response`, with the reader holding one chunk and the card ready to offer the next. -/

/-- `j` chunks of the response have been taken in, the reader holds the next one, and `d` are left after
    that; the budgets of both sides suffice for them. -/
structure Collecting (s : SpecPair) (chunks : List (List UInt8)) (i j d : Nat) : Prop where
  length : j + d + 1 = chunks.length
  sound : s.Sound
  short : Short s.fsd chunks
  holds : s.card.Holds chunks i j
  number : s.card.blockNumber = s.handler.blockNumber
  chain : s.handler.chain = (chunks.take j).flatten
  max : chunks.flatten.length ≤ s.handler.limits.maxChainLen
  fits : Fits chainCap chunks.flatten.length
  budget : s.handler.counters.frames + d + 1 ≤ s.handler.limits.maxFrames
  patience : s.card.frames + (maxRetries + 1) * d ≤ s.card.patience
  fates : Fate.Patient (maxRetries + 1) s.fates

/-- The response has come in, with `d` chunks asked for: handler and card are `h'` and `c'`, and `k` of
    the losses have been met. -/
structure Collected (s : SpecPair) (i d k : Nat) (h' : ProtocolHandler) (c' : SpecCard) : Prop where
  kept : Kept s.handler h'
  number : c'.blockNumber = 1 - h'.blockNumber
  command : c'.command = i + 1
  chunk : c'.chunk = 0
  same : s.card.Same c'
  repeats : c'.repeats = s.card.repeats + (s.fates.take k).count .answerLost
  frames : c'.frames ≤ s.card.frames + (maxRetries + 1) * d

/-- The handler of the reader once it has taken in chunk `j`. -/
def takenIn (s : SpecPair) (chunks : List (List UInt8)) (j : Nat) : ProtocolHandler :=
  (s.handler.counted.extended (chunks.getD j [])).advanced

/-- What the handler makes of the chunk that the reader holds. -/
theorem Collecting.receive {d : Nat} (h : s.Collecting chunks i j d) :
    s.handler.receive (cutBlock s.handler.blockNumber chunks j).wire =
      if j + 1 < chunks.length then
        (.ok (.reply s.handler.advanced.buildRack), s.takenIn chunks j)
      else (.ok (.complete (chunks.take (j + 1)).flatten), s.handler.counted.advanced.dropChain) := by
  have hbudget := h.budget
  rw [receive_wire]
  exact receive_chunk (fresh_pcd h.sound.role chunks j) h.holds.sent h.chain h.max h.fits
    (frameOk_of_le (by omega : s.handler.counters.frames + 1 ≤ _))

/-- **The last chunk** ends the loop. -/
theorem Collecting.last (h : s.Collecting chunks i j 0) (fuel : Nat) : ∃ h',
    (collectResponse (fuel + 1) (cutBlock s.handler.blockNumber chunks j).wire).run s =
      ((.ok chunks.flatten, s.atHandler h') : Res (PcdError Unit) ChainVec × SpecPair) ∧
    s.Collected i 0 0 h' s.card := by
  have hlen := h.length
  have hend : ¬ j + 1 < chunks.length := by omega
  have hr := h.receive
  rw [if_neg hend, List.take_of_length_le (by omega)] at hr
  have hcommand := h.holds.command
  have hchunk := h.holds.chunk
  rw [if_neg hend] at hcommand hchunk
  refine ⟨_, (run_collectResponse hr).trans rfl, ⟨⟨rfl, rfl, rfl⟩, ?_, hcommand, hchunk,
    ⟨rfl, rfl, rfl, rfl⟩, rfl, Nat.le_refl _⟩⟩
  show s.card.blockNumber = 1 - (1 - s.handler.blockNumber)
  rw [one_sub_one_sub, h.number]

/-- The reader acknowledges a chunk, which asks for the next one. -/
theorem Collecting.asks {d : Nat} (h : s.Collecting chunks i j (d + 1)) :
    (s.atHandler (s.takenIn chunks j)).Asks chunks i j (1 - s.handler.blockNumber) s.card.repeats 0 := by
  have hlen := h.length
  refine ⟨h.sound.next 0 s.card ⟨rfl, rfl, rfl⟩, rfl, h.short, by omega,
    Or.inl ⟨rfl, h.holds, ?_, rfl⟩⟩
  show s.card.blockNumber = 1 - (1 - s.handler.blockNumber)
  rw [one_sub_one_sub, h.number]

/-- The reader after one round, with the card at `c'` and `k` losses met. -/
def nextRound (s : SpecPair) (chunks : List (List UInt8)) (j k : Nat) (c' : SpecCard) : SpecPair :=
  (s.afterCalls k c').atHandler (s.takenIn chunks j)

/-- **Any other chunk** is taken in and acknowledged, and the loop goes on with the next one.  Of
    the calls that ask for it the first that is delivered brings it, after `k` that were lost. -/
theorem Collecting.more {d : Nat} (h : s.Collecting chunks i j (d + 1)) (fuel : Nat) : ∃ k c',
    (collectResponse (fuel + 1) (cutBlock s.handler.blockNumber chunks j).wire :
        Act SpecPair (PcdError Unit) ChainVec).run s =
      (collectResponse fuel (cutBlock (1 - s.handler.blockNumber) chunks (j + 1)).wire).run
        (s.nextRound chunks j k c') ∧
    (s.nextRound chunks j k c').Collecting chunks i (j + 1) d ∧ s.card.Same c' ∧
    c'.repeats = s.card.repeats + (s.fates.take k).count .answerLost ∧
    c'.frames ≤ s.card.frames + (maxRetries + 1) := by
  have hlen := h.length
  have hr := h.receive
  rw [if_pos (by omega : j + 1 < chunks.length)] at hr
  -- some call in the next few is delivered
  obtain ⟨w, hw, hfate⟩ := h.fates 0 (Nat.zero_le _)
  rw [Nat.zero_add] at hfate
  have hp := h.patience
  rw [Nat.mul_succ] at hp
  have hp1 : s.card.frames + w + 1 ≤ s.card.patience := by omega
  obtain ⟨q, c1, hq, hrun, hbrought⟩ := ask w (k := maxRetries + 1) h.asks hp1 hfate hw
  rcases hbrought.offers.state with ⟨hzero, -⟩ | ⟨-, hholds1, hnum1, hrep1⟩
  · omega
  have hframes1 : c1.frames ≤ s.card.frames + q + 1 := hbrought.frames
  have hpatience : c1.patience = s.card.patience := hbrought.same.patience
  have hbudget := h.budget
  refine ⟨q + 1, c1, ?_, ?_, hbrought.same, ?_, by omega⟩
  · rw [run_collectResponse hr]
    exact Act.run_bind_ok ((run_recovery _).trans hrun) _
  · refine ⟨by omega, h.sound.next _ _ ⟨rfl, rfl, rfl⟩, h.short, hholds1, hnum1, ?_, h.max, h.fits, ?_, ?_,
      h.fates.drop (q + 1)⟩
    · rw [← flatten_take_succ h.holds.sent, ← h.chain]
      rfl
    · have hcounted : (s.takenIn chunks j).counters.frames ≤ s.handler.counters.frames + 1 :=
        frames_counted s.handler
      show (s.takenIn chunks j).counters.frames + d + 1 ≤ s.handler.limits.maxFrames
      omega
    · show c1.frames + (maxRetries + 1) * d ≤ c1.patience
      omega
  · have hcount : c1.repeats + 1 =
        s.card.repeats + (0 + (s.fates.take (q + 1)).count .answerLost + 1) := hrep1
    omega

omit [Build] in
/-- A round before counts with the others. -/
theorem Collected.after {d k k' : Nat} {c1 c' : SpecCard} {h' : ProtocolHandler}
    (hsame : s.card.Same c1)
    (hrepeats : c1.repeats = s.card.repeats + (s.fates.take k).count .answerLost)
    (hframes : c1.frames ≤ s.card.frames + (maxRetries + 1))
    (h : (s.nextRound chunks j k c1).Collected i d k' h' c') :
    s.Collected i (d + 1) (k + k') h' c' := by
  refine ⟨⟨h.kept.role, h.kept.limits, h.kept.cid⟩, h.number, h.command, h.chunk, hsame.trans h.same,
    ?_, ?_⟩
  · have hrep : c'.repeats = c1.repeats + ((s.fates.drop k).take k').count .answerLost := h.repeats
    rw [List.take_add, List.count_append]
    omega
  · have hle : c'.frames ≤ c1.frames + (maxRetries + 1) * d := h.frames
    rw [Nat.mul_succ]
    omega

/-- **The response comes in.** -/
theorem collect (d : Nat) : ∀ (fuel : Nat) {j : Nat} {s : SpecPair}, s.Collecting chunks i j d →
    d < fuel → ∃ k h' c',
      (collectResponse fuel (cutBlock s.handler.blockNumber chunks j).wire).run s =
        ((.ok chunks.flatten, (s.afterCalls k c').atHandler h') :
          Res (PcdError Unit) ChainVec × SpecPair) ∧ s.Collected i d k h' c' := by
  induction d with
  | zero =>
    intro fuel j s h hfuel
    obtain ⟨fuel, rfl⟩ : ∃ f, fuel = f + 1 := ⟨fuel - 1, by omega⟩
    obtain ⟨h', hrun, hcollected⟩ := h.last fuel
    exact ⟨0, h', s.card, hrun, hcollected⟩
  | succ d ih =>
    intro fuel j s h hfuel
    obtain ⟨fuel, rfl⟩ : ∃ f, fuel = f + 1 := ⟨fuel - 1, by omega⟩
    obtain ⟨k, c1, hrun, hnext, hsame, hrepeats, hframes⟩ := h.more fuel
    obtain ⟨k', h', c', hrun', hcollected⟩ := ih fuel hnext (by omega)
    refine ⟨k + k', h', c', (hrun.trans hrun').trans ?_, .after hsame hrepeats hframes hcollected⟩
    exact congrArg _ (afterCalls_add s k k' c1 c' _ h')

/-! ## The command

  `send_loop`, on a link that loses nothing: a lost answer ends the exchange here, as the source has no
  recovery in this loop. -/

omit [Build] in
/-- A chunk begins within the data. -/
theorem offset_lt {inf t : Nat} (hinf : 0 < inf) {data : List UInt8} (hne : data ≠ [])
    (ht : t < blockCount inf data) : t * inf < data.length := by
  cases t with
  | zero =>
    rw [Nat.zero_mul]
    exact List.length_pos_of_ne_nil hne
  | succ t =>
    have hmore := (more_iff hinf data t).mpr ht
    rw [Nat.succ_mul]
    exact hmore

/-- **In step**: the card has a response ready, and its number is not the reader's.  Nothing of an
    earlier command or response is left. -/
structure InStep (s : SpecPair) : Prop where
  sound : s.Sound
  number : s.card.blockNumber = 1 - s.handler.blockNumber
  chunk : s.card.chunk = 0
  partialCommand : s.card.partialCommand = []

omit [Build] in
/-- The I-Block with the chunk at `offset`. -/
theorem chunk_fields (h : ProtocolHandler) (payload : List UInt8) (chaining : Bool) :
    (h.iblockOf payload chaining).blockType = .iBlock ∧
      (h.iblockOf payload chaining).blockNumber = h.blockNumber ∧
      (h.iblockOf payload chaining).isChaining = chaining ∧
      (h.iblockOf payload chaining).payload = payload := by
  simp only [iblockOf, addCid]
  split <;> exact ⟨rfl, rfl, rfl, rfl⟩

omit [Build] in
/-- A chunk is never longer than a frame. -/
theorem Sound.maxInf_le (h : s.Sound) : s.maxInf ≤ 256 := by
  have hfsc := h.fsc
  rw [maxInf]
  omega

omit [Build] in
/-- A chunk fits the frame. -/
theorem Sound.chunk_fits (h : s.Sound) (apdu : List UInt8) (offset : Nat) (chaining : Bool) :
    (s.handler.iblockOf (chunkAt apdu s.maxInf offset) chaining).bytes.length + 2 ≤ 256 := by
  have hfsc := h.fsc
  have hinf := h.inf
  have hlen : (chunkAt apdu s.maxInf offset).length ≤ s.maxInf := by
    rw [chunkAt, List.length_take]
    exact Nat.min_le_left _ _
  have hmax : s.maxInf = s.fsc - (3 + if s.handler.cid.isSome then 1 else 0) := rfl
  rw [length_iblockOf, prologueLen]
  omega

/-- `t` chunks of the command have been sent, and `d` are left after the next one; the budgets of both
    sides suffice for them, and nothing is lost. -/
structure Sending (s : SpecPair) (apdu : List UInt8) (chunks : List (List UInt8)) (t d : Nat) :
    Prop where
  blocks : t + d + 1 = blockCount s.maxInf apdu
  command : apdu ≠ []
  sound : s.Sound
  short : Short s.fsd chunks
  response : chunks ≠ []
  ready : s.card.responses[s.card.command]? = some chunks
  chunk : s.card.chunk = 0
  number : s.card.blockNumber = 1 - s.handler.blockNumber
  partialCommand : s.card.partialCommand = apdu.take (t * s.maxInf)
  budget : s.handler.counters.frames + d ≤ s.handler.limits.maxFrames
  patience : s.card.frames + d + 1 ≤ s.card.patience
  fates : ∀ p ≤ d, s.fates.getD p .delivered = .delivered

/-- The command is with the card, which has put the first chunk of the response on the air: handler and
    card are `h'` and `c'` by now. -/
structure HandedOver (s : SpecPair) (apdu : List UInt8) (chunks : List (List UInt8)) (d : Nat)
    (h' : ProtocolHandler) (c' : SpecCard) : Prop where
  kept : Kept s.handler h'
  chain : h'.chain = s.handler.chain
  counted : h'.counters.frames ≤ s.handler.counters.frames + d
  holds : c'.Holds chunks s.card.command 0
  number : c'.blockNumber = h'.blockNumber
  received : c'.received = s.card.received ++ [apdu]
  partialCommand : c'.partialCommand = []
  responses : c'.responses = s.card.responses
  patience : c'.patience = s.card.patience
  repeats : c'.repeats = s.card.repeats
  frames : c'.frames ≤ s.card.frames + d + 1

omit [Build] in
/-- The number of the card is the one before the reader's. -/
theorem Sending.turn {apdu : List UInt8} {t d : Nat} (h : s.Sending apdu chunks t d) :
    1 - s.card.blockNumber = s.handler.blockNumber := by
  rw [h.number, one_sub_one_sub]

/-- **The last chunk** brings the first one of the response. -/
theorem Sending.last {apdu : List UInt8} {t : Nat} (h : s.Sending apdu chunks t 0) (fuel : Nat)
    (last : Option Block) : ∃ c',
    (sendLoop apdu s.maxInf (fuel + 1) (t * s.maxInf) last).run s =
      ((.ok (some (cutBlock s.handler.blockNumber chunks 0).wire),
        s.afterCalls 1 c') : Res (PcdError Unit) (Option Block) × SpecPair) ∧
    s.HandedOver apdu chunks 0 s.handler c' := by
  have hsound := h.sound
  have hblocks := h.blocks
  have hinf : 0 < s.maxInf := Nat.pos_of_ne_zero hsound.inf
  have hend : apdu.length ≤ t * s.maxInf + s.maxInf := by
    have hno := mt (more_iff hinf apdu t).mp (by omega)
    omega
  have hoff := offset_lt hinf h.command (by omega : t < blockCount s.maxInf apdu)
  obtain ⟨ht, -, hc, hpay⟩ := chunk_fields s.handler (chunkAt apdu s.maxInf (t * s.maxInf)) false
  obtain ⟨c', hreact, hcommanded⟩ := react_last (c := { s.card with frames := s.card.frames + 1 })
    h.short hsound.fsd ht hc h.ready h.chunk h.response
  have hrun := run_delivered hsound (s.handler.wellFormed_iblockOf _ _) (hsound.chunk_fits apdu _ _)
    h.patience (h.fates 0 (Nat.le_refl 0)) hreact (wellFormed_cutBlock _ chunks 0)
    (h.short.length_cutBlock (List.length_pos_of_ne_nil h.response) _)
  have hnext : (cutBlock (1 - s.card.blockNumber) chunks 0).wire =
      (cutBlock s.handler.blockNumber chunks 0).wire := by rw [h.turn]
  refine ⟨c', ?_,
    { kept := ⟨rfl, rfl, rfl⟩
      chain := rfl
      counted := Nat.le_refl _
      holds := hcommanded.holds
      number := hcommanded.number.trans h.turn
      received := ?_
      partialCommand := hcommanded.partialCommand
      responses := hcommanded.responses
      patience := hcommanded.patience
      repeats := hcommanded.repeats
      frames := Nat.le_of_eq hcommanded.frames }⟩
  · rw [run_sendLoop_last fuel last s hoff hend hsound.maxInf_le, Act.run_bind_ok hrun]
    show ((Res.ok (some (cutBlock (1 - s.card.blockNumber) chunks 0).wire), _) : Res _ _ × _) = _
    rw [hnext]
  · rw [hcommanded.received, hpay]
    show s.card.received ++ [s.card.partialCommand ++ _] = _
    rw [h.partialCommand, take_append_chunkAt, List.take_of_length_le hend]

/-- The card with one more chunk of a command, which it has acknowledged. -/
def acknowledged (c : SpecCard) (payload : List UInt8) : SpecCard :=
  { c with
    frames := c.frames + 1
    blockNumber := 1 - c.blockNumber
    partialCommand := c.partialCommand ++ payload
    lastSent := some ((rblock (1 - c.blockNumber) .ack).raw false) }

/-- The reader after one round of the loop. -/
def nextChunk (s : SpecPair) (apdu : List UInt8) (t : Nat) : SpecPair :=
  (s.afterCalls 1 (acknowledged s.card (chunkAt apdu s.maxInf (t * s.maxInf)))).atHandler
    s.handler.counted.advanced

/-- **Any other chunk** is acknowledged, and the loop goes on with the next one. -/
theorem Sending.more {apdu : List UInt8} {t d : Nat} (h : s.Sending apdu chunks t (d + 1))
    (fuel : Nat) (last : Option Block) :
    (sendLoop apdu s.maxInf (fuel + 1) (t * s.maxInf) last : Act SpecPair (PcdError Unit) _).run s =
      (sendLoop apdu s.maxInf fuel ((t + 1) * s.maxInf) last).run (s.nextChunk apdu t) := by
  have hsound := h.sound
  have hblocks := h.blocks
  have hbudget := h.budget
  have hpatience := h.patience
  have hinf : 0 < s.maxInf := Nat.pos_of_ne_zero hsound.inf
  have hmore := (more_iff hinf apdu t).mpr (by omega)
  obtain ⟨ht, -, hc, hpay⟩ := chunk_fields s.handler (chunkAt apdu s.maxInf (t * s.maxInf)) true
  have hreact := react_chained (c := { s.card with frames := s.card.frames + 1 }) ht hc
  have hrack : (rblock (1 - s.card.blockNumber) .ack).IsRack s.handler.blockNumber :=
    ⟨rfl, rfl, h.turn⟩
  have hfsd := hsound.fsd_ge
  have hrun := run_delivered hsound (s.handler.wellFormed_iblockOf _ _) (hsound.chunk_fits apdu _ _)
    (by omega) (h.fates 0 (Nat.zero_le _)) hreact ⟨⟨rfl, rfl, rfl⟩, fun hnad => by cases hnad⟩
    (by rw [length_rack]; omega)
  -- it is acknowledged
  have hack := Reader.receive_ack hsound.role hrack
  rw [if_pos (frameOk_of_le (by omega : s.handler.counters.frames + 1 ≤ _)), ← receive_wire] at hack
  rw [run_sendLoop_round fuel hmore hsound.maxInf_le hrun hack, hpay, Nat.succ_mul]
  rfl

omit [Build] in
/-- And the invariant holds again. -/
theorem Sending.next {apdu : List UInt8} {t d : Nat} (h : s.Sending apdu chunks t (d + 1)) :
    (s.nextChunk apdu t).Sending apdu chunks (t + 1) d where
  blocks := (by omega : t + 1 + d + 1 = t + (d + 1) + 1).trans h.blocks
  command := h.command
  sound := h.sound.next _ _ ⟨rfl, rfl, rfl⟩
  short := h.short
  response := h.response
  ready := h.ready
  chunk := h.chunk
  number := by
    show 1 - s.card.blockNumber = 1 - (1 - s.handler.blockNumber)
    rw [h.turn, one_sub_one_sub]
  partialCommand := by
    show s.card.partialCommand ++ chunkAt apdu s.maxInf (t * s.maxInf) = apdu.take ((t + 1) * s.maxInf)
    rw [h.partialCommand, take_append_chunkAt, Nat.succ_mul]
  budget := by
    have hbudget := h.budget
    have hcounted : (s.nextChunk apdu t).handler.counters.frames ≤ s.handler.counters.frames + 1 :=
      frames_counted s.handler
    show _ ≤ s.handler.limits.maxFrames
    omega
  patience := by
    have hpatience := h.patience
    show s.card.frames + 1 + d + 1 ≤ s.card.patience
    omega
  fates p hp := (fates_drop_one s.fates p).trans (h.fates (p + 1) (by omega))

omit [Build] in
/-- A chunk before counts with the others. -/
theorem HandedOver.after {apdu : List UInt8} {t d : Nat} {h' : ProtocolHandler} {c' : SpecCard}
    (h : (s.nextChunk apdu t).HandedOver apdu chunks d h' c') :
    s.HandedOver apdu chunks (d + 1) h' c' where
  kept := ⟨h.kept.role, h.kept.limits, h.kept.cid⟩
  chain := h.chain
  counted := by
    have hcounted : (s.nextChunk apdu t).handler.counters.frames ≤ s.handler.counters.frames + 1 :=
      frames_counted s.handler
    have hle := h.counted
    omega
  holds := h.holds
  number := h.number
  received := h.received
  partialCommand := h.partialCommand
  responses := h.responses
  patience := h.patience
  repeats := h.repeats
  frames := by
    have hle : c'.frames ≤ s.card.frames + 1 + d + 1 := h.frames
    omega

/-- **The command goes out.** -/
theorem sendLoop_specCard {apdu : List UInt8} (d : Nat) : ∀ (fuel : Nat) (last : Option Block) {t : Nat}
    {s : SpecPair}, s.Sending apdu chunks t d → d < fuel → ∃ h' c',
      (sendLoop apdu s.maxInf fuel (t * s.maxInf) last).run s =
        ((.ok (some (cutBlock h'.blockNumber chunks 0).wire),
          (s.afterCalls (d + 1) c').atHandler h') :
            Res (PcdError Unit) (Option Block) × SpecPair) ∧
      s.HandedOver apdu chunks d h' c' := by
  induction d with
  | zero =>
    intro fuel last t s h hfuel
    obtain ⟨fuel, rfl⟩ : ∃ f, fuel = f + 1 := ⟨fuel - 1, by omega⟩
    obtain ⟨c', hrun, hhanded⟩ := h.last fuel last
    exact ⟨s.handler, c', hrun, hhanded⟩
  | succ d ih =>
    intro fuel last t s h hfuel
    obtain ⟨fuel, rfl⟩ : ∃ f, fuel = f + 1 := ⟨fuel - 1, by omega⟩
    obtain ⟨h', c', hrun, hhanded⟩ := ih fuel last h.next (by omega)
    refine ⟨h', c', ((h.more fuel last).trans hrun).trans ?_, hhanded.after⟩
    rw [Nat.add_comm (d + 1) 1]
    exact congrArg _ (afterCalls_add s 1 (d + 1) _ c' _ h')

/-! ## One exchange

  What it takes of the limits and of the losses, and what it leaves. -/

/-- What a command and its response, in the chunks of the card, need of the reader: chunks that fit
    its frames, room for the whole response, and a frame for every block. -/
structure Admits (s : SpecPair) (p : List UInt8 × List (List UInt8)) : Prop where
  command : p.1 ≠ []
  response : p.2 ≠ []
  short : Short s.fsd p.2
  length : p.2.flatten.length ≤ s.handler.limits.maxChainLen
  fits : Fits chainCap p.2.flatten.length
  frames : blockCount s.maxInf p.1 + p.2.length - 1 ≤ s.handler.limits.maxFrames

/-- The frames they bring to the card at most. -/
def cost (s : SpecPair) (p : List UInt8 × List (List UInt8)) : Nat :=
  blockCount s.maxInf p.1 + (maxRetries + 1) * (p.2.length - 1)

/-- The losses leave the command alone, and no three calls in a row of those that follow. -/
def Calm (s : SpecPair) (apdu : List UInt8) : Prop :=
  (∀ q < blockCount s.maxInf apdu, s.fates.getD q .delivered = .delivered) ∧
    Fate.Patient (maxRetries + 1) (s.fates.drop (blockCount s.maxInf apdu))

/-- One exchange, as a step. -/
def exchanging (fuel : Nat) (s : SpecPair) (apdu : List UInt8) :
    Res (PcdError Unit) ChainVec × SpecPair := (exchange fuel apdu).run s

/-- What the card is left with after a command and its response: it is one response further, and has
    used up some of its patience. -/
structure Moved (s s' : SpecPair) (p : List UInt8 × List (List UInt8)) : Prop where
  kept : Kept s.handler s'.handler
  fsc : s'.fsc = s.fsc
  fsd : s'.fsd = s.fsd
  command : s'.card.command = s.card.command + 1
  responses : s'.card.responses = s.card.responses
  patience : s'.card.patience = s.card.patience
  frames : s'.card.frames ≤ s.card.frames + s.cost p

/-- **An exchange with the card of the tests**: the card is handed exactly the command, the reader gets
    the chunks in one piece, the card repeated itself once for each of its answers that was lost, and
    the two are in step. -/
structure Served (s : SpecPair) (p : List UInt8 × List (List UInt8))
    (r : Res (PcdError Unit) ChainVec × SpecPair) : Prop where
  response : r.1 = .ok p.2.flatten
  received : r.2.card.received = s.card.received ++ [p.1]
  repeats : ∃ k, r.2.fates = s.fates.drop k ∧
    r.2.card.repeats = s.card.repeats + (s.fates.take k).count .answerLost
  inStep : r.2.InStep

omit [Build] in
/-- No answer is lost where every call is delivered. -/
theorem count_answerLost_take {m : Nat} {fates : List Fate}
    (h : ∀ q < m, fates.getD q .delivered = .delivered) : (fates.take m).count .answerLost = 0 := by
  rw [List.count_eq_zero]
  intro hmem
  obtain ⟨q, hq, hget⟩ := List.getElem_of_mem hmem
  rw [List.length_take] at hq
  have hfate := h q (by omega)
  rw [List.getD_eq_getElem?_getD, List.getElem?_eq_getElem (by omega), Option.getD_some] at hfate
  rw [List.getElem_take, hfate] at hget
  cases hget

/-- The reader once the counters of the exchange have been set back. -/
def begun (s : SpecPair) : SpecPair := s.atHandler s.handler.beginExchange

/-- What the first round of the command finds: the invariant of the send loop, with no chunk behind
    it. -/
theorem InStep.sending {apdu : List UInt8} (h : s.InStep) (hadmits : s.Admits (apdu, chunks))
    (hi : s.card.responses[s.card.command]? = some chunks)
    (hp : s.card.frames + s.cost (apdu, chunks) ≤ s.card.patience) (hcalm : s.Calm apdu) :
    s.begun.Sending apdu chunks 0 (blockCount s.maxInf apdu - 1) := by
  have hblocks : blockCount s.maxInf apdu - 1 + 1 = blockCount s.maxInf apdu := rfl
  have hlen : 0 < chunks.length := List.length_pos_of_ne_nil hadmits.response
  have hbudget : blockCount s.maxInf apdu + chunks.length - 1 ≤ s.handler.limits.maxFrames :=
    hadmits.frames
  dsimp only [cost] at hp
  exact
    { blocks := by rw [Nat.zero_add]; exact hblocks
      command := hadmits.command
      sound := h.sound.next 0 s.card ⟨rfl, rfl, rfl⟩
      short := hadmits.short
      response := hadmits.response
      ready := hi
      chunk := h.chunk
      number := h.number
      partialCommand := by
        rw [Nat.zero_mul, List.take_zero]
        exact h.partialCommand
      budget := by
        show 0 + _ ≤ s.handler.limits.maxFrames
        omega
      patience := by
        show s.card.frames + _ + 1 ≤ s.card.patience
        omega
      fates := fun q hq => hcalm.1 q (by omega) }

/-- The pair with the command handed over, in `m` calls. -/
def handed (s : SpecPair) (m : Nat) (h1 : ProtocolHandler) (c1 : SpecCard) : SpecPair :=
  (s.begun.afterCalls m c1).atHandler h1

/-- What the first round of the response finds: the invariant of the receive loop, with the first
    chunk at hand. -/
theorem HandedOver.collecting {apdu : List UInt8} {h1 : ProtocolHandler} {c1 : SpecCard}
    (h : s.begun.HandedOver apdu chunks (blockCount s.maxInf apdu - 1) h1 c1) (hsound : s.Sound)
    (hadmits : s.Admits (apdu, chunks))
    (hp : s.card.frames + s.cost (apdu, chunks) ≤ s.card.patience) (hcalm : s.Calm apdu) :
    (s.handed (blockCount s.maxInf apdu) h1 c1).Collecting chunks s.card.command 0
      (chunks.length - 1) := by
  have hblocks : blockCount s.maxInf apdu - 1 + 1 = blockCount s.maxInf apdu := rfl
  have hlen : 0 < chunks.length := List.length_pos_of_ne_nil hadmits.response
  have hbudget : blockCount s.maxInf apdu + chunks.length - 1 ≤ s.handler.limits.maxFrames :=
    hadmits.frames
  have hkept : Kept s.handler h1 := ⟨h.kept.role, h.kept.limits, h.kept.cid⟩
  have hlimits := hkept.limits
  dsimp only [cost] at hp
  exact
    { length := by omega
      sound := hsound.next _ _ hkept
      short := hadmits.short
      holds := h.holds
      number := h.number
      chain := h.chain
      max := by
        show _ ≤ h1.limits.maxChainLen
        rw [hlimits]
        exact hadmits.length
      fits := hadmits.fits
      budget := by
        have hle : h1.counters.frames ≤ 0 + (blockCount s.maxInf apdu - 1) := h.counted
        show h1.counters.frames + _ + 1 ≤ h1.limits.maxFrames
        rw [hlimits]
        omega
      patience := by
        have hle : c1.frames ≤ s.card.frames + (blockCount s.maxInf apdu - 1) + 1 := h.frames
        have hsame : c1.patience = s.card.patience := h.patience
        show c1.frames + _ ≤ c1.patience
        omega
      fates := hcalm.2 }

/-- **One exchange**: the send loop hands the command over, and the receive loop starts where it
    ends.  The budgets and the patience are split between the two. -/
theorem exchange_specCard {p : List UInt8 × List (List UInt8)} {fuel : Nat} (h : s.InStep)
    (hadmits : s.Admits p) (hi : s.card.responses[s.card.command]? = some p.2)
    (hfuel : blockCount s.maxInf p.1 + p.2.length ≤ fuel)
    (hp : s.card.frames + s.cost p ≤ s.card.patience) (hcalm : s.Calm p.1) :
    Served s p (exchanging fuel s p.1) ∧ Moved s (exchanging fuel s p.1).2 p := by
  obtain ⟨apdu, chunks⟩ := p
  have hcalm : s.Calm apdu := hcalm
  have hblocks : blockCount s.maxInf apdu - 1 + 1 = blockCount s.maxInf apdu := rfl
  have hlen : 0 < chunks.length := List.length_pos_of_ne_nil hadmits.response
  have hfuel : blockCount s.maxInf apdu + chunks.length ≤ fuel := hfuel
  -- the command
  obtain ⟨h1, c1, hrun1, hhanded⟩ := sendLoop_specCard (blockCount s.maxInf apdu - 1) fuel none
    (h.sending hadmits hi hp hcalm) (by omega)
  rw [Nat.zero_mul, hblocks] at hrun1
  -- the response
  obtain ⟨k, h2, c2, hrun2, hcollected⟩ := collect (chunks.length - 1) fuel
    (hhanded.collecting h.sound hadmits hp hcalm) (by omega)
  have hrun : (exchange fuel apdu).run s =
      ((.ok chunks.flatten, (s.afterCalls (blockCount s.maxInf apdu + k) c2).atHandler h2) :
        Res (PcdError Unit) ChainVec × SpecPair) := by
    have hsent : (sendLoop apdu s.maxInf fuel 0 none).run s.begun = _ := hrun1
    rw [run_exchange fuel apdu s h.sound.inf]
    refine (Act.run_bind_ok hsent _).trans (hrun2.trans ?_)
    exact congrArg _ (afterCalls_add s.begun _ k c1 c2 h1 h2)
  have hnone : (s.fates.take (blockCount s.maxInf apdu)).count .answerLost = 0 :=
    count_answerLost_take hcalm.1
  have hkept : Kept s.handler h2 :=
    ⟨hcollected.kept.role.trans hhanded.kept.role, hcollected.kept.limits.trans hhanded.kept.limits,
      hcollected.kept.cid.trans hhanded.kept.cid⟩
  have hsame := hcollected.same
  rw [exchanging, hrun]
  constructor
  · refine ⟨rfl, hsame.received.trans hhanded.received, ⟨blockCount s.maxInf apdu + k, rfl, ?_⟩,
      ⟨h.sound.next _ _ hkept, hcollected.number, hcollected.chunk,
        hsame.partialCommand.trans hhanded.partialCommand⟩⟩
    have hrepeats : c2.repeats = c1.repeats +
        ((s.fates.drop (blockCount s.maxInf apdu)).take k).count .answerLost := hcollected.repeats
    have hbefore : c1.repeats = s.card.repeats := hhanded.repeats
    show c2.repeats = _
    rw [List.take_add, List.count_append, hnone, Nat.zero_add, hrepeats, hbefore]
  · refine ⟨hkept, rfl, rfl, hcollected.command, hsame.responses.trans hhanded.responses,
      hsame.patience.trans hhanded.patience, ?_⟩
    have hle1 : c1.frames ≤ s.card.frames + (blockCount s.maxInf apdu - 1) + 1 := hhanded.frames
    have hle2 : c2.frames ≤ c1.frames + (maxRetries + 1) * (chunks.length - 1) := hcollected.frames
    show c2.frames ≤
      s.card.frames + (blockCount s.maxInf apdu + (maxRetries + 1) * (chunks.length - 1))
    omega

/-! ## Every sequence of exchanges

  A script of commands with their responses, and the losses along the whole of it. -/

/-- What the reader is made of stays, and with it what an exchange needs. -/
theorem Moved.admits {s' : SpecPair} {p p' : List UInt8 × List (List UInt8)} (h : Moved s s' p')
    (hadmits : s.Admits p) : s'.Admits p ∧ s'.cost p = s.cost p ∧ s'.maxInf = s.maxInf := by
  have hinf : s'.maxInf = s.maxInf := by rw [maxInf, maxInf, h.fsc, h.kept.cid]
  refine ⟨⟨hadmits.command, hadmits.response, ?_, ?_, hadmits.fits, ?_⟩, ?_, hinf⟩
  · rw [h.fsd]; exact hadmits.short
  · rw [h.kept.limits]; exact hadmits.length
  · rw [h.kept.limits, hinf]; exact hadmits.frames
  · rw [cost, cost, hinf]

/-- What a script costs. -/
def total (cost : List UInt8 × List (List UInt8) → Nat) : List (List UInt8 × List (List UInt8)) → Nat
  | [] => 0
  | p :: script => cost p + total cost script

/-- From any state in step, by induction on the script: every exchange leaves the two in step for
    the next one. -/
theorem exchanging_served {fuel : Nat} (script : List (List UInt8 × List (List UInt8))) :
    ∀ {s : SpecPair}, s.InStep → s.card.responses.drop s.card.command = script.map Prod.snd →
    (∀ p ∈ script, s.Admits p) → (∀ p ∈ script, blockCount s.maxInf p.1 + p.2.length ≤ fuel) →
    s.card.frames + total s.cost script ≤ s.card.patience →
    (∀ e ∈ Run.trace (exchanging fuel) s (script.map Prod.fst), e.before.Calm e.input) →
    List.Forall₂ (fun e p => e.input = p.1 ∧ Served e.before p (e.output, e.after))
      (Run.trace (exchanging fuel) s (script.map Prod.fst)) script := by
  induction script with
  | nil =>
    intros
    exact .nil
  | cons p script ih =>
    intro s h hresponses hadmits hfuel hp hcalm
    rw [List.map_cons] at hresponses
    rw [total] at hp
    rw [List.map_cons, Run.trace_cons] at hcalm ⊢
    have hi : s.card.responses[s.card.command]? = some p.2 := by
      have h0 : (s.card.responses.drop s.card.command)[0]? = some p.2 := by rw [hresponses]; rfl
      rwa [List.getElem?_drop, Nat.add_zero] at h0
    have hadmit := hadmits p (List.mem_cons_self ..)
    obtain ⟨hserved, hmoved⟩ := exchange_specCard h hadmit hi (hfuel p (List.mem_cons_self ..))
      (by omega) (hcalm _ (List.mem_cons_self ..))
    refine .cons ⟨rfl, hserved⟩ (ih hserved.inStep ?_ ?_ ?_ ?_ ?_)
    · rw [hmoved.command, hmoved.responses, ← List.drop_drop, hresponses]
      rfl
    · exact fun p' hp' => (hmoved.admits (hadmits p' (List.mem_cons_of_mem _ hp'))).1
    · intro p' hp'
      rw [(hmoved.admits hadmit).2.2]
      exact hfuel p' (List.mem_cons_of_mem _ hp')
    · have hcost : (exchanging fuel s p.1).2.cost = s.cost := by
        funext p'
        rw [cost, cost, (hmoved.admits hadmit).2.2]
      have hframes := hmoved.frames
      rw [hcost, hmoved.patience]
      omega
    · exact fun e he => hcalm e (List.mem_cons_of_mem _ he)

/-- The reader of the tests: built over the card by `new`, without RATS. -/
def begin (card : SpecCard) (fates : List Fate) (ats : Ats) (fsdi : Fsdi) (cid : Option Cid)
    (limits : Limits) : SpecPair :=
  (Pcd.new (⟨card, fates⟩ : Lossy SpecCard) ats fsdi cid false).setLimits limits

/-- It is in step with a card that has done nothing yet. -/
theorem inStep_begin (responses : List (List (List UInt8))) (patience : Nat) (fates : List Fate)
    (ats : Ats) (fsdi : Fsdi) (cid : Option Cid) (limits : Limits) :
    (begin { responses, patience } fates ats fsdi cid limits).InStep := by
  obtain ⟨hfsc, hfsc'⟩ := ats.format.fsci.fsc_bounds
  obtain ⟨hfsd, hfsd'⟩ := fsdi.fsd_bounds
  refine ⟨⟨rfl, rfl, hfsc', hfsd, hfsd', ?_⟩, (show (1 : Fin 2) = 1 - 0 by decide), rfl, rfl⟩
  show ats.format.fsci.fsc - (3 + if cid.isSome then 1 else 0) ≠ 0
  split <;> omega

/-- Calmness looks at finitely many calls. -/
instance (s : SpecPair) (apdu : List UInt8) : Decidable (s.Calm apdu) :=
  inferInstanceAs (Decidable ((∀ q < _, _) ∧ _))

/-- **The reader and a card that follows the rules.**  The card of the tests has a response for every
    command, cut into chunks as it likes.  As long as no command is touched, and no three calls in a
    row fail while a response comes in, every exchange of every sequence hands the card exactly the
    command and returns its chunks in one piece, and the card repeats a block (Rule 11) exactly as
    often as one of its answers is lost. -/
theorem specCard_served {s : SpecPair} (ats : Ats) (fsdi : Fsdi) (cid : Option Cid) (limits : Limits)
    (patience : Nat) (fates : List Fate) (script : List (List UInt8 × List (List UInt8))) {fuel : Nat}
    (hs : s = begin { responses := script.map Prod.snd, patience } fates ats fsdi cid limits)
    (hadmits : ∀ p ∈ script, s.Admits p) (hpatience : total s.cost script ≤ patience)
    (hfuel : ∀ p ∈ script, blockCount s.maxInf p.1 + p.2.length ≤ fuel)
    (hcalm : ∀ e ∈ Run.trace (exchanging fuel) s (script.map Prod.fst), e.before.Calm e.input) :
    List.Forall₂ (fun e p => e.input = p.1 ∧ Served e.before p (e.output, e.after))
      (Run.trace (exchanging fuel) s (script.map Prod.fst)) script := by
  subst hs
  refine exchanging_served script (inStep_begin ..) rfl hadmits hfuel ?_ hcalm
  show 0 + _ ≤ patience
  rwa [Nat.zero_add]

/-- Three four-byte chunks. -/
def threeChunks : List (List UInt8) := [[1, 2, 3, 4], [5, 6, 7, 8], [9, 10, 11, 12]]

/-- The reader of the tests with the small FSC; in the first response two answers and a frame are
    lost. -/
def sampleBegin : SpecPair :=
  begin { responses := [threeChunks, threeChunks] }
    [.delivered, .answerLost, .frameLost, .delivered, .answerLost] (Ats.new .fsc16 0 {} 0) .fsd256 none
    Limits.default

/-- The commands of the tests, with the responses. -/
def sampleScript : List (List UInt8 × List (List UInt8)) :=
  [([0x00, 0xb0], threeChunks), ((List.range 30).map UInt8.ofNat, threeChunks)]

omit [Build] in
/-- Chaining in both directions, with losses. -/
theorem specCard_served_sample : let : Build := Build.heap
    List.Forall₂ (fun e p => e.input = p.1 ∧ Served e.before p (e.output, e.after))
      (Run.trace (exchanging 6) sampleBegin (sampleScript.map Prod.fst)) sampleScript := by
  have hcalm : let : Build := Build.heap
      ∀ e ∈ Run.trace (exchanging 6) sampleBegin (sampleScript.map Prod.fst),
        e.before.Calm e.input := by decide +kernel
  intro _
  refine specCard_served (Ats.new .fsc16 0 {} 0) .fsd256 none Limits.default 50 _ sampleScript rfl ?_
    (by decide) ?_ hcalm
  · intro p hp
    rcases List.mem_pair.mp hp with rfl | rfl
    · exact ⟨by decide, by decide, by decide, by decide, by decide, by decide⟩
    · exact ⟨by decide, by decide, by decide, by decide, by decide, by decide⟩
  · intro p hp
    rcases List.mem_pair.mp hp with rfl | rfl <;> decide

end SpecPair

end Iso14443
