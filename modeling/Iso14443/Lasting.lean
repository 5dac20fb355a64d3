/-
  A session lasts: whatever exchanges the reader tries, and whatever the link loses, reader and
  card stay in their session.

  This is not obvious, since two things would end it.  A card that is sent an S(DESELECT), or says
  one, halts; and a card that has sent nothing and is asked to repeat it answers with a block of an
  earlier session.  `exchange` does neither, by an invariant of the card:

  * `Peer.Plain`       — what the card has said, and may say again, are I-Blocks and R-Blocks.  A
                         plain card answers plain blocks with plain blocks, remembers what it said,
                         and never forgets that it said something.
  * `Reader.Stays`     — where one part of an exchange leaves both sides: linked as before, the
                         card plain, and what is left of the fates.
  * `exchange_stays`   — an exchange, with any command, whatever is lost and however it ends.
  * `exchanging_stays` — a run of exchanges.

  The reader asks for a repeat only after something came in, so the card has something to repeat.
-/
import Iso14443.Agreement
import Iso14443.Dialogue

namespace Iso14443

open ProtocolHandler

/-! ## The card

  A card that gets I-Blocks and R-Blocks answers with I-Blocks and R-Blocks; what it would send
  again is what it has sent. -/

/-- An I-Block or an R-Block. -/
def Block.Plain (b : Block) : Prop := b.blockType ≠ .sBlock

/-- An R-Block is plain. -/
theorem Block.plain_of_rblock {b : Block} (h : b.blockType = .rBlock) : b.Plain := by
  rw [Block.Plain, h]
  simp

/-- So is a chunk. -/
theorem plain_chunk (h : ProtocolHandler) (data : List UInt8) (inf offset : Nat) :
    (Peer.chunk h data inf offset).Plain := by
  rw [Block.Plain, (Peer.blockType_chunk h data inf offset).1]
  simp

/-- What a handler replies to an I-Block or an R-Block is an R(ACK). -/
theorem ProtocolHandler.reply_rblock [Build] {h k : ProtocolHandler} {b reply : Block} (hb : b.Plain)
    (hr : receive h b = (.ok (.reply reply), k)) : reply.blockType = .rBlock := by
  have hrec := processReceived_received h b
  rw [show (processReceived b).run h = _ from hr] at hrec
  cases hrec with
  | repeated => exact (isRack_buildRack h).1
  | chained => exact (isRack_buildRack h.advanced).1
  | presence => exact (isRack_buildRack h).1
  | wtx _ ht => exact absurd ht hb
  | deselect _ ht => exact absurd ht hb

namespace Peer

/-- What the card has said in this session, and may say again, are I-Blocks and R-Blocks. -/
structure Plain (p : Peer) : Prop where
  last : ∀ b ∈ p.last, b.Plain
  call : ∀ data inf stop iblock, p.call = .sendResponse data inf stop iblock → iblock.Plain

variable {p : Peer} {b : Block}

/-- A card that listens is plain when what it remembers is. -/
theorem plain_listen (h : ∀ b ∈ p.last, b.Plain) : p.listen.Plain :=
  ⟨h, by rintro _ _ _ _ ⟨⟩⟩

/-- A card at the start of a session has said nothing. -/
theorem plain_fresh (cid : Option Cid) (limits : Limits) (handed : List ChainVec) :
    (fresh cid limits handed).Plain :=
  ⟨by rintro b ⟨⟩, by rintro _ _ _ _ ⟨⟩⟩

/-- A chunk of a response is plain, and is what the card remembers. -/
theorem plain_sendChunk (p : Peer) (data : List UInt8) (inf offset : Nat) :
    (p.sendChunk data inf offset).2.Plain ∧
      (p.sendChunk data inf offset).2.last = some (chunk p.handler data inf offset) := by
  have hlast : ∀ b ∈ some (chunk p.handler data inf offset), b.Plain := by
    rintro b ⟨⟩
    exact plain_chunk p.handler data inf offset
  simp only [sendChunk]
  split
  · refine ⟨⟨hlast, ?_⟩, rfl⟩
    rintro _ _ _ _ ⟨⟩
    exact plain_chunk p.handler data inf offset
  · exact ⟨plain_listen hlast, rfl⟩

variable [Build]

/-- **What a plain card says it remembers**, it never forgets that it said something, and it stays
    plain. -/
theorem Plain.step (h : p.Plain) (hb : b.Plain) (respond : List ChainVec → List UInt8) (fsd : Nat) :
    (p.step respond fsd b).2.Plain ∧
      (∀ a ∈ (p.step respond fsd b).1, (p.step respond fsd b).2.last = some a) ∧
      (p.last ≠ none → (p.step respond fsd b).2.last ≠ none) := by
  obtain ⟨call, handler, last, handed⟩ := p
  have hlast := h.last
  -- a call that ends without a word
  have hsilent : ∀ k, (listen ⟨call, k, last, handed⟩).Plain ∧
      (∀ a ∈ (none : Option Block), (listen ⟨call, k, last, handed⟩).last = some a) ∧
      (last ≠ none → (listen ⟨call, k, last, handed⟩).last ≠ none) :=
    fun k => ⟨plain_listen hlast, by rintro a ⟨⟩, id⟩
  have hchunk : ∀ (q : Peer) data inf offset, (q.sendChunk data inf offset).2.Plain ∧
      (∀ a ∈ (q.sendChunk data inf offset).1, (q.sendChunk data inf offset).2.last = some a) ∧
      (last ≠ none → (q.sendChunk data inf offset).2.last ≠ none) := by
    intro q data inf offset
    obtain ⟨hplain, hsaid⟩ := plain_sendChunk q data inf offset
    refine ⟨hplain, ?_, fun _ => by simp [hsaid]⟩
    rintro a ⟨⟩
    exact hsaid
  rcases receive_cases handler b with ⟨a, k, hr⟩ | ⟨e, k, hr⟩
  · cases a with
    | complete data =>
      cases call with
      | receiveCommand =>
        rw [step_complete rfl hr]
        exact hchunk _ _ _ _
      | sendResponse d inf stop iblock =>
        rw [step_swallow rfl hr]
        exact hsilent k
      | waitForActivation | waitForRats => simpa only [Peer.step, hr] using hsilent k
    | reply reply =>
      have hreply : ∀ b ∈ some reply, b.Plain := by
        rintro b ⟨⟩
        exact Block.plain_of_rblock (reply_rblock hb hr)
      have hsaid : ∀ q : Peer, q.last = some reply → q.Plain → q.Plain ∧
          (∀ a ∈ some reply, q.last = some a) ∧ (last ≠ none → q.last ≠ none) := by
        intro q hq hplain
        refine ⟨hplain, ?_, fun _ => by simp [hq]⟩
        rintro a ⟨⟩
        exact hq
      simp only [Peer.step, hr]
      split
      · exact hsaid _ rfl (plain_listen hreply)
      · exact hsaid _ rfl ⟨hreply, h.call⟩
    | chainingAck =>
      cases call with
      | sendResponse d inf stop iblock =>
        rw [step_release rfl hr]
        exact hchunk _ _ _ _
      | receiveCommand | waitForActivation | waitForRats =>
        simpa only [Peer.step, hr] using hsilent k
    | chainingRetransmit =>
      cases call with
      | sendResponse d inf stop iblock =>
        rw [step_repeat rfl hr]
        have hiblock : ∀ b ∈ some iblock, b.Plain := by
          rintro b ⟨⟩
          exact h.call d inf stop iblock rfl
        exact ⟨⟨hiblock, h.call⟩, fun a ha => ha, fun _ => by simp⟩
      | receiveCommand =>
        cases last with
        | none => simpa only [Peer.step, hr] using hsilent k
        | some l =>
          rw [step_again rfl rfl hr]
          exact ⟨⟨hlast, by rintro _ _ _ _ ⟨⟩⟩, fun a ha => ha, id⟩
      | waitForActivation | waitForRats => simpa only [Peer.step, hr] using hsilent k
  · rw [step_err hr]
    exact hsilent k

omit [Build] in
/-- A chunk of a response leaves an empty chain alone. -/
theorem sendChunk_chain (hchain : p.handler.chain = []) (data : List UInt8) (inf offset : Nat) :
    (p.sendChunk data inf offset).2.handler.chain = [] := by
  simp only [sendChunk]
  split
  · exact hchain
  · rfl

/-- An R-Block brings nothing to a chain: no branch of the handler on one extends it. -/
theorem step_rblock_chain (ht : b.blockType = .rBlock) (hchain : p.handler.chain = [])
    (respond : List ChainVec → List UInt8) (fsd : Nat) :
    (p.step respond fsd b).2.handler.chain = [] := by
  obtain ⟨call, handler, last, handed⟩ := p
  have hk : (receive handler b).2.chain = [] := by
    have hrec := processReceived_received handler b
    have hrun : (processReceived b).run handler = receive handler b := rfl
    rw [hrun] at hrec
    generalize receive handler b = r at hrec ⊢
    cases hrec with
    | frames | repeatLastOut => rfl
    | release | repeatLast | presence | noSubtype => exact hchain
    | repeated _ hi | repeatedOut _ hi | tooLong _ hi | bufferFull _ hi | chained _ hi
    | complete _ hi | wtx _ hi | wtxValue _ hi | wtxRunOut _ hi | wtxTotalOut _ hi | deselect _ hi
    | badSubtype _ hi =>
      rw [ht] at hi
      cases hi
  generalize hr : receive handler b = r at hk
  obtain ⟨r, k⟩ := r
  simp only [Peer.step, hr]
  split
  · exact sendChunk_chain hk _ _ _
  · split
    · exact hk
    · rfl
  · exact sendChunk_chain hk _ _ _
  · exact hk
  · dsimp only
    split
    · rfl
    · exact hk
  · rfl

end Peer

/-! ## Reader and card

  One call, whatever the link makes of it. -/

/-- A call never changes the parameters of the card. -/
theorem Wire.keeps_call [Build] (respond : List ChainVec → List UInt8) (fsd : Nat) (w : Wire)
    (b : Block) : w.peer.Keeps (w.call respond fsd b).2.peer := by
  rcases call_cases respond fsd w b with ⟨-, hpeer⟩ | ⟨hpeer, -⟩
  · rw [hpeer]
    exact ⟨rfl, rfl⟩
  · rw [hpeer]
    exact Peer.keeps_step w.peer respond fsd b

namespace Reader

open Pcd

/-- Reader and card are still in their session, with what is left of the fates.  Nothing is said of
    what was delivered: this holds of every exchange, also of one that failed. -/
structure Stays (respond : List ChainVec → List UInt8) (s : Reader) (w : Wire) (s' : Reader)
    (w' : Wire) : Prop where
  linked : Linked respond s' w'
  setting : s'.setting = s.setting
  plain : w'.peer.Plain
  fates : ∃ k, w'.fates = w.fates.drop k
  heard : w.peer.last ≠ none → w'.peer.last ≠ none

variable {respond : List ChainVec → List UInt8} {s s' s'' : Reader} {w w' w'' : Wire} {b : Block}

/-- A step of the reader's handler alone stays in the session. -/
theorem Linked.stays (h : Linked respond s w) (hplain : w.peer.Plain) {k : ProtocolHandler}
    (hrole : k.role = .pcd) (hcid : k.cid = s.handler.cid) (hlimits : k.limits = s.handler.limits) :
    Stays respond s w { s with handler := k } w :=
  ⟨h.withHandler hrole, setting_handler s hcid hlimits, hplain, ⟨0, rfl⟩, id⟩

/-- Two stretches of a session are one. -/
theorem Stays.trans (h : Stays respond s w s' w') (h' : Stays respond s' w' s'' w'') :
    Stays respond s w s'' w'' := by
  obtain ⟨k, hk⟩ := h.fates
  obtain ⟨k', hk'⟩ := h'.fates
  exact ⟨h'.linked, h'.setting.trans h.setting, h'.plain, ⟨k + k', by rw [hk', hk, List.drop_drop]⟩,
    fun hne => h'.heard (h.heard hne)⟩

variable [Build]

/-- A handler keeps its role, its CID and its limits. -/
theorem receive_keeps {h k : ProtocolHandler} {r : Res TypeAError Action}
    (hr : receive h b = (r, k)) : k.role = h.role ∧ k.cid = h.cid ∧ k.limits = h.limits := by
  have hrec := processReceived_received h b
  rw [show (processReceived b).run h = _ from hr] at hrec
  cases hrec <;> exact ⟨rfl, rfl, rfl⟩

/-- **One block out, one block in.**  A block that comes in is plain, and the card remembers it. -/
theorem Linked.call_stays (h : Linked respond s w) (hplain : w.peer.Plain)
    (hb : Peer.Sendable s.fsc b) (hbplain : b.Plain)
    (hask : w.peer.last = none → b.blockType = .iBlock) :
    ∃ t, (transceiveBlock b).run s = (brought (w.call respond s.fsd b).1, s.withTransceiver t) ∧
      Stays respond s w (s.withTransceiver t) (w.call respond s.fsd b).2 ∧
      ∀ a ∈ (w.call respond s.fsd b).1,
        a.Plain ∧ (w.call respond s.fsd b).2.peer.last ≠ none := by
  obtain ⟨t, hrun, hl, -⟩ := h.call hb hask
  obtain ⟨hp, hsaid, hheard⟩ := hplain.step hbplain respond s.fsd
  refine ⟨t, hrun, ?_⟩
  have hfates : ∃ k, (w.call respond s.fsd b).2.fates = w.fates.drop k :=
    ⟨1, by rw [Wire.call_fates, List.drop_one]⟩
  have hsetting := h.setting_call hl (Wire.keeps_call respond s.fsd w b)
  rcases Wire.call_cases respond s.fsd w b with ⟨hnone, hpeer⟩ | ⟨hpeer, hsome⟩
  · refine ⟨⟨hl, hsetting, by rwa [hpeer], hfates, by rw [hpeer]; exact id⟩, ?_⟩
    rw [hnone]
    rintro a ⟨⟩
  · refine ⟨⟨hl, hsetting, by rwa [hpeer], hfates, by rwa [hpeer]⟩, fun a ha => ?_⟩
    have hlast := hsaid a (hsome a ha)
    rw [hpeer, hlast]
    exact ⟨hp.last a hlast, by simp⟩

/-! ### The response

  The reader asks, with R(ACK)s that the card has something for. -/

/-- What a question for a block does: reader and card stay, nothing is added to a chain, and a block
    that comes in is plain. -/
def Asks (respond : List ChainVec → List UInt8) (s : Reader) (w : Wire)
    (out : Res (PcdError Unit) Block × Reader) : Prop :=
  ∃ t w', out.2 = s.withTransceiver t ∧ Stays respond s w (s.withTransceiver t) w' ∧
    (w.peer.handler.chain = [] → w'.peer.handler.chain = []) ∧
    ((∃ e, out.1 = .err e) ∨ ∃ a, out.1 = .ok a ∧ a.Plain)

/-- An R-Block. -/
theorem asks_once (h : Linked respond s w) (hplain : w.peer.Plain) (hlast : w.peer.last ≠ none)
    (hb : Peer.Sendable s.fsc b) (ht : b.blockType = .rBlock) :
    Asks respond s w ((transceiveBlock b).run s) := by
  obtain ⟨t, hrun, hstays, hanswer⟩ := h.call_stays hplain hb (Block.plain_of_rblock ht)
    fun hnone => absurd hnone hlast
  refine ⟨t, _, by rw [hrun], hstays, fun hchain => ?_, ?_⟩
  · rcases Wire.call_cases respond s.fsd w b with ⟨-, hpeer⟩ | ⟨hpeer, -⟩
    · rw [hpeer, hchain]
    · rw [hpeer]
      exact Peer.step_rblock_chain ht hchain respond s.fsd
  · rw [hrun]
    cases hout : (w.call respond s.fsd b).1 with
    | none => exact Or.inl ⟨_, rfl⟩
    | some a => exact Or.inr ⟨a.wire, rfl, (hanswer a hout).1⟩

omit [Build] in
/-- Asking again after an error. -/
theorem Asks.again {t : Tally Link Unit} {out : Res (PcdError Unit) Block × Reader}
    (hstays : Stays respond s w (s.withTransceiver t) w')
    (hchain : w.peer.handler.chain = [] → w'.peer.handler.chain = [])
    (h : Asks respond (s.withTransceiver t) w' out) : Asks respond s w out := by
  obtain ⟨t', w'', hout, hstays', hchain', hanswer⟩ := h
  exact ⟨t', w'', hout, hstays.trans hstays', fun hnil => hchain' (hchain hnil), hanswer⟩

/-- The retries, Rule 5. -/
theorem asks_retry (n : Nat) : ∀ {s : Reader} {w : Wire}, Linked respond s w → w.peer.Plain →
    w.peer.last ≠ none → Asks respond s w ((retry true n).run s) := by
  induction n with
  | zero =>
    intro s w h hplain _
    exact ⟨s.transceiver, w, rfl, ⟨h, rfl, hplain, ⟨0, rfl⟩, id⟩, id, Or.inl ⟨_, rfl⟩⟩
  | succ n ih =>
    intro s w h hplain hlast
    obtain ⟨t, w', hout, hstays, hchain, hres⟩ :=
      asks_once h hplain hlast h.sendable_rack (isRack_buildRack _).1
    simp only [retry, Act.run_get_bind, if_true]
    rcases hres with ⟨e, he⟩ | ⟨a, hok, ha⟩
    · rw [Act.run_bind_ok (Act.run_attempt_err (Prod.ext he hout))]
      exact (ih hstays.linked hstays.plain (hstays.heard hlast)).again hstays hchain
    · rw [Act.run_bind_ok (Act.run_attempt_ok (Prod.ext hok hout))]
      exact ⟨t, w', rfl, hstays, hchain, Or.inr ⟨a, rfl, ha⟩⟩

/-- **A reply, with recovery.** -/
theorem asks_recovery (h : Linked respond s w) (hplain : w.peer.Plain) (hlast : w.peer.last ≠ none)
    (hb : Peer.Sendable s.fsc b) (ht : b.blockType = .rBlock) :
    Asks respond s w ((transceiveWithRecovery b true).run s) := by
  obtain ⟨t, w', hout, hstays, hchain, hres⟩ := asks_once h hplain hlast hb ht
  simp only [transceiveWithRecovery]
  rcases hres with ⟨e, he⟩ | ⟨a, hok, ha⟩
  · rw [Act.run_bind_ok (Act.run_attempt_err (Prod.ext he hout))]
    exact (asks_retry maxRetries hstays.linked hstays.plain (hstays.heard hlast)).again hstays hchain
  · rw [Act.run_bind_ok (Act.run_attempt_ok (Prod.ext hok hout))]
    exact ⟨t, w', rfl, hstays, hchain, Or.inr ⟨a, rfl, ha⟩⟩

/-- **The response**: whatever comes in, reader and card stay, and the card is asked for nothing it
    would take for a command. -/
theorem collectResponse_stays (fuel : Nat) : ∀ {s : Reader} {w : Wire} {b : Block},
    Linked respond s w → w.peer.Plain → w.peer.last ≠ none → b.Plain →
    ∃ w', Stays respond s w ((collectResponse fuel b).run s).2 w' ∧
      (w.peer.handler.chain = [] → w'.peer.handler.chain = []) := by
  induction fuel with
  | zero =>
    intro s w b h hplain _ _
    exact ⟨w, ⟨h, rfl, hplain, ⟨0, rfl⟩, id⟩, id⟩
  | succ fuel ih =>
    intro s w b h hplain hlast hb
    rcases s.handler.receive_cases b with ⟨a, k, hr⟩ | ⟨e, k, hr⟩
    · obtain ⟨hrole, hcid, hlimits⟩ := receive_keeps hr
      have hstays := h.stays hplain (hrole.trans h.role) hcid hlimits
      rw [run_collectResponse hr]
      cases a with
      | complete data => exact ⟨w, hstays, id⟩
      | chainingAck => exact ⟨w, hstays, id⟩
      | chainingRetransmit => exact ⟨w, hstays, id⟩
      | reply reply =>
        have hsend : Peer.Sendable s.fsc reply := Peer.sendable_reply h.fsc_bounds.1 hr
        obtain ⟨t, w', hout, hasks, hchain, hres⟩ :=
          asks_recovery hstays.linked hplain hlast hsend (reply_rblock hb hr)
        rcases hres with ⟨e, he⟩ | ⟨x, hok, hx⟩
        · dsimp only
          rw [Act.run_bind_err (Prod.ext he hout)]
          exact ⟨w', hstays.trans hasks, hchain⟩
        · dsimp only
          rw [Act.run_bind_ok (Prod.ext hok hout)]
          obtain ⟨w'', hcollect, hchain'⟩ := ih hasks.linked hasks.plain (hasks.heard hlast) hx
          exact ⟨w'', (hstays.trans hasks).trans hcollect, fun hnil => hchain' (hchain hnil)⟩
    · obtain ⟨hrole, hcid, hlimits⟩ := receive_keeps hr
      rw [collectResponse, Act.run_bind, run_onHandler_receive, hr]
      exact ⟨w, h.stays hplain (hrole.trans h.role) hcid hlimits, id⟩

/-! ### The command

  Chunks of a command, and whatever comes back.  Most answers end the loop. -/

omit [Build] in
/-- What has become of the wire, told of what is left of the transceiver. -/
theorem Stays.withTransceiver {t t' : Tally Link Unit} {k : ProtocolHandler}
    (h : Stays respond s w (s.withTransceiver t) w')
    (hl : Linked respond (s.withTransceiver t') w') (hcard : w.peer.Keeps w'.peer)
    (hlinked : Linked respond s w) (hcid : k.cid = s.handler.cid)
    (hlimits : k.limits = s.handler.limits) (hrole : k.role = s.handler.role) :
    Stays respond s w { s.withTransceiver t' with handler := k } w' := by
  refine ⟨hl.withHandler (hrole.trans hlinked.role), ?_, h.plain, h.fates, h.heard⟩
  exact (setting_handler (s.withTransceiver t') hcid hlimits).trans (hlinked.setting_call hl hcard)

/-- **The send loop**: reader and card stay, and an answer that is left for the response is plain.
    The induction is on the fuel; a round ends the loop, or both sides stay for the next one. -/
theorem sendLoop_stays (apdu : List UInt8) (fuel : Nat) : ∀ {s : Reader} {w : Wire} {offset : Nat},
    Linked respond s w → w.peer.Plain → offset < apdu.length →
    ∃ w', Stays respond s w ((sendLoop apdu s.maxInf fuel offset none).run s).2 w' ∧
      ∀ x, ((sendLoop apdu s.maxInf fuel offset none).run s).1 = .ok x →
        ∃ a, x = some a ∧ a.Plain ∧ w'.peer.last ≠ none := by
  induction fuel with
  | zero =>
    intro s w offset h hplain hoff
    rw [sendLoop, if_pos hoff]
    exact ⟨w, ⟨h, rfl, hplain, ⟨0, rfl⟩, id⟩, by rintro x ⟨⟩⟩
  | succ fuel ih =>
    intro s w offset h hplain hoff
    obtain ⟨ht, hn, hc, -⟩ := s.blockType_commandChunk apdu offset
    have hchunk : (s.commandChunk apdu offset).Plain := by
      rw [Block.Plain, ht]
      simp
    obtain ⟨t₀, -, hstays, hanswer⟩ :=
      h.call_stays hplain (h.sendable_chunk apdu offset _) hchunk fun _ => ht
    -- the call as the rounds of the loop see it, with what they leave of transceiver and handler
    have hnext : ∀ t (k : ProtocolHandler), k.cid = s.handler.cid → k.limits = s.handler.limits →
        k.role = s.handler.role → Linked respond (s.withTransceiver t)
          (w.call respond s.fsd (s.commandChunk apdu offset)).2 →
        Stays respond s w { s.withTransceiver t with handler := k }
          (w.call respond s.fsd (s.commandChunk apdu offset)).2 := by
      intro t k hcid hlimits hrole hl
      exact hstays.withTransceiver hl (Wire.keeps_call respond s.fsd w _) h hcid hlimits hrole
    cases hcall : (w.call respond s.fsd (s.commandChunk apdu offset)).1 with
    | none =>
      obtain ⟨t, e, hrun, hl⟩ := sendLoop_silent h hoff hcall fuel none
      rw [hrun]
      exact ⟨_, hnext t s.handler rfl rfl rfl hl, by rintro x ⟨⟩⟩
    | some a =>
      obtain ⟨haplain, hheard⟩ := hanswer a hcall
      by_cases hmore : offset + s.maxInf < apdu.length
      · rcases h.call_chained hmore with ⟨hnone, -⟩ | ⟨rack, hsome, hacked⟩
        · rw [hcall] at hnone
          cases hnone
        · obtain ⟨t, hrun, hl, -⟩ := sendLoop_acked h hmore hsome (hn ▸ hacked.rack) fuel none
          rw [hrun]
          by_cases hf : s.handler.FrameOk
          · have hround := hnext t s.handler.counted.advanced rfl rfl rfl hl
            rw [if_pos hf]
            obtain ⟨w', hrest, hout⟩ := ih hround.linked hround.plain hmore
            exact ⟨w', hround.trans hrest, hout⟩
          · rw [if_neg hf]
            exact ⟨_, hnext t s.handler.counted.dropChain rfl rfl rfl hl, by rintro x ⟨⟩⟩
      · obtain ⟨t, hrun, hl, -⟩ := sendLoop_last h hoff (Nat.le_of_not_lt hmore) hcall fuel none
        rw [hrun]
        refine ⟨_, hnext t s.handler rfl rfl rfl hl, ?_⟩
        rintro x ⟨⟩
        exact ⟨a.wire, rfl, haplain, hheard⟩

/-! ### The exchange -/

/-- **An exchange leaves reader and card in their session**, with any command, whatever the link
    loses and however it ends. -/
theorem exchange_stays (fuel : Nat) (apdu : List UInt8) (h : Linked respond s w)
    (hplain : w.peer.Plain) : ∃ w', Stays respond s w ((exchange fuel apdu).run s).2 w' := by
  have hbegin := h.stays hplain (k := s.handler.beginExchange) h.role rfl rfl
  rw [run_exchange fuel apdu s h.maxInf_bounds.1, Act.run_bind]
  by_cases hoff : 0 < apdu.length
  · obtain ⟨w', hstays, hout⟩ := sendLoop_stays apdu fuel hbegin.linked hplain hoff
    have hmax : ({ s with handler := s.handler.beginExchange } : Reader).maxInf = s.maxInf := rfl
    rw [hmax] at hstays hout
    generalize (sendLoop apdu s.maxInf fuel 0 none).run
      { s with handler := s.handler.beginExchange } = out at hstays hout
    obtain ⟨r, s'⟩ := out
    cases r with
    | err e => exact ⟨w', hbegin.trans hstays⟩
    | panic => exact ⟨w', hbegin.trans hstays⟩
    | outOfFuel => exact ⟨w', hbegin.trans hstays⟩
    | ok x =>
      obtain ⟨a, rfl, ha, hheard⟩ := hout x rfl
      obtain ⟨w'', hcollect, -⟩ :=
        collectResponse_stays fuel hstays.linked hstays.plain hheard ha
      dsimp only
      rw [Act.run_bind, run_lift, Res.okOr_some, Res.mapErr_ok]
      exact ⟨w'', (hbegin.trans hstays).trans hcollect⟩
  · rw [sendLoop_done (Nat.le_of_not_lt hoff)]
    exact ⟨w, hbegin⟩

/-- **So does every run of exchanges.** -/
theorem exchanging_stays (fuel : Nat) (apdus : List (List UInt8)) : ∀ {s : Reader} {w : Wire},
    Linked respond s w → w.peer.Plain →
    ∃ w', Stays respond s w (Run.after (exchanging fuel) s apdus) w' := by
  induction apdus with
  | nil =>
    intro s w h hplain
    exact ⟨w, ⟨h, rfl, hplain, ⟨0, rfl⟩, id⟩⟩
  | cons apdu apdus ih =>
    intro s w h hplain
    obtain ⟨w', hstays⟩ := exchange_stays fuel apdu h hplain
    obtain ⟨w'', hrest⟩ := ih hstays.linked hstays.plain
    exact ⟨w'', hstays.trans hrest⟩

end Reader

end Iso14443
