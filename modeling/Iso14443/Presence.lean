/-
  Presence checks (`Picc::receive_command`, Rule 12).

  A reader that only wants to know whether its card is still there sends an R(NAK) out of step.
  The card answers with an R(ACK) and moves nothing but its frame budget.  So an idle card answers
  as long as the budget lasts, and the command that follows needs one frame of it too; only a
  budget with the last value of its counter lasts for ever, because the counter saturates there.

  * `PresenceCheck`, `InStep` — the reader's R(NAK), and its command in one I-Block.
  * `Polled`        — the card after `n` checks: all of its handler is known, and only the frame
                      counter depends on `n`.  One check more is one frame more (`Polled.check`).
  * `Lasts`         — the budget has room for so many frames.
  * `polled_iff`    — all checks are answered and the command is returned as it was sent, if and
                      only if the budget holds them all.

  The other direction needs the first check past the budget, which ends the call with
  `LimitExceeded(Frames)`; after that no frame is acknowledged.
-/
import Iso14443.Selection

namespace Iso14443

open ProtocolHandler

namespace Picc

variable {T : Type}

/-- An R(NAK) that does not carry the card's number. -/
def PresenceCheck (s : Picc T) (raw : FrameVec) : Prop :=
  ∃ b : Block, raw = b.raw s.hwCrc ∧ b.WellFormed ∧ b.bytes.length + 2 ≤ s.fsc ∧
    b.blockType = .rBlock ∧ b.pcb.rSubtype = some .nak ∧ b.blockNumber ≠ s.handler.blockNumber

/-- A command in one I-Block, in step with the card and within its limits: the block
    `receive_command` returns at once, if the frame budget has room for it. -/
def InStep (s : Picc T) (raw : FrameVec) (apdu : ChainVec) : Prop :=
  ∃ b : Block, raw = b.raw s.hwCrc ∧ b.WellFormed ∧ b.bytes.length + 2 ≤ s.fsc ∧
    b.blockType = .iBlock ∧ b.isChaining = false ∧ b.blockNumber ≠ s.handler.blockNumber ∧
    b.payload = apdu ∧ apdu.length ≤ s.handler.limits.maxChainLen

/-- The frame budget of the card has room for `n` frames. -/
def Lasts (s : Picc T) (n : Nat) : Prop :=
  n ≤ s.handler.limits.maxFrames ∨ s.handler.limits.maxFrames = u16Max

end Picc

namespace PiccSession

variable {T E : Type} [Build] [PiccTransceiver T E]

/-- `receive_command` called on this card. -/
def commanded (s : Picc (Logged T)) : PiccSession (Logged T) :=
  (step (E := E) ⟨s, none⟩ (.call .receiveCommand)).2

/-- The card goes on waiting, and sends an R(ACK) with the number it had: Rule 12, and no trace of
    the check in the state but its frame. -/
def Delivery.Acknowledged (s : Picc (Logged T)) (e : Delivery T E) : Prop :=
  e.output = none ∧
    e.after.picc.sent = e.before.picc.sent ++ [.standard (s.handler.buildRack.raw s.hwCrc)] ∧
    e.after.picc.handler.blockNumber = s.handler.blockNumber

/-- Each check is acknowledged, and then the command is returned: what a reader that polls an idle
    card is promised. -/
def AnswersAll (s : Picc (Logged T)) (checks : List FrameVec) (command : FrameVec)
    (apdu : ChainVec) : Prop :=
  let received : List (Except E FrameVec) := checks.map .ok
  (∀ e ∈ Run.trace deliver (commanded (E := E) s) received, Delivery.Acknowledged s e) ∧
  (deliver (Run.after deliver (commanded (E := E) s) received) (.ok command)).1 =
    some (.ok (.apdu apdu))

/-! ## The card between two checks

  A check leaves of the card what it was but for one count, so the card after `n` checks is
  known. -/

/-- The handler of a card that was polled `n` times. -/
def polledHandler (h : ProtocolHandler) (n : Nat) : ProtocolHandler :=
  { h.beginExchange with counters := { frames := min n u16Max } }

/-- A card in `receive_command`, polled `n` times: `n` frames are counted, and nothing else has
    happened. -/
structure Polled (s : Picc (Logged T)) (n : Nat) (x : PiccSession (Logged T)) : Prop where
  call : x.call = some .receiveCommand
  hwCrc : x.picc.hwCrc = s.hwCrc
  config : x.picc.config = s.config
  handler : x.picc.handler = polledHandler s.handler n

variable {s : Picc (Logged T)} {n : Nat} {x : PiccSession (Logged T)}

/-- A card that has just been asked for a command has not been polled. -/
theorem polled_commanded (s : Picc (Logged T)) : Polled s 0 (commanded (E := E) s) :=
  ⟨rfl, rfl, rfl, rfl⟩

omit [Build] [PiccTransceiver T E] in
/-- One frame more is within the budget. -/
theorem frameOk_polledHandler (s : Picc (Logged T)) (n : Nat) :
    (polledHandler s.handler n).FrameOk ↔ s.Lasts (n + 1) := by
  have hle := s.handler.limits.frames_le
  show saturatingIncr u16Max (min n u16Max) ≤ s.handler.limits.maxFrames ↔ _
  simp only [saturatingIncr, Picc.Lasts]
  omega

omit [Build] [PiccTransceiver T E] in
/-- One check more is one frame more. -/
theorem counted_polledHandler (h : ProtocolHandler) (n : Nat) :
    (polledHandler h n).counted = polledHandler h (n + 1) := by
  have hcount : saturatingIncr u16Max (min n u16Max) = min (n + 1) u16Max := by
    simp only [saturatingIncr]
    omega
  simp only [counted, Counters.countFrame, polledHandler, hcount]

/-! ## One frame

  A check, or the command, within the budget or past it. -/

/-- A frame past the budget ends the call, whatever it is. -/
theorem Polled.refuses (h : Polled s n x) (hout : ¬ s.Lasts (n + 1)) {b : Block}
    (hb : b.WellFormed) (hlen : b.bytes.length + 2 ≤ s.fsc) :
    (deliver x (.ok (b.raw s.hwCrc))).1 = some (.err (.protocol (.limitExceeded .frames))) := by
  obtain ⟨picc, call⟩ := x
  obtain ⟨rfl, hcrc, hconfig, hhandler⟩ := h
  dsimp only at hcrc hconfig hhandler
  have hr : picc.handler.receive b =
      (.err (.limitExceeded .frames), picc.handler.counted.dropChain) := by
    refine Received.eq (.frames ?_)
    rw [hhandler, frameOk_polledHandler]
    exact hout
  have hrun := Picc.run_receiveCommand_read (E := E) hb
    (by simpa only [Picc.fsc, hconfig] using hlen) hr
  show (advance picc (Picc.receiveCommand (b.raw s.hwCrc))).1 = _
  rw [advance, ← hcrc, hrun]
  rfl

/-- **A check within the budget is answered.** The frame is counted, and the R(ACK) carries the
    number that the card had before, so nothing shows of how many there were. -/
theorem Polled.check (h : Polled s n x) (hrole : s.handler.role = .picc)
    (hsend : ∀ (t : T) frame, (PiccTransceiver.send t frame).1 = .ok ()) (hin : s.Lasts (n + 1))
    {raw : FrameVec} (hraw : s.PresenceCheck raw) :
    (deliver x (.ok raw)).1 = none ∧ Polled s (n + 1) (deliver x (.ok raw)).2 ∧
      (deliver x (.ok raw)).2.picc.sent =
        x.picc.sent ++ [.standard (s.handler.buildRack.raw s.hwCrc)] := by
  obtain ⟨b, rfl, hb, hlen, ht, hsub, hn⟩ := hraw
  obtain ⟨picc, call⟩ := x
  obtain ⟨rfl, hcrc, hconfig, hhandler⟩ := h
  dsimp only at hcrc hconfig hhandler
  have hr : picc.handler.receive b = (.ok (.reply picc.handler.buildRack), picc.handler.counted) := by
    refine Received.eq (.presence ?_ ht ?_)
    · rw [hhandler, frameOk_polledHandler]
      exact hin
    · rw [hhandler]
      simp [rMeaning, polledHandler, hrole, hsub, hn]
  have hrun := Picc.run_receiveCommand_read (E := E) hb
    (by simpa only [Picc.fsc, hconfig] using hlen) hr
  -- the R(ACK) goes out
  have hshort : picc.handler.buildRack.bytes.length + 2 ≤ 256 := by
    have hle := picc.handler.prologueLen_le
    rw [length_buildRack]
    omega
  have hrack : picc.handler.buildRack = s.handler.buildRack := by rw [hhandler]; rfl
  have hsent : ∀ (picc : Picc (Logged T)) frame, picc.sendResult frame = .ok () := by
    intro picc frame
    have hok : (PiccTransceiver.send picc.transceiver frame).1 = .ok () := hsend _ _
    rw [Picc.sendResult, hok]
  simp only at hrun
  rw [Act.run_bind, Picc.run_sendBlock (frameFor_of_fits _ hshort), hsent] at hrun
  simp only [Picc.isDeselectReply_buildRack, Bool.false_eq_true, if_false, Act.run_pure] at hrun
  have hstep : deliver ⟨picc, some .receiveCommand⟩ (.ok (b.raw s.hwCrc) : Except E FrameVec) = _ :=
    show advance picc (Picc.receiveCommand (b.raw s.hwCrc)) = _ by rw [advance, ← hcrc, hrun]
  rw [hstep]
  refine ⟨rfl, ⟨rfl, hcrc, hconfig, ?_⟩, ?_⟩
  · show picc.handler.counted = _
    rw [hhandler, counted_polledHandler]
  · show picc.sent ++ [.standard (picc.handler.buildRack.raw picc.hwCrc)] = _
    rw [hrack, hcrc]

/-- **A command within the budget is returned as it was sent.** -/
theorem Polled.command (h : Polled s n x) (hrole : s.handler.role = .picc) (hin : s.Lasts (n + 1))
    {raw : FrameVec} {apdu : ChainVec} (hraw : s.InStep raw apdu) :
    (deliver x (.ok raw)).1 = some (.ok (.apdu apdu)) := by
  obtain ⟨b, rfl, hb, hlen, ht, hc, hn, rfl, hchain⟩ := hraw
  obtain ⟨picc, call⟩ := x
  obtain ⟨rfl, hcrc, hconfig, hhandler⟩ := h
  dsimp only at hcrc hconfig hhandler
  have hr : picc.handler.receive b =
      (.ok (.complete b.payload), picc.handler.counted.advanced.dropChain) := by
    have hbytes := b.length_bytes
    have hfsc := s.fsc_bounds
    have hempty : picc.handler.chain = [] := by rw [hhandler]; rfl
    have hcomplete : Received picc.handler b (.ok (.complete (picc.handler.chain ++ b.payload)),
        picc.handler.counted.advanced.dropChain) := by
      refine .complete ?_ ht ?_ ?_ ?_ (by simp [hc])
      · rw [hhandler, frameOk_polledHandler]
        exact hin
      · rw [hhandler]
        simp [repeatsLastIblock, polledHandler, hrole, hn]
      · rw [hempty, hhandler, List.length_nil, Nat.zero_add]
        exact hchain
      · rw [hempty]
        exact fits_chainCap (by rw [List.length_nil]; omega)
    rw [hempty, List.nil_append] at hcomplete
    exact hcomplete.eq
  have hrun := Picc.run_receiveCommand_read (E := E) hb
    (by simpa only [Picc.fsc, hconfig] using hlen) hr
  show (advance picc (Picc.receiveCommand (b.raw s.hwCrc))).1 = _
  rw [advance, ← hcrc, hrun]
  rfl

/-! ## A run of checks

  As many as there are, and then the command. -/

omit [Build] [PiccTransceiver T E] in
/-- A card that lasts for some checks lasts for fewer. -/
theorem lasts_mono {m : Nat} (hle : m ≤ n) (h : s.Lasts n) : s.Lasts m :=
  h.imp_left (Nat.le_trans hle)

/-- **As many checks as the budget holds are acknowledged.** -/
theorem Polled.acknowledges (hrole : s.handler.role = .picc)
    (hsend : ∀ (t : T) frame, (PiccTransceiver.send t frame).1 = .ok ()) {checks : List FrameVec}
    (hchecks : ∀ raw ∈ checks, s.PresenceCheck raw) (h : Polled s n x)
    (hin : s.Lasts (n + checks.length)) :
    (∀ e ∈ Run.trace deliver x (checks.map (Except.ok (ε := E))), Delivery.Acknowledged s e) ∧
      Polled s (n + checks.length) (Run.after deliver x (checks.map (Except.ok (ε := E)))) := by
  induction checks generalizing n x with
  | nil => exact ⟨by simp, h⟩
  | cons raw checks ih =>
    rw [List.length_cons] at hin ⊢
    obtain ⟨hout, hnext, hsent⟩ := h.check hrole hsend (lasts_mono (by omega) hin)
      (hchecks raw (by simp))
    obtain ⟨hrest, hend⟩ := ih (fun r hr => hchecks r (by simp [hr])) hnext
      (lasts_mono (by omega) hin)
    constructor
    · intro e he
      rcases List.mem_cons.mp he with rfl | he
      · refine ⟨hout, hsent, ?_⟩
        rw [Run.event_after, hnext.handler]
        rfl
      · exact hrest e he
    · rw [show n + (checks.length + 1) = n + 1 + checks.length by omega]
      exact hend

/-- **No more than these are**: a check past the budget ends the call. -/
theorem Polled.lasts (hrole : s.handler.role = .picc)
    (hsend : ∀ (t : T) frame, (PiccTransceiver.send t frame).1 = .ok ()) {checks : List FrameVec}
    (hchecks : ∀ raw ∈ checks, s.PresenceCheck raw) (h : Polled s n x) (hn : s.Lasts n)
    (hall : ∀ e ∈ Run.trace deliver x (checks.map (Except.ok (ε := E))), e.output = none) :
    s.Lasts (n + checks.length) := by
  induction checks generalizing n x with
  | nil => exact hn
  | cons raw checks ih =>
    have hfirst : (deliver x (.ok raw : Except E FrameVec)).1 = none :=
      hall (Run.event deliver x (.ok raw)) (by simp)
    have hin : s.Lasts (n + 1) := by
      by_contra hout
      obtain ⟨b, rfl, hb, hlen, -⟩ := hchecks raw (by simp)
      rw [h.refuses hout hb hlen] at hfirst
      cases hfirst
    obtain ⟨-, hnext, -⟩ := h.check hrole hsend hin (hchecks raw (by simp))
    have hrest := ih (fun r hr => hchecks r (by simp [hr])) hnext hin fun e he =>
      hall e (by simp [he])
    rw [List.length_cons, show n + (checks.length + 1) = n + 1 + checks.length by omega]
    exact hrest

/-- **An idle card answers presence checks for as long as its frame budget lasts**, and takes the
    command that follows them if there is room for that one too. -/
theorem polled_iff (hsend : ∀ (t : T) frame, (PiccTransceiver.send t frame).1 = .ok ())
    (s : Picc (Logged T)) (hrole : s.handler.role = .picc) (checks : List FrameVec)
    (hchecks : ∀ raw ∈ checks, s.PresenceCheck raw) (command : FrameVec) (apdu : ChainVec)
    (hcommand : s.InStep command apdu) :
    AnswersAll (E := E) s checks command apdu ↔ s.Lasts (checks.length + 1) := by
  have hstart := polled_commanded (E := E) s
  constructor
  · rintro ⟨hall, hout⟩
    have hin := hstart.lasts hrole hsend hchecks (Or.inl (Nat.zero_le _)) fun e he => (hall e he).1
    obtain ⟨-, hend⟩ := hstart.acknowledges hrole hsend hchecks hin
    rw [Nat.zero_add] at hend
    by_contra hno
    obtain ⟨b, rfl, hb, hlen, -⟩ := hcommand
    rw [hend.refuses hno hb hlen] at hout
    cases hout
  · intro hin
    obtain ⟨hall, hend⟩ := hstart.acknowledges hrole hsend hchecks (by
      rw [Nat.zero_add]
      exact lasts_mono (Nat.le_succ _) hin)
    rw [Nat.zero_add] at hend
    exact ⟨hall, hend.command hrole hin hcommand⟩

/-! ## A card that stops answering

  A budget of one frame, and two checks. -/

/-- A card in a session, with a budget of `n` frames. -/
def idleCard (n : Nat) (hn : n ≤ u16Max) : Picc (Logged Willing) :=
  { sampleCard with
    state := .protocol
    handler := withLimits .picc none { Limits.default with maxFrames := n, frames_le := hn } }

/-- The reader's R(NAK). -/
def poll : FrameVec := (rblock 0 .nak).raw true

/-- The reader's command 01. -/
def shortCommand : FrameVec := (iblock 0 [0x01] false).raw true

/-- The R(NAK) is a presence check for the idle card. -/
theorem presenceCheck_poll (n : Nat) (hn : n ≤ u16Max) :
    (idleCard n hn).PresenceCheck poll := by
  refine ⟨rblock 0 .nak, rfl, ⟨⟨rfl, rfl, rfl⟩, fun h => by cases h⟩, ?_, rfl, rfl, ?_⟩
  · exact Nat.le_trans (show _ ≤ 16 by decide) (Picc.fsc_bounds _).1
  · exact show (0 : Fin 2) ≠ 1 by decide

/-- The command is in step with it. -/
theorem inStep_shortCommand (n : Nat) (hn : n ≤ u16Max) :
    (idleCard n hn).InStep shortCommand [0x01] := by
  refine ⟨iblock 0 [0x01] false, rfl, ⟨⟨rfl, rfl⟩, fun h => by cases h⟩, ?_, rfl, rfl, ?_, rfl, ?_⟩
  · exact Nat.le_trans (show _ ≤ 16 by decide) (Picc.fsc_bounds _).1
  · exact show (0 : Fin 2) ≠ 1 by decide
  · show 1 ≤ defaultMaxChainLen
    unfold defaultMaxChainLen
    split <;> decide

omit [Build] in
/-- With a budget of three frames, two checks are answered, and the command is returned. -/
theorem polled_iff_sample : let : Build := Build.heap
    AnswersAll (idleCard 3 (by decide)) [poll, poll] shortCommand [0x01] := by
  intro _
  refine (polled_iff (fun _ _ => rfl) (idleCard 3 (by decide)) rfl [poll, poll] ?_ shortCommand
    [0x01] (inStep_shortCommand 3 _)).mpr (Or.inl (Nat.le_refl 3))
  intro raw hraw
  obtain rfl : raw = poll := by simpa using hraw
  exact presenceCheck_poll 3 _

omit [Build] in
/-- **A card with a budget of one frame fails on the second check.** -/
theorem not_answersAll : let : Build := Build.heap
    1 ≤ (idleCard 1 (by decide)).handler.limits.maxFrames ∧
      (∀ raw ∈ [poll, poll], (idleCard 1 (by decide)).PresenceCheck raw) ∧
      (idleCard 1 (by decide)).InStep shortCommand [0x01] ∧
      ¬ AnswersAll (idleCard 1 (by decide)) [poll, poll] shortCommand [0x01] := by
  intro _
  refine ⟨Nat.le_refl 1, ?_, inStep_shortCommand 1 _, ?_⟩
  · intro raw hraw
    obtain rfl : raw = poll := by simpa using hraw
    exact presenceCheck_poll 1 _
  · rintro ⟨hall, -⟩
    have hsecond := (hall (Run.event deliver (deliver (commanded (idleCard 1 (by decide)))
      (.ok poll)).2 (.ok poll)) (by simp)).1
    exact absurd hsecond (by decide +kernel)

end PiccSession

end Iso14443
