/-
  The work a reader can make a card do in one exchange (`Picc::receive_command`, then
  `Picc::send_response`).

  The bound of `Iso14443.FrameBudget` for the other side.  Three things make it harder here:

  * two loops in two methods share one counter: `receive_command` starts it, and `send_response`
    goes on with what is left;
  * a PPS request is answered by `receive_command` without a block, so it never reaches
    `process_received`; the code counts it by a call of its own;
  * an S(DESELECT) takes the counter back to zero.  On this side that does no harm, since it ends
    the call with `Deselected`.

  **One frame** (`Worked`): it is counted when the call goes on or returns a value, and at most one
  frame is sent.  A frame that is not counted ends the exchange.  The sending half comes from one
  walk over the methods of the card (`steps_sends`, instance of `Iso14443.CardPair`), the counting
  half from the handler (`receive_counted`).

  **The invariant** (`Within`): as long as the exchange goes on, the handler has counted each of
  the `n` frames that were taken in and allowed it, and the frames sent are at most one for each,
  and one for the first chunk of the response, which `send_response` sends unasked.  `Within.serve`
  is the step, and `serve_bounded` the run: at most `max_frames + 1` frames are taken in, whatever
  the reader sends.

  The run of the sample takes in a PPS request, a command in two chunks with a repeat, and a
  response in five chunks with a repeat and a presence check, until its budget of seven frames is
  used up.
-/
import Iso14443.CardPair

namespace Iso14443

open ProtocolHandler

variable {T E : Type}

/-! ## Frames sent by an action

  The grade of the walk (`Act.Graded`): what a method sends is what its steps send, added up, and a
  method takes one sending step at most. -/

namespace Picc

/-- The action sends at most `n` frames, and does not touch the handler. -/
def Sends {α : Type} (n : Nat) (m : Act (Picc (Logged T)) (PiccError E) α) : Prop :=
  ∀ s, (m.run s).2.sent.length ≤ s.sent.length + n ∧ (m.run s).2.handler = s.handler

/-- Two actions in a row send as much as both. -/
theorem graded_sends : Act.Graded (ε := PiccError E) (Eq (α := Picc (Logged T)))
    (fun n _ m _ => Sends n m) where
  pure _ := fun _ => ⟨Nat.le_refl _, rfl⟩
  throw _ := fun _ => ⟨Nat.le_refl _, rfl⟩
  bind := by
    intro α β k n m _ f _ hm hf s
    obtain ⟨hlen, hhandler⟩ := hm s
    rw [Act.run_bind]
    rcases hrun : m.run s with ⟨a | e | _ | _, s'⟩ <;> rw [hrun] at hlen hhandler
    · obtain ⟨hlen', hhandler'⟩ := hf a ⟨s, s', hrun⟩ s'
      exact ⟨by dsimp only at hlen ⊢; omega, hhandler'.trans hhandler⟩
    all_goals exact ⟨by dsimp only at hlen ⊢; omega, hhandler⟩
  get_bind hf := fun s => hf s s rfl s
  mono := by
    intro α k n m _ hm hle s
    obtain ⟨hlen, hhandler⟩ := hm s
    exact ⟨by omega, hhandler⟩

/-- After what it sends, an action goes back to its caller, or waits. -/
theorem Sends.next {n : Nat} {m : Act (Picc (Logged T)) (PiccError E) Unit} (hm : Sends n m)
    (next : Next) : Sends n (m >>= fun _ => pure next) := by
  intro s
  have hs := hm s
  rw [Act.run_bind]
  rcases hrun : m.run s with ⟨a | e | _ | _, s'⟩ <;> rw [hrun] at hs <;> exact hs

variable [Build] [PiccTransceiver T E]

omit [Build] in
/-- **A frame sent is one frame**, and no other step sends any. -/
theorem steps_sends :
    SendSteps (T := Logged T) (E := E) Eq (fun n _ m _ => Sends n m) where
  forms := graded_sends
  seen := by rintro s _ rfl; exact .refl s
  send := by
    intro frame s
    rw [run_send]
    exact ⟨by rw [sent_afterSend]; simp, rfl⟩
  remember block := fun _ => ⟨Nat.le_refl _, rfl⟩
  enter state _ _ := fun _ => ⟨Nat.le_refl _, rfl⟩
  leave e := fun _ => ⟨Nat.le_refl _, rfl⟩

end Picc

/-! ## Frames counted by the handler

  `note_frame` comes first in `process_received`, so every block that is accepted was counted, and
  was within the limit. -/

/-- The handler counted one more frame, within its budget.  This is all that the bound on the work
    of a card asks of `process_received`: what else a block did is of no concern to it. -/
structure Counted (h h' : ProtocolHandler) : Prop where
  within : h.FrameOk
  frames : h'.counters.frames = saturatingIncr u16Max h.counters.frames
  limits : h'.limits = h.limits

/-- **Each block that a handler accepts is counted**, but for S(DESELECT), which it answers. -/
theorem receive_counted [Build] {h k : ProtocolHandler} {b : Block} {a : Action}
    (hr : receive h b = (.ok a, k)) :
    Counted h k ∨ ∃ reply, a = .reply reply ∧ Picc.isDeselectReply reply = true := by
  have hrec := processReceived_received h b
  rw [show (processReceived b).run h = _ from hr] at hrec
  cases hrec with
  | deselect =>
    refine Or.inr ⟨_, rfl, ?_⟩
    simp only [buildSblock, addCid]
    split <;> rfl
  | _ => exact Or.inl ⟨by assumption, rfl, rfl⟩

/-! ## One frame

  Both calls do the same with a frame: count, decide, send.  A frame that cannot be read is an
  error, and errors end the exchange. -/

namespace Picc

variable [Build] [PiccTransceiver T E] {s : Picc (Logged T)}

/-- What a frame costs: it is counted if the call goes on or succeeds, and one frame is sent at
    most. -/
structure Worked (s : Picc (Logged T)) (out : Res (PiccError E) Next × Picc (Logged T)) : Prop where
  sent : out.2.sent.length ≤ s.sent.length + 1
  counted : ∀ next, out.1 = .ok next → Counted s.handler out.2.handler

omit [Build] [PiccTransceiver T E] in
/-- A call that fails before it sends has cost nothing. -/
theorem worked_err {e : PiccError E} {s' : Picc (Logged T)} (h : s'.sent = s.sent) :
    Worked s ((.err e, s') : Res (PiccError E) Next × _) :=
  ⟨by rw [h]; omega, by simp⟩

omit [Build] [PiccTransceiver T E] in
/-- A counted frame, and what is sent in answer. -/
theorem worked_sends {h : ProtocolHandler} {m : Act (Picc (Logged T)) (PiccError E) Next}
    (hm : Sends 1 m) (hc : Counted s.handler h) : Worked s (m.run (s.withHandler h)) := by
  obtain ⟨hlen, hhandler⟩ := hm (s.withHandler h)
  exact ⟨hlen, fun next _ => by rw [hhandler]; exact hc⟩

/-- A reply that is sent: if it is not counted, it ends the call. -/
theorem worked_reply {h : ProtocolHandler} {reply : Block} {call : PiccCall}
    (hc : Counted s.handler h ∨ isDeselectReply reply = true) :
    Worked s ((do
      sendBlock reply
      if isDeselectReply reply then do
        setState .halted
        Act.throw .deselected
      else pure (.wait call) : Act (Picc (Logged T)) (PiccError E) Next).run (s.withHandler h)) := by
  have hsends := steps_sends.reply reply call (s.withHandler h)
  rcases hc with hc | hd
  · exact worked_sends (steps_sends.reply reply call) hc
  · refine ⟨hsends.1, ?_⟩
    intro next hok
    obtain ⟨_, _, _, hok⟩ := Act.run_bind_eq_ok.mp (Prod.ext hok rfl)
    rw [if_pos hd] at hok
    cases hok

/-- **One frame of a command.** A block is counted by `process_received`, a PPS request by the
    method itself; what is neither ends the call. -/
theorem worked_receiveCommand (raw : List UInt8) : Worked s ((receiveCommand raw).run s) := by
  cases hpps : isPps raw with
  | true =>
    rw [run_receiveCommand_pps hpps, Act.run_bind, run_onHandler, run_noteFrame]
    by_cases hf : s.handler.FrameOk
    · rw [if_pos hf]
      exact worked_sends (Sends.next (steps_sends.handlePps raw) _) ⟨hf, rfl, rfl⟩
    · rw [if_neg hf]
      exact worked_err rfl
  | false =>
    rw [run_receiveCommand_block hpps, Act.run_bind, run_lift]
    rcases (s.parseBlock_returns raw).cases with ⟨b, hb⟩ | ⟨e, hb⟩ <;> rw [hb]
    · simp only [Res.mapErr_ok]
      rw [Act.run_bind, run_onHandler_receive]
      rcases s.handler.receive_cases b with ⟨a, k, hr⟩ | ⟨e, k, hr⟩ <;> rw [hr]
      · have hc := receive_counted hr
        cases a with
        | complete data =>
          exact worked_sends (graded_sends.pure_le _) (hc.resolve_right (by simp))
        | reply reply => exact worked_reply (hc.imp_right (by rintro ⟨_, ⟨⟩, h⟩; exact h))
        | chainingAck => exact worked_err rfl
        | chainingRetransmit =>
          exact worked_sends (steps_sends.sendLast (by rintro s _ rfl; rfl))
            (hc.resolve_right (by simp))
      · exact worked_err rfl
    · exact worked_err rfl

/-- **One frame of a response.** -/
theorem worked_sendResponse (data : List UInt8) (maxInf stop : Nat) (iblock : Block)
    (raw : List UInt8) : Worked s ((sendResponse data maxInf stop iblock raw).run s) := by
  rw [sendResponse, Act.run_get_bind, Act.run_bind, run_lift]
  rcases (s.parseBlock_returns raw).cases with ⟨b, hb⟩ | ⟨e, hb⟩ <;> rw [hb]
  · simp only [Res.mapErr_ok]
    rw [Act.run_bind, run_onHandler_receive]
    rcases s.handler.receive_cases b with ⟨a, k, hr⟩ | ⟨e, k, hr⟩ <;> rw [hr]
    · have hc := receive_counted hr
      cases a with
      | complete data => exact worked_err rfl
      | reply reply => exact worked_reply (hc.imp_right (by rintro ⟨_, ⟨⟩, h⟩; exact h))
      | chainingAck =>
        have hpanic : Sends 0 (Act.panic : Act (Picc (Logged T)) (PiccError E) (List UInt8)) :=
          fun _ => ⟨Nat.le_refl _, rfl⟩
        exact worked_sends (steps_sends.sendChunk maxInf (Or.inr hpanic))
          (hc.resolve_right (by simp))
      | chainingRetransmit =>
        exact worked_sends (Sends.next (steps_sends.sendBlock iblock) _)
          (hc.resolve_right (by simp))
    · exact worked_err rfl
  · exact worked_err rfl

/-- The two calls of an exchange. -/
def OfExchange : PiccCall → Prop
  | .receiveCommand => True
  | .sendResponse _ _ _ _ => True
  | _ => False

/-- **What a frame does to them.** -/
theorem worked_resume (call : PiccCall) (hcall : OfExchange call) (received : Except E FrameVec) :
    Worked s ((call.resume received).run s) := by
  cases received with
  | error e => exact worked_err rfl
  | ok raw =>
    cases call with
    | receiveCommand => exact worked_receiveCommand raw
    | sendResponse data maxInf stop iblock => exact worked_sendResponse data maxInf stop iblock raw
    | waitForActivation => exact hcall.elim
    | waitForRats => exact hcall.elim

end Picc

/-! ## One exchange

  The two calls as one machine: when `receive_command` returns its APDU, the application's response
  goes to `send_response` at once. -/

/-- How far an exchange of the card got. -/
inductive Phase where
  /-- `receive_command` waits. -/
  | command
  /-- `send_response` waits. -/
  | response
  /-- Both have returned, or one has failed. -/
  | ended
deriving DecidableEq, Repr

/-- A card in an exchange. -/
structure Serving (T : Type) where
  session : PiccSession T
  phase : Phase

namespace Serving

variable [Build] [PiccTransceiver T E]

/-- The card after a call: it waits for a frame in the phase, or the exchange is over. -/
def waiting (phase : Phase) (out : Option (Res (PiccError E) Outcome) × PiccSession T) : Serving T :=
  match out with
  | (none, session) => ⟨session, phase⟩
  | (some _, session) => ⟨session, .ended⟩

/-- `receive_command` is called. -/
def start (s : Picc T) : Serving T :=
  waiting .command (PiccSession.step (E := E) ⟨s, none⟩ (.call .receiveCommand))

/-- A frame arrives.  When `receive_command` returns, `send_response` is called with the response to
    the command; the output says whether the frame was taken in. -/
def serve (respond : ChainVec → List UInt8) (x : Serving T) (received : Except E FrameVec) :
    Bool × Serving T :=
  match x.phase with
  | .ended => (false, x)
  | .response => (true, waiting .response (x.session.step (.frame received)))
  | .command =>
    match x.session.step (.frame received) with
    | (some (.ok (.apdu data)), session) =>
      (true, waiting .response (session.step (.call (.sendResponse (respond data) : PiccApi) :
        PiccInput E)))
    | out => (true, waiting .command out)

/-- What holds of an exchange that `s` began, after `n` frames were taken in.  While it is going on,
    the frames taken in are covered by the counter (`going`), which both calls share; the frames
    sent are covered by those taken in, and one more for the first I-Block of the response. -/
structure Within (s : Picc (Logged T)) (n : Nat) (x : Serving (Logged T)) : Prop where
  taken : n ≤ s.handler.limits.maxFrames + 1
  sent : x.session.picc.sent.length ≤ s.sent.length + n + if x.phase = .command then 0 else 1
  going : x.phase ≠ .ended → n ≤ s.handler.limits.maxFrames ∧
    n ≤ x.session.picc.handler.counters.frames ∧
    x.session.picc.handler.limits = s.handler.limits
  call : match x.phase with
    | .command => x.session.call = some .receiveCommand
    | .response => ∃ data inf stop iblock, x.session.call = some (.sendResponse data inf stop iblock)
    | .ended => True

variable {s : Picc (Logged T)} {n : Nat} {x : Serving (Logged T)} {phase : Phase}

omit [Build] [PiccTransceiver T E] in
/-- A counted frame leaves as much of the budget as there was, less one. -/
theorem Counted.frames_le {h h' : ProtocolHandler} (hc : Counted h h')
    (hmax : h.limits.maxFrames < u16Max) :
    h'.counters.frames = h.counters.frames + 1 ∧ h.counters.frames + 1 ≤ h.limits.maxFrames := by
  have hle : saturatingIncr u16Max h.counters.frames ≤ h.limits.maxFrames := hc.within
  rw [hc.frames]
  simp only [saturatingIncr] at hle ⊢
  omega

/-- The call that waits in a phase. -/
def Waits : Phase → PiccCall → Prop
  | .command, call => call = .receiveCommand
  | .response, call => ∃ data inf stop iblock, call = .sendResponse data inf stop iblock
  | .ended, _ => True

omit [Build] [PiccTransceiver T E] in
/-- A frame leaves a command or a response waiting as what it was. -/
theorem Waits.leads {call call' : PiccCall} (h : Waits phase call) (hlead : call.Leads (.wait call')) :
    Waits phase call' := by
  cases phase with
  | command =>
    obtain rfl : call = .receiveCommand := h
    rcases hlead with ⟨⟨⟩⟩ | ⟨_, ⟨⟩⟩
    rfl
  | response =>
    obtain ⟨data, inf, stop, iblock, rfl⟩ := h
    rcases hlead with ⟨⟨⟩⟩ | ⟨stop', iblock', ⟨⟩, -⟩
    exact ⟨data, inf, stop', iblock', rfl⟩
  | ended => trivial

omit [Build] [PiccTransceiver T E] in
/-- A call went on, after `n` frames, and waits for another one, or the exchange is over.  The
    bounds are asked of the outcome alone, so the lemma serves both calls and both their
    beginnings. -/
theorem within_waiting {m : Act (Picc (Logged T)) (PiccError E) Next} {picc : Picc (Logged T)}
    (hn : n ≤ s.handler.limits.maxFrames + 1)
    (hsent : (m.run picc).2.sent.length ≤ s.sent.length + n + if phase = .command then 0 else 1)
    (hok : ∀ next, (m.run picc).1 = .ok next → n ≤ s.handler.limits.maxFrames ∧
      n ≤ (m.run picc).2.handler.counters.frames ∧
      (m.run picc).2.handler.limits = s.handler.limits)
    (hcall : ∀ call, m.Gives (.wait call) → Waits phase call) :
    Within s n (waiting phase (PiccSession.advance picc m)) := by
  have hover : ∀ session : PiccSession (Logged T), session.picc = (m.run picc).2 →
      Within s n ⟨session, .ended⟩ := by
    intro session hpicc
    refine ⟨hn, ?_, fun h => absurd rfl h, trivial⟩
    dsimp only
    rw [hpicc, if_neg (by simp)]
    split at hsent <;> omega
  rw [PiccSession.advance]
  rcases hrun : m.run picc with ⟨(call | outcome) | e | _ | _, picc'⟩
  · rw [hrun] at hsent hok
    obtain ⟨hle, hframes, hlimits⟩ := hok _ rfl
    refine ⟨hn, hsent, fun _ => ⟨hle, hframes, hlimits⟩, ?_⟩
    have hphase := hcall call ⟨picc, picc', hrun⟩
    cases phase with
    | command => exact congrArg some hphase
    | response =>
      obtain ⟨data, inf, stop, iblock, hphase⟩ := hphase
      exact ⟨data, inf, stop, iblock, congrArg some hphase⟩
    | ended => trivial
  all_goals exact hover _ (by rw [hrun])

/-- What `receive_command` and `send_response` do before they wait. -/
theorem within_start (s : Picc (Logged T)) : Within s 0 (start (E := E) s) := by
  refine ⟨Nat.zero_le _, Nat.le_refl _, ?_, rfl⟩
  intro _
  exact ⟨Nat.zero_le _, Nat.zero_le _, rfl⟩

omit [Build] [PiccTransceiver T E] in
/-- What a frame that is taken in leaves of the budget, where the exchange goes on. -/
theorem Within.worked {picc : Picc (Logged T)} {call : Option PiccCall}
    (h : Within s n ⟨⟨picc, call⟩, phase⟩) (hmax : s.handler.limits.maxFrames < u16Max)
    (hphase : phase ≠ .ended) {m : Act (Picc (Logged T)) (PiccError E) Next}
    (hw : Picc.Worked picc (m.run picc)) (next : Next) (hnext : (m.run picc).1 = .ok next) :
    n + 1 ≤ s.handler.limits.maxFrames ∧ n + 1 ≤ (m.run picc).2.handler.counters.frames ∧
      (m.run picc).2.handler.limits = s.handler.limits := by
  obtain ⟨hn, hframes, hlimits⟩ := h.going hphase
  have hc := hw.counted next hnext
  dsimp only at hframes hlimits
  obtain ⟨heq, hle⟩ := Counted.frames_le hc (by rw [hlimits]; exact hmax)
  rw [hlimits] at hle
  exact ⟨by omega, by omega, hc.limits.trans hlimits⟩

section Serve

variable {respond : ChainVec → List UInt8} {received : Except E FrameVec}
  {picc picc' : Picc (Logged T)}

/-- A frame that completes the command: the response begins. -/
theorem serve_apdu {data : ChainVec}
    (hrun : (PiccCall.receiveCommand.resume received).run picc =
      (.ok (.ret (.apdu data)), picc')) :
    serve respond ⟨⟨picc, some .receiveCommand⟩, .command⟩ received =
      (true, waiting .response (PiccSession.advance picc'
        (PiccApi.sendResponse (respond data)).begin)) := by
  simp only [Serving.serve, PiccSession.step, PiccSession.advance, hrun]

/-- Any other frame: `receive_command` waits on, or has failed. -/
theorem serve_command (hno : ∀ data picc', (PiccCall.receiveCommand.resume received).run picc ≠
      (.ok (.ret (.apdu data)), picc')) :
    serve respond ⟨⟨picc, some .receiveCommand⟩, .command⟩ received =
      (true, waiting .command (PiccSession.advance picc
        (PiccCall.receiveCommand.resume received))) := by
  simp only [Serving.serve, PiccSession.step, PiccSession.advance]
  rcases hrun : (PiccCall.receiveCommand.resume received).run picc with
    ⟨(_ | ⟨_ | data⟩) | _ | _ | _, picc'⟩
  case ok.ret.apdu => exact absurd hrun (hno data picc')
  all_goals rfl

/-- **The frame that completes the command.**  The first I-Block of the response goes out in the same
    step; it is the one that is not paid for by a frame. -/
theorem Within.responds (h : Within s n ⟨⟨picc, some .receiveCommand⟩, .command⟩)
    (hmax : s.handler.limits.maxFrames < u16Max) {data : ChainVec}
    (hrun : (PiccCall.receiveCommand.resume received).run picc =
      (.ok (.ret (.apdu data)), picc')) :
    Within s (n + 1) (waiting .response (PiccSession.advance picc'
      ((PiccApi.sendResponse (respond data)).begin : Act _ (PiccError E) Next))) := by
  have hw := Picc.worked_resume (E := E) (s := picc) .receiveCommand trivial received
  obtain ⟨hle, hframes, hlimits⟩ := h.worked hmax (by simp) hw _ (by rw [hrun])
  have hsent := h.sent
  have hsent' := hw.sent
  rw [hrun] at hsent' hframes hlimits
  dsimp only at hsent hsent'
  rw [if_pos rfl] at hsent
  obtain ⟨hsent'', hhandler⟩ := Picc.steps_sends.beginResponse (E := E) (respond data) picc'
  refine within_waiting (by omega) (by rw [if_neg (by simp)]; omega) ?_ ?_
  · intro next _
    rw [hhandler]
    exact ⟨hle, hframes, hlimits⟩
  · rintro call ⟨t, t', hrun⟩
    obtain ⟨inf, stop, iblock, rfl, -⟩ := Picc.wait_beginResponse hrun
    exact ⟨_, inf, stop, iblock, rfl⟩

end Serve

/-- **One more frame**, in either phase: it is counted where the exchange goes on, and sends one
    frame at most. -/
theorem Within.serve (h : Within s n x) (hmax : s.handler.limits.maxFrames < u16Max)
    (respond : ChainVec → List UInt8) (received : Except E FrameVec) :
    Within s (if (x.serve respond received).1 then n + 1 else n) (x.serve respond received).2 := by
  obtain ⟨⟨picc, call⟩, phase⟩ := x
  have hcall := h.call
  have hsent := h.sent
  cases phase with
  | ended => exact h
  | response =>
    obtain ⟨data, inf, stop, iblock, rfl⟩ := hcall
    have hw := Picc.worked_resume (E := E) (s := picc) (.sendResponse data inf stop iblock) trivial
      received
    have hn := (h.going (by simp)).1
    have hsent' := hw.sent
    dsimp only at hsent
    rw [if_neg (by simp)] at hsent
    show Within s (n + 1) (waiting .response (PiccSession.advance picc _))
    refine within_waiting (by omega) (by rw [if_neg (by simp)]; omega)
      (h.worked hmax (by simp) hw) ?_
    exact fun call hgives =>
      Waits.leads ⟨data, inf, stop, iblock, rfl⟩ (Picc.yields_resume _ received _ hgives)
  | command =>
    obtain rfl : call = some .receiveCommand := hcall
    by_cases hapdu : ∃ data picc', (PiccCall.receiveCommand.resume received).run picc =
        (.ok (.ret (.apdu data)), picc')
    · obtain ⟨data, picc', hrun⟩ := hapdu
      rw [serve_apdu hrun]
      exact h.responds hmax hrun
    · have hw := Picc.worked_resume (E := E) (s := picc) .receiveCommand trivial received
      have hn := (h.going (by simp)).1
      have hsent' := hw.sent
      dsimp only at hsent
      rw [if_pos rfl] at hsent
      rw [serve_command fun data picc' hrun => hapdu ⟨data, picc', hrun⟩]
      show Within s (n + 1) (waiting .command (PiccSession.advance picc _))
      refine within_waiting (by omega) (by rw [if_pos rfl]; omega) (h.worked hmax (by simp) hw) ?_
      exact fun call hgives => Waits.leads (show Waits .command .receiveCommand from rfl)
        (Picc.yields_resume _ received _ hgives)

/-- **The work of an exchange is bounded.**  Whatever a reader sends, `receive_command` and the
    `send_response` that follows it take in at most `max_frames + 1` frames before both have returned
    or one has failed, and send at most one frame for each of them, and one more: the first I-Block of
    the response.  The budget must not be the last value of its counter, which would never pass it. -/
theorem serve_bounded (respond : ChainVec → List UInt8) (s : Picc (Logged T))
    (hmax : s.handler.limits.maxFrames < u16Max) (received : List (Except E FrameVec)) :
    let taken := ((Run.trace (serve respond) (start (E := E) s) received).filter (·.output)).length
    taken ≤ s.handler.limits.maxFrames + 1 ∧
      (Run.after (serve respond) (start (E := E) s) received).session.picc.sent.length ≤
        s.sent.length + taken + 1 := by
  intro taken
  have hrun : Within s ((Run.trace (serve respond) (start (E := E) s) received).filter
      (·.output)).length (Run.after (serve respond) (start (E := E) s) received) := by
    refine Run.trace_induction (I := fun l x => Within s (l.filter (·.output)).length x)
      (within_start s) ?_
    intro l x i _ h
    have hnext := h.serve hmax respond i
    rw [List.filter_append, List.length_append]
    cases hout : (x.serve respond i).1 with
    | true =>
      rw [hout, if_pos rfl] at hnext
      simpa [List.filter, Run.event, hout] using hnext
    | false =>
      rw [hout, if_neg (by simp)] at hnext
      simpa [List.filter, Run.event, hout] using hnext
  refine ⟨hrun.taken, ?_⟩
  have hsent := hrun.sent
  split at hsent <;> omega

/-- A card with a budget of seven frames, whose reader takes frames of sixteen bytes. -/
def briefCard : Picc (Logged Willing) :=
  { Picc.new ({ inner := {} } : Logged Willing)
      { uid := sampleUid, ats := some (Ats.new .fsc256 0 {} Tc.cidSupp) } with
    state := .protocol
    fsd := 16
    handler := withLimits .picc none { Limits.default with maxFrames := 7, frames_le := by decide } }

/-- An application whose response takes five I-Blocks of that size. -/
def longResponse (_ : ChainVec) : List UInt8 := List.replicate 60 0x07

/-- A PPS request; a command in two chunks, the first of them sent twice; an R(ACK) for the second chunk
    of the response, an R(NAK) for that chunk again, a presence check, an R(ACK) for the third chunk;
    and from there on more frames than the card has in its budget. -/
def busyFrames : List (Except Unit FrameVec) :=
  [.ok [0xd0, 0x11, 0x00], .ok [0x12, 0x00], .ok [0x12, 0x00], .ok [0x03, 0xa4], .ok [0xa2], .ok [0xb2],
    .ok [0xb3], .ok [0xa3], .ok [0xa2], .ok [0xa3], .error ()]

omit [Build] in
/-- The command is taken in and two chunks of the response are out when the budget is used up: the
    eighth frame ends the exchange, and the others are not taken in. -/
theorem serve_bounded_sample : let : Build := Build.heap
    let taken := ((Run.trace (serve longResponse) (start (E := Unit) briefCard) busyFrames).filter
      (·.output)).length
    ((Run.trace (serve longResponse) (start (E := Unit) briefCard) busyFrames).map
        (fun e => e.after.phase) =
      [.command, .command, .command, .response, .response, .response, .response, .ended, .ended,
        .ended, .ended] ∧ taken = 8) ∧
    taken ≤ briefCard.handler.limits.maxFrames + 1 ∧
      (Run.after (serve longResponse) (start (E := Unit) briefCard) busyFrames).session.picc.sent.length ≤
        briefCard.sent.length + taken + 1 := by
  have hphases : let : Build := Build.heap
      (Run.trace (serve longResponse) (start (E := Unit) briefCard) busyFrames).map
          (fun e => e.after.phase) =
        [.command, .command, .command, .response, .response, .response, .response, .ended, .ended,
          .ended, .ended] ∧
      ((Run.trace (serve longResponse) (start (E := Unit) briefCard) busyFrames).filter
        (·.output)).length = 8 := by decide +kernel
  intro _
  exact ⟨hphases, serve_bounded longResponse briefCard (by decide) _⟩

end Serving

end Iso14443
