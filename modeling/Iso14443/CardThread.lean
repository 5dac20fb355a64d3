/-
  The card thread of `example/loopback.rs`: a card that serves session after session.

  `Iso14443.Link` has an application that goes back to `receive_command` whatever happens, which is
  what an exchange is about.  This one is the thread of the example: it waits for an activation and
  for a RATS, answers commands until a DESELECT, and starts over; on any other error it is done,
  and so it is after an `unwrap()` of a failed `send_response`.

  * `CardThread` — the card with its application, and the sessions that are left to serve.  `serve`
    takes a frame to the call that waits, and when the call returns it goes on as the `match` of
    the example does.
  * `Air` — the air between the thread and a reader, which may lose frames and answers.

  The two applications differ in what they do after a failed call, so an exchange could go
  differently.  It does not, as long as the reader hears something:

  * `Tacit` — a call that fails has said nothing, or it is the reply to an S(DESELECT).  This is
    checked for each of the calls of a session (`resume_cases`), and holds because a card fails
    before it sends or not at all.
  * `serve_deliver` — so the thread does what the card of `Iso14443.Link` does on every frame,
    unless that card says nothing or answers an S(DESELECT).

  A reader that fails ends its exchange, and one that does not fail has heard an answer to its last
  block; this is what `Iso14443.AirLink` makes of it.
-/
import Iso14443.CardPair
import Iso14443.Link

namespace Iso14443

open ProtocolHandler

/-! ## The thread

  `serve` is the body of the thread's loop: the call that waits gets a frame, and if it returns the
  next call is made, until one waits again. -/

/-- The card thread: the card with its application, and the sessions to serve after this one. -/
structure CardThread where
  card : Card
  sessions : Nat

namespace CardThread

variable [Build]

/-- The card with its session somewhere else. -/
def withSession (self : CardThread) (session : PiccSession (Logged Antenna)) : CardThread :=
  { self with card := { self.card with session } }

/-- The thread makes its next call. -/
def call (self : CardThread) (api : PiccApi) : CardThread :=
  self.withSession (self.card.session.step (.call api)).2

/-- `picc.send_response(&resp).unwrap()`, and `receive_command` once it is through. -/
def answer (self : CardThread) (data : List UInt8) : CardThread :=
  match self.card.session.step (.call (.sendResponse data)) with
  | (some (.ok _), session) => (self.withSession session).call .receiveCommand
  | (_, session) => self.withSession session

/-- A frame arrives at the call that waits; if the call returns, the thread goes on.  A thread that
    has returned, or panicked in an `unwrap()`, waits for nothing. -/
def serve (self : CardThread) (raw : FrameVec) : CardThread :=
  match self.card.session.call, self.card.session.step (.frame (.ok raw)) with
  | some .waitForActivation, (some (.ok .unit), session) =>
    (self.withSession session).call .waitForRats
  | _, (some (.ok .unit), session) => (self.withSession session).call .receiveCommand
  | _, (some (.ok (.apdu data)), session) =>
    let handed := self.card.handed ++ [data]
    { self with card := { self.card with session, handed } }.answer (self.card.respond handed)
  | some .receiveCommand, (some (.err .deselected), session) =>
    match self.sessions with
    | 0 => self.withSession session
    | sessions + 1 => { self.withSession session with sessions }.call .waitForActivation
  | _, (_, session) => self.withSession session

end CardThread

/-- The air: the thread at the other end, and what becomes of the calls to come. -/
structure Air where
  thread : CardThread
  fates : List Fate := []

namespace Air

variable [Build]

/-- A frame is lost, or it reaches the card thread, which runs until it waits again; the answer is lost
    or arrives, as the fates say. -/
instance : PcdTransceiver Air Unit where
  transceive self frame :=
    match self.fates with
    | .frameLost :: fates => (.error (), { self with fates })
    | .answerLost :: fates => (.error (), { thread := self.thread.serve frame.data, fates })
    | .delivered :: fates =>
      let thread := self.thread.serve frame.data
      (Link.answerOf self.thread.card thread.card, { thread, fates })
    | [] =>
      let thread := self.thread.serve frame.data
      (Link.answerOf self.thread.card thread.card, { thread })
  tryEnableHwCrc self := (if self.thread.card.session.picc.hwCrc then .ok () else .error (), self)

end Air

/-! ## A call that fails

  The order of things in each method is: read, decide, send.  A failure comes from the first two,
  or from the send itself, and the antenna takes every frame; but after an S(DESELECT) has been
  answered the call returns an error too. -/

namespace Picc

variable [Build] {s s' : Picc (Logged Antenna)} {b : Block}

omit [Build] in
/-- The antenna takes every frame. -/
@[simp] theorem sendResult_antenna (s : Picc (Logged Antenna)) (frame : Frame) :
    s.sendResult frame = .ok () := rfl

/-- The reply to an S(DESELECT) has gone out. -/
structure Deselects (s s' : Picc (Logged Antenna)) : Prop where
  reply : ∃ b k reply, receive s.handler b = (.ok (.reply reply), k) ∧
    isDeselectReply reply = true ∧ s'.sent = s.sent ++ [.standard (reply.raw s.hwCrc)]

/-- A call that fails has said nothing. -/
def Mute (s : Picc (Logged Antenna))
    (out : Res (PiccError Unit) Next × Picc (Logged Antenna)) : Prop :=
  (∀ next, out.1 ≠ .ok next) → out.2.sent.length ≤ s.sent.length

/-- **A call that fails has said nothing**, or S(DESELECT). -/
def Tacit (s : Picc (Logged Antenna))
    (out : Res (PiccError Unit) Next × Picc (Logged Antenna)) : Prop :=
  s.Mute out ∨ (out.1 = .err .deselected ∧ s.Deselects out.2)

omit [Build] in
/-- A call that goes on has not failed. -/
theorem mute_ok {next : Next} : Mute s (.ok next, s') := fun h => absurd rfl (h next)

omit [Build] in
/-- Nothing was sent. -/
theorem mute_same {r : Res (PiccError Unit) Next} (h : s'.sent = s.sent) : Mute s (r, s') :=
  fun _ => Nat.le_of_eq (congrArg List.length h)

/-- A block goes out, or nothing does. -/
theorem sendBlock_cases (s : Picc (Logged Antenna)) (b : Block) :
    (∃ s', (sendBlock b).run s = (.ok (), s')) ∨
      ∃ e, (sendBlock b).run s = (.err (.protocol e), s.remembering b) := by
  rcases (frameFor_returns s.hwCrc b).cases with ⟨frame, hframe⟩ | ⟨e, hframe⟩
  · exact Or.inl ⟨_, run_sendBlock hframe⟩
  · exact Or.inr ⟨e, run_sendBlock_err hframe⟩

/-- A call that sends a block and goes on. -/
theorem mute_sendBlock (s₁ : Picc (Logged Antenna)) (hs : s₁.sent = s.sent) {next : Next}
    (b : Block) : Mute s ((do
      sendBlock b
      pure next : Act (Picc (Logged Antenna)) (PiccError Unit) Next).run s₁) := by
  rcases sendBlock_cases s₁ b with ⟨s', h⟩ | ⟨e, h⟩
  · rw [Act.run_bind_ok h]
    exact mute_ok
  · rw [Act.run_bind_err h]
    exact mute_same hs

/-- A reply goes out, and the call with it if it is the last one. -/
theorem tacit_reply {k : ProtocolHandler} {reply : Block} {call : PiccCall}
    (hr : receive s.handler b = (.ok (.reply reply), k)) : Tacit s ((do
      sendBlock reply
      if isDeselectReply reply then do
        setState .halted
        Act.throw .deselected
      else pure (.wait call) : Act (Picc (Logged Antenna)) (PiccError Unit) Next).run
        (s.withHandler k)) := by
  cases hd : isDeselectReply reply with
  | false =>
    simp only [Bool.false_eq_true, if_false]
    exact Or.inl (mute_sendBlock (s := s) (s.withHandler k) rfl reply)
  | true =>
    have hsend : reply.bytes.length + 2 ≤ 256 :=
      Nat.le_trans (Peer.sendable_reply (Nat.le_refl 16) hr).length (by decide)
    simp only [if_true]
    rw [Act.run_bind, run_sendBlock_saying hsend]
    exact Or.inr ⟨rfl, ⟨b, k, reply, hr, hd, rfl⟩⟩

/-- One round of `send_response`. -/
theorem mute_sendChunk (s₁ : Picc (Logged Antenna)) (hs : s₁.sent = s.sent) (data : List UInt8)
    (maxInf offset : Nat) : Mute s ((sendChunk data maxInf offset).run s₁) := by
  rw [sendChunk, Act.run_get_bind, Act.run_bind, run_lift]
  cases Res.slice data offset (min (offset + maxInf) data.length) with
  | ok chunk =>
    simp only [Res.mapErr_ok]
    rw [Act.run_bind, run_lift]
    cases s₁.handler.buildIblock chunk (min (offset + maxInf) data.length < data.length) with
    | ok iblock =>
      simp only [Res.mapErr_ok]
      by_cases hmore : min (offset + maxInf) data.length < data.length
      · simp only [hmore, decide_true, if_true]
        exact mute_sendBlock s₁ hs iblock
      · simp only [hmore, decide_false, Bool.false_eq_true, if_false]
        exact mute_sendBlock s₁ hs iblock
    | err e => exact mute_same hs
    | panic => exact mute_same hs
    | outOfFuel => exact mute_same hs
  | err e => exact mute_same hs
  | panic => exact mute_same hs
  | outOfFuel => exact mute_same hs

/-- A PPS request. -/
theorem mute_handlePps (s₁ : Picc (Logged Antenna)) (hs : s₁.sent = s.sent) (raw : List UInt8) :
    Mute s ((do
      handlePps raw
      pure (.wait .receiveCommand) : Act (Picc (Logged Antenna)) (PiccError Unit) Next).run s₁) := by
  rw [handlePps, Act.run_bind, Act.run_get_bind, Act.run_bind, run_lift]
  cases s₁.stripCrc raw with
  | ok data =>
    simp only [Res.mapErr_ok]
    rw [Act.run_bind, run_lift]
    cases PpsParam.fromCrcVerified data with
    | ok pps =>
      simp only [Res.mapErr_ok]
      rw [run_sendStandard (by simp)]
      exact mute_ok
    | err e => exact mute_same hs
    | panic => exact mute_same hs
    | outOfFuel => exact mute_same hs
  | err e => exact mute_same hs
  | panic => exact mute_same hs
  | outOfFuel => exact mute_same hs

/-- One frame of a command: if the call fails, it has said nothing, or it was an S(DESELECT) that
    ended the session. -/
theorem tacit_receiveCommand (raw : List UInt8) : Tacit s ((receiveCommand raw).run s) := by
  cases hpps : isPps raw with
  | true =>
    rw [run_receiveCommand_pps hpps, Act.run_bind, run_onHandler, run_noteFrame]
    by_cases hf : s.handler.FrameOk
    · rw [if_pos hf]
      exact Or.inl (mute_handlePps (s := s) (s.withHandler s.handler.counted) rfl raw)
    · rw [if_neg hf]
      exact Or.inl (mute_same rfl)
  | false =>
    rw [run_receiveCommand_block hpps, Act.run_bind, run_lift]
    rcases (s.parseBlock_returns raw).cases with ⟨b, hb⟩ | ⟨e, hb⟩ <;> rw [hb]
    · simp only [Res.mapErr_ok]
      rw [Act.run_bind, run_onHandler_receive]
      rcases s.handler.receive_cases b with ⟨a, k, hr⟩ | ⟨e, k, hr⟩ <;> rw [hr]
      · cases a with
        | complete data => exact Or.inl mute_ok
        | reply reply => exact tacit_reply hr
        | chainingAck => exact Or.inl (mute_same rfl)
        | chainingRetransmit =>
          show Tacit s ((do
            let self ← Act.get
            let last ← lift (Res.okOr .other self.lastSent)
            sendBlock last
            pure (.wait .receiveCommand) :
              Act (Picc (Logged Antenna)) (PiccError Unit) Next).run (s.withHandler k))
          rw [Act.run_get_bind, Act.run_bind, run_lift]
          cases (s.withHandler k).lastSent with
          | none => exact Or.inl (mute_same rfl)
          | some last => exact Or.inl (mute_sendBlock (s := s) (s.withHandler k) rfl last)
      · exact Or.inl (mute_same rfl)
    · exact Or.inl (mute_same rfl)

/-- One frame of a response. -/
theorem tacit_sendResponse (data : List UInt8) (maxInf stop : Nat) (iblock : Block)
    (raw : List UInt8) : Tacit s ((sendResponse data maxInf stop iblock raw).run s) := by
  rw [sendResponse, Act.run_get_bind, Act.run_bind, run_lift]
  rcases (s.parseBlock_returns raw).cases with ⟨b, hb⟩ | ⟨e, hb⟩ <;> rw [hb]
  · simp only [Res.mapErr_ok]
    rw [Act.run_bind, run_onHandler_receive]
    rcases s.handler.receive_cases b with ⟨a, k, hr⟩ | ⟨e, k, hr⟩ <;> rw [hr]
    · cases a with
      | complete data => exact Or.inl (mute_same rfl)
      | reply reply => exact tacit_reply hr
      | chainingAck => exact Or.inl (mute_sendChunk (s := s) (s.withHandler k) rfl data maxInf stop)
      | chainingRetransmit => exact Or.inl (mute_sendBlock (s := s) (s.withHandler k) rfl iblock)
    · exact Or.inl (mute_same rfl)
  · exact Or.inl (mute_same rfl)

/-- `send_response`, up to where it waits. -/
theorem mute_begin (data : List UInt8) :
    Mute s ((PiccApi.begin (.sendResponse data)).run s) := by
  have hmax : ∀ maxInf : Nat, Mute s ((if maxInf = 0 then Act.throw (.protocol .other)
      else sendChunk data maxInf 0 : Act (Picc (Logged Antenna)) (PiccError Unit) Next).run s) := by
    intro maxInf
    split
    · exact mute_same rfl
    · exact mute_sendChunk s rfl data maxInf 0
  rw [PiccApi.begin, Act.run_get_bind, Act.run_bind, run_lift]
  cases s.handler.buildIblock [] false with
  | ok empty => exact hmax _
  | err e => exact mute_same rfl
  | panic => exact mute_same rfl
  | outOfFuel => exact mute_same rfl

/-- A command that is handed over has not been answered: the block that completes it is answered by
    the response, and by nothing else. -/
theorem sent_of_apdu {raw : List UInt8} {data : ChainVec}
    (h : (receiveCommand raw : Act _ (PiccError Unit) Next).run s = (.ok (.ret (.apdu data)), s')) :
    s'.sent = s.sent := by
  -- a reply, or a block again, and the call waits
  have hwait : ∀ (m : Act (Picc (Logged Antenna)) (PiccError Unit) Unit) s₁,
      (do m; pure (.wait .receiveCommand) : Act (Picc (Logged Antenna)) (PiccError Unit) Next).run s₁ ≠
        (.ok (.ret (.apdu data)), s') := by
    intro m s₁ hrun
    obtain ⟨_, _, _, hrun⟩ := Act.run_bind_eq_ok.mp hrun
    cases hrun
  cases hpps : isPps raw with
  | true =>
    rw [run_receiveCommand_pps hpps] at h
    obtain ⟨_, _, _, h⟩ := Act.run_bind_eq_ok.mp h
    exact absurd h (hwait _ _)
  | false =>
    rw [run_receiveCommand_block hpps] at h
    obtain ⟨b, s₁, hb, h⟩ := Act.run_bind_eq_ok.mp h
    obtain ⟨a, s₂, ha, h⟩ := Act.run_bind_eq_ok.mp h
    have hs₁ : s₁ = s := (congrArg Prod.snd hb).symm
    have hs₂ : s₂.sent = s₁.sent := congrArg (fun p => Picc.sent p.2) ha.symm
    cases a with
    | complete data' =>
      cases h
      rw [hs₂, hs₁]
    | reply reply =>
      obtain ⟨_, _, _, h⟩ := Act.run_bind_eq_ok.mp h
      split at h
      · cases h
      · cases h
    | chainingAck => cases h
    | chainingRetransmit =>
      obtain ⟨_, _, _, h⟩ := Act.run_bind_eq_ok.mp h
      obtain ⟨_, _, _, h⟩ := Act.run_bind_eq_ok.mp h
      exact absurd h (hwait _ _)

end Picc

/-! ## The thread and the card of an exchange

  The same frame, for the two applications.  As long as the calls succeed they do the same: answer,
  and go back to `receive_command`. -/

/-- A call of a session. -/
def PiccCall.InSession (call : Option PiccCall) : Prop := call = some .receiveCommand ∨
  ∃ data inf stop iblock, call = some (.sendResponse data inf stop iblock)

/-- **What a frame does to a call of a session.** -/
theorem Picc.resume_cases [Build] {s : Picc (Logged Antenna)} {call : PiccCall}
    (hcall : PiccCall.InSession (some call)) (raw : List UInt8) :
    Tacit s ((call.resume (.ok raw)).run s) ∧ ∀ next, ((call.resume (.ok raw)).run s).1 = .ok next →
      (∃ c, next = .wait c ∧ PiccCall.InSession (some c)) ∨ next = .ret .unit ∨
        ∃ data, next = .ret (.apdu data) ∧ ((call.resume (.ok raw)).run s).2.sent = s.sent := by
  have hlead : ∀ next, ((call.resume (.ok raw)).run s).1 = .ok next → call.Leads next :=
    fun next hok => yields_resume (E := Unit) call (.ok raw) next ⟨s, _, Prod.ext hok rfl⟩
  rcases hcall with hcall | ⟨data, inf, stop, iblock, hcall⟩
  · obtain rfl := Option.some.inj hcall
    refine ⟨tacit_receiveCommand raw, fun next hok => ?_⟩
    rcases hlead next hok with rfl | ⟨data, rfl⟩
    · exact Or.inl ⟨_, rfl, Or.inl rfl⟩
    · exact Or.inr (Or.inr ⟨data, rfl, sent_of_apdu (Prod.ext hok rfl)⟩)
  · obtain rfl := Option.some.inj hcall
    refine ⟨tacit_sendResponse data inf stop iblock raw, fun next hok => ?_⟩
    rcases hlead next hok with rfl | ⟨stop', iblock', rfl, -⟩
    · exact Or.inr (Or.inl rfl)
    · exact Or.inl ⟨_, rfl, Or.inr ⟨data, inf, stop', iblock', rfl⟩⟩

namespace CardThread

variable [Build] {self : CardThread} {raw : FrameVec}

open PiccCall

/-- The response to a command: both go on alike, or nothing is said.  The thread is done when
    `send_response` fails, and a call that fails at once has sent no block. -/
theorem answer_alike (self : CardThread) (hcall : self.card.session.call = none)
    (data : List UInt8) :
    (self.answer data = { self with card := self.card.answer data } ∧
        InSession (self.card.answer data).session.call) ∨
      (self.card.answer data).sent.length ≤ self.card.sent.length := by
  obtain ⟨⟨⟨picc, call⟩, respond, handed⟩, sessions⟩ := self
  obtain rfl : call = none := hcall
  have hmute := Picc.mute_begin (s := picc) data
  have hstep : PiccSession.step ⟨picc, none⟩ (.call (.sendResponse data) : PiccInput Unit) =
      PiccSession.advance picc (PiccApi.begin (.sendResponse data)) := rfl
  rcases hrun : (PiccApi.begin (.sendResponse data) : Act _ (PiccError Unit) Next).run picc with
    ⟨r, picc'⟩
  rw [PiccSession.advance, hrun] at hstep
  rw [hrun] at hmute
  cases r with
  | ok next =>
    left
    cases next with
    | wait next =>
      obtain ⟨inf, stop, iblock, rfl, -⟩ := Picc.wait_beginResponse hrun
      simp only [answer, Card.answer, hstep]
      exact ⟨rfl, Or.inr ⟨data, inf, stop, iblock, rfl⟩⟩
    | ret out =>
      simp only [answer, Card.answer, hstep]
      exact ⟨rfl, Or.inl rfl⟩
  | err e | panic | outOfFuel =>
    right
    simp only [Card.answer, hstep]
    exact hmute (by simp)

/-- **In a session the thread does what the card of an exchange does**, unless that says nothing, or
    S(DESELECT). -/
theorem serve_deliver (hcall : InSession self.card.session.call) (raw : FrameVec) :
    (self.serve raw = { self with card := self.card.deliver raw } ∧
        InSession (self.card.deliver raw).session.call) ∨
      (self.card.deliver raw).sent.length ≤ self.card.sent.length ∨
      self.card.session.picc.Deselects (self.card.deliver raw).session.picc := by
  obtain ⟨⟨⟨picc, call⟩, respond, handed⟩, sessions⟩ := self
  cases call with
  | none => rcases hcall with hcall | ⟨_, _, _, _, hcall⟩ <;> cases hcall
  | some call =>
    obtain ⟨htacit, hnext⟩ := Picc.resume_cases (s := picc) hcall raw
    have hstep : PiccSession.step ⟨picc, some call⟩ (.frame (.ok raw) : PiccInput Unit) =
        PiccSession.advance picc (call.resume (.ok raw)) := rfl
    rcases hrun : (call.resume (.ok raw) : Act _ (PiccError Unit) Next).run picc with ⟨r, picc'⟩
    rw [PiccSession.advance, hrun] at hstep
    rw [hrun] at htacit hnext
    cases r with
    | ok next =>
      -- the call waits again, returns nothing, or returns an APDU
      rcases hnext next rfl with ⟨c, rfl, hc⟩ | rfl | ⟨data, rfl, hsent⟩
      · left
        simp only [serve, Card.deliver, hstep]
        exact ⟨rfl, hc⟩
      · left
        simp only [serve, Card.deliver, hstep]
        rcases hcall with hcall | ⟨_, _, _, _, hcall⟩ <;> cases hcall <;> exact ⟨rfl, Or.inl rfl⟩
      · -- both applications answer
        simp only [serve, Card.deliver, hstep]
        rcases answer_alike ⟨⟨⟨picc', none⟩, respond, handed ++ [data]⟩, sessions⟩ rfl
          (respond (handed ++ [data])) with h | h
        · exact Or.inl h
        · refine Or.inr (Or.inl (Nat.le_trans h ?_))
          exact Nat.le_of_eq (congrArg List.length hsent)
    | err e =>
      -- a call that fails has said nothing, or S(DESELECT)
      right
      simp only [Card.deliver, hstep]
      rcases htacit with h | ⟨-, h⟩
      · exact Or.inl (h (by simp))
      · exact Or.inr ⟨h.reply⟩
    | panic | outOfFuel =>
      right
      simp only [Card.deliver, hstep]
      rcases htacit with h | ⟨h, -⟩
      · exact Or.inl (h (by simp))
      · cases h

end CardThread

end Iso14443
