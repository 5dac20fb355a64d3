/-
  Two cards side by side (`src/type_a/picc.rs`).

  Many things are to be shown of all methods of a card: that none of them panics, or changes the CRC
  mode, or tells two cards apart that differ in one field, that the card halts only on its way out of
  a call, that one frame is sent at most.  The argument is the same each time.  A method is a program
  of a few forms, and its steps are few: a frame out, a block to the handler, an assignment.  So the
  walk through the methods is made here once, for every relation that the forms of programs keep
  (`Act.Graded`), and a module that needs one of these facts states what the steps do, and no more.

  * `SendSteps`      — the steps of two cards that send are related.
  * `Steps`          — so are, besides, the steps of their handlers.
  * `Steps.begin`, `Steps.resume` — so are the calls of the API, and what a waiting call does with a
                       frame; the cost is that of one frame sent.
  * `yields_resume`  — where a frame may lead a call that waits.

  Three places need more than the forms.  A chunk that starts behind the end of the response, and a
  card that waits for its activation though it is selected, panic in the source: there the relation
  must know of panics, or the state must exclude them.  The card halts in two places, each of which
  fails at once, so `leave` is a step of its own.  And the block sent last is looked at in one place,
  when the handler grants a retransmission: `repeated`.
-/
import Iso14443.PiccStep
import Iso14443.Lib.Relator

namespace Iso14443

open Act

namespace Picc

variable {T T' E : Type}

/-! ## The steps

  What a relation has to say of the two cards.  The first structure is for methods that only send,
  the second one adds the handler; both name each step by what the source does there. -/

/-- What two cards see of themselves is the same, but for the block sent last.  A method that reads
    no more than this takes the same branches on both. -/
structure SeenAlike (s : Picc T) (s' : Picc T') : Prop where
  hwCrc : s'.hwCrc = s.hwCrc
  config : s'.config = s.config
  handler : s'.handler = s.handler
  state : s'.state = s.state
  fsd : s'.fsd = s.fsd

/-- A card is like itself. -/
theorem SeenAlike.refl (s : Picc T) : SeenAlike s s := ⟨rfl, rfl, rfl, rfl, rfl⟩

/-- The last block is sent again, as Rule 11 has it. -/
def sendLast [Build] [PiccTransceiver T E] : Act (Picc T) (PiccError E) Next := do
  let self ← Act.get
  let last ← lift (Res.okOr .other self.lastSent)
  sendBlock last
  pure (.wait .receiveCommand)

/-- **The steps of two cards that send are related.** Only a frame sent costs anything.  `View` is
    what holds of the two states between steps, `P` what is claimed of two programs; an instance is
    one fact about all methods of a card that send. -/
structure SendSteps [PiccTransceiver T E] [PiccTransceiver T' E] (View : Picc T → Picc T' → Prop)
    (P : Nat → ∀ α : Type, Act (Picc T) (PiccError E) α → Act (Picc T') (PiccError E) α → Prop) :
    Prop where
  forms : Graded View P
  seen : ∀ s s', View s s' → SeenAlike s s'
  send : ∀ frame, P 1 Unit (send frame) (send frame)
  remember : ∀ block, P 0 Unit (Act.modify fun self => { self with lastSent := some block })
    (Act.modify fun self => { self with lastSent := some block })
  /-- A state that is entered: never `halted`, and no cascade level beyond those of the UID. -/
  enter : ∀ state, state ≠ .halted →
    (∀ level, state = .ready level → ∃ s s', View s s' ∧ level < s.config.uid.cascadeLevels) →
    P 0 Unit (setState state) (setState state)
  /-- The card halts, and the call fails. -/
  leave : ∀ {α : Type} (e : PiccError E), P 0 α (do setState .halted; Act.throw e)
    (do setState .halted; Act.throw e)

/-- **The steps of two cards are related**: those that send, and what their handlers do.  A
    retransmission is a step of its own (`repeated`), since it is the one place where the block sent
    last is read, and a relation may depend on the handler having granted it. -/
structure Steps [Build] [PiccTransceiver T E] [PiccTransceiver T' E]
    (View : Picc T → Picc T' → Prop)
    (P : Nat → ∀ α : Type, Act (Picc T) (PiccError E) α → Act (Picc T') (PiccError E) α → Prop) :
    Prop extends SendSteps View P where
  starts : ∀ rats, P 0 Unit (Act.modify (beginSession rats)) (Act.modify (beginSession rats))
  begins : P 0 Unit (Act.modify fun self => { self with handler := self.handler.beginExchange })
    (Act.modify fun self => { self with handler := self.handler.beginExchange })
  noted : P 0 Unit (onHandler ProtocolHandler.noteFrame) (onHandler ProtocolHandler.noteFrame)
  received : ∀ block, P 0 Action (onHandler (ProtocolHandler.processReceived block))
    (onHandler (ProtocolHandler.processReceived block))
  /-- Where the handler grants a retransmission, the last block goes out. -/
  repeated : ∀ block {f : Action → Act (Picc T) (PiccError E) Next}
    {f' : Action → Act (Picc T') (PiccError E) Next},
    (∀ a, a ≠ .chainingRetransmit → P 1 Next (f a) (f' a)) →
    f .chainingRetransmit = sendLast → f' .chainingRetransmit = sendLast →
    P 1 Next (onHandler (ProtocolHandler.processReceived block) >>= f)
      (onHandler (ProtocolHandler.processReceived block) >>= f')

namespace SeenAlike

variable {s : Picc T} {s' : Picc T'}

/-- Two cards seen alike take the CRC_A off a frame alike. -/
theorem stripCrc (h : SeenAlike s s') (raw : List UInt8) : s'.stripCrc raw = s.stripCrc raw := by
  rw [Picc.stripCrc, h.hwCrc, Picc.stripCrc]

/-- Both take the same frames for too long, and read the others alike. -/
theorem parseBlock [Build] (h : SeenAlike s s') (raw : List UInt8) :
    s'.parseBlock raw = s.parseBlock raw := by
  have hfsc : s'.fsc = s.fsc := by simp only [fsc, h.config]
  simp only [Picc.parseBlock, h.hwCrc, hfsc, h.stripCrc]

/-- Both are at the same bytes of the same UID. -/
theorem uidBccForLevel (h : SeenAlike s s') (level : Nat) :
    s'.uidBccForLevel level = s.uidBccForLevel level := by
  simp only [Picc.uidBccForLevel, h.config]

/-- They agree on which level is the last. -/
theorem isLastCascadeLevel (h : SeenAlike s s') (level : Nat) :
    s'.isLastCascadeLevel level = s.isLastCascadeLevel level := by
  rw [Picc.isLastCascadeLevel, h.config, Picc.isLastCascadeLevel]

end SeenAlike

/-! ## The methods that send

  Each of these is a sequence of steps, so the proofs have the shape of the programs: one rule for
  each bind, one for each branch.  Conditions are the same on both sides, by `SeenAlike`. -/

namespace SendSteps

variable [PiccTransceiver T E] [PiccTransceiver T' E] {View : Picc T → Picc T' → Prop}
  {P : Nat → ∀ α : Type, Act (Picc T) (PiccError E) α → Act (Picc T') (PiccError E) α → Prop}
  [Build]

/-- A standard frame is one frame, closed with its CRC_A. -/
theorem sendStandard (h : SendSteps View P) (data : List UInt8) :
    P 1 Unit (sendStandard data) (sendStandard data) := by
  refine h.forms.get_bind fun s s' hs => ?_
  rw [(h.seen s s' hs).hwCrc]
  exact h.forms.lift_bind (frameOf_returns _ _) fun frame _ => h.send frame

/-- A block is one standard frame. -/
theorem sendBlock (h : SendSteps View P) (block : Block) :
    P 1 Unit (sendBlock block) (sendBlock block) := by
  refine h.forms.bind_free (h.remember block) fun _ _ => h.forms.get_bind fun s s' hs => ?_
  rw [(h.seen s s' hs).hwCrc]
  exact h.forms.lift_bind (frameFor_returns _ _) fun frame _ => h.send frame

/-- An ATQA is one frame. -/
theorem sendAtqa (h : SendSteps View P) : P 1 Unit sendAtqa sendAtqa := by
  refine h.forms.get_bind fun s s' hs => ?_
  rw [(h.seen s s' hs).config]
  exact h.forms.lift_bind (tryExtend_returns _ _ _) fun data _ => h.send _

/-- An ATS is one frame. -/
theorem sendAts (h : SendSteps View P) : P 1 Unit sendAts sendAts := by
  refine h.forms.get_bind fun s s' hs => ?_
  rw [(h.seen s s' hs).config]
  refine h.forms.lift_bind (Res.returns_okOr _ _) fun ats _ => ?_
  exact h.forms.lift_bind ats.toBytes_returns fun bytes _ => h.sendStandard bytes

/-- A PPS is answered with one frame or with none. -/
theorem handlePps (h : SendSteps View P) (raw : List UInt8) :
    P 1 Unit (handlePps raw) (handlePps raw) := by
  refine h.forms.get_bind fun s s' hs => ?_
  rw [(h.seen s s' hs).stripCrc]
  refine h.forms.lift_bind (s.stripCrc_returns raw) fun data _ => ?_
  exact h.forms.lift_bind (PpsParam.fromCrcVerified_returns data) fun pps _ => h.sendStandard _

/-- A reply goes out, and ends the call if it is the one to an S(DESELECT). -/
theorem reply (h : SendSteps View P) (reply : Block) (call : PiccCall) : P 1 Next
    (do
      Picc.sendBlock reply
      if isDeselectReply reply then do
        setState .halted
        Act.throw .deselected
      else pure (.wait call))
    (do
      Picc.sendBlock reply
      if isDeselectReply reply then do
        setState .halted
        Act.throw .deselected
      else pure (.wait call)) := by
  refine h.forms.bind_all (h.sendBlock reply) fun _ _ => ?_
  exact h.forms.ite (fun _ => h.leave _) fun _ => h.forms.pure _

/-- The chunk at `offset`, which is within the response where panics are not allowed. -/
theorem sendChunk (h : SendSteps View P) {data : List UInt8} (maxInf : Nat) {offset : Nat}
    (hoffset : offset ≤ data.length ∨ P 0 (List UInt8) Act.panic Act.panic) :
    P 1 Next (sendChunk data maxInf offset) (sendChunk data maxInf offset) := by
  refine h.forms.get_bind fun s s' hs => ?_
  rw [(h.seen s s' hs).handler]
  have hslice : P 0 (List UInt8)
      (lift (Res.slice data offset (min (offset + maxInf) data.length)))
      (lift (Res.slice data offset (min (offset + maxInf) data.length))) := by
    rcases Nat.lt_or_ge data.length offset with hlt | hle
    · have hpanic : (Res.slice data offset (min (offset + maxInf) data.length) :
          Res TypeAError (List UInt8)) = .panic := by
        rw [Res.slice, if_neg (by omega)]
      rw [hpanic]
      exact hoffset.resolve_left (by omega)
    · rw [Res.slice_of_le (by omega) (by omega)]
      exact h.forms.pure _
  refine h.forms.bind_free hslice fun chunk _ => ?_
  refine h.forms.lift_bind (s.handler.buildIblock_returns _ _) fun iblock _ => ?_
  refine h.forms.bind_all (h.sendBlock iblock) fun _ _ => ?_
  exact h.forms.ite (fun _ => h.forms.pure _) fun _ => h.forms.pure _

/-- The first chunk of a response, which may be empty. -/
theorem beginResponse (h : SendSteps View P) (data : List UInt8) :
    P 1 Next (PiccApi.sendResponse data).begin (PiccApi.sendResponse data).begin := by
  refine h.forms.get_bind fun s s' hs => ?_
  have hseen := h.seen s s' hs
  rw [hseen.handler, hseen.fsd]
  refine h.forms.lift_bind (s.handler.buildIblock_returns _ _) fun empty _ => ?_
  refine h.forms.ite (fun _ => h.forms.throw_le _) fun _ => ?_
  exact h.sendChunk _ (Or.inl (Nat.zero_le _))

/-- REQA and WUPA, for a card that listens to the frame or not. -/
theorem request (h : SendSteps View P) {c : Prop} [Decidable c] {s : Picc T} {s' : Picc T'}
    (hs : View s s') : P 1 Unit (if c then do Picc.sendAtqa; setState (.ready 0) else pure ())
      (if c then do Picc.sendAtqa; setState (.ready 0) else pure ()) := by
  refine h.forms.ite (fun _ => ?_) fun _ => h.forms.pure_le ()
  refine h.forms.bind_all h.sendAtqa fun _ _ => h.enter _ (by simp) ?_
  rintro level ⟨⟩
  exact ⟨s, s', hs, (cascadeLevels_le s.config.uid).1⟩

/-- Anticollision and SELECT at one cascade level. -/
theorem handleReady (h : SendSteps View P) (raw : List UInt8) (level : Nat) :
    P 1 Unit (handleReady raw level) (handleReady raw level) := by
  refine h.forms.ite (fun _ => h.forms.pure_le ()) fun hlen => ?_
  refine h.forms.lift_bind (Res.returns_index (by omega)) fun sel _ => ?_
  refine h.forms.lift_bind (Res.returns_okOr _ _) fun expected _ => ?_
  refine h.forms.ite (fun _ => h.forms.pure_le ()) fun _ => h.forms.ite (fun _ => ?_) fun _ => ?_
  · -- the UID of this level is asked for
    refine h.forms.get_bind fun s s' hs => ?_
    rw [(h.seen s s' hs).uidBccForLevel]
    refine h.forms.lift_bind (s.uidBccForLevel_returns level) fun uidBcc _ => ?_
    exact h.forms.lift_bind (tryExtend_returns _ _ _) fun resp _ => h.send _
  · refine h.forms.lift_bind (Res.returns_index (by omega)) fun nvb _ => ?_
    refine h.forms.ite (fun _ => h.forms.get_bind fun s s' hs => ?_) fun _ => h.forms.pure_le ()
    have hseen := h.seen s s' hs
    rw [hseen.stripCrc, hseen.isLastCascadeLevel, hseen.config]
    refine h.forms.lift_bind (s.stripCrc_returns raw) fun data _ => ?_
    refine h.forms.ite (fun _ => h.forms.pure_le ()) fun _ => ?_
    refine h.forms.bind_all (h.sendStandard _) fun _ _ => h.forms.ite (fun _ => ?_) fun hlast => ?_
    · exact h.enter _ (by simp) (by simp)
    · refine h.enter _ (by simp) ?_
      rintro _ ⟨⟩
      exact ⟨s, s', hs, by simpa [Picc.isLastCascadeLevel] using hlast⟩

/-- **One round of `wait_for_activation`**, in a state in which the card waits for it. -/
theorem round (h : SendSteps View P) {s : Picc T} {s' : Picc T'} (hs : View s s')
    (raw : List UInt8) {state : PiccState}
    (hstate : (state ≠ .active ∧ state ≠ .protocol) ∨ P 0 Unit Act.panic Act.panic) : P 1 Next
    ((match state with
      | .idle => handleIdle raw
      | .halted => if raw = [0x52] then (do Picc.sendAtqa; setState (.ready 0)) else pure ()
      | .ready cascadeLevel => Picc.handleReady raw cascadeLevel
      | .active | .protocol => Act.panic) >>= fun _ => roundEnd)
    ((match state with
      | .idle => handleIdle raw
      | .halted => if raw = [0x52] then (do Picc.sendAtqa; setState (.ready 0)) else pure ()
      | .ready cascadeLevel => Picc.handleReady raw cascadeLevel
      | .active | .protocol => Act.panic) >>= fun _ => roundEnd) := by
  refine h.forms.bind_all ?_ fun _ _ => h.forms.get_bind fun t t' ht => ?_
  · cases state with
    | idle => exact h.request hs
    | halted => exact h.request hs
    | ready level => exact h.handleReady raw level
    | active => exact h.forms.mono (hstate.resolve_left (by simp)) (Nat.zero_le 1)
    | protocol => exact h.forms.mono (hstate.resolve_left (by simp)) (Nat.zero_le 1)
  · rw [(h.seen t t' ht).state]
    exact h.forms.ite (fun _ => h.forms.pure _) fun _ => h.forms.pure _

/-- Two cards that remember the same block send it again alike. -/
theorem sendLast (h : SendSteps View P) (hlast : ∀ s s', View s s' → s'.lastSent = s.lastSent) :
    P 1 Next sendLast sendLast := by
  refine h.forms.get_bind fun s s' hs => ?_
  rw [hlast s s' hs]
  refine h.forms.lift_bind (Res.returns_okOr _ _) fun last _ => ?_
  exact h.forms.bind_all (h.sendBlock last) fun _ _ => h.forms.pure _

/-- **Cards that remember the same block**: for them `repeated` is no step of its own. -/
theorem steps (h : SendSteps View P) (hlast : ∀ s s', View s s' → s'.lastSent = s.lastSent)
    (starts : ∀ rats, P 0 Unit (Act.modify (beginSession rats)) (Act.modify (beginSession rats)))
    (begins : P 0 Unit (Act.modify fun self => { self with handler := self.handler.beginExchange })
      (Act.modify fun self => { self with handler := self.handler.beginExchange }))
    (noted : P 0 Unit (onHandler ProtocolHandler.noteFrame) (onHandler ProtocolHandler.noteFrame))
    (received : ∀ block, P 0 Action (onHandler (ProtocolHandler.processReceived block))
      (onHandler (ProtocolHandler.processReceived block))) : Steps View P where
  toSendSteps := h
  starts := starts
  begins := begins
  noted := noted
  received := received
  repeated := by
    intro block f f' hf hs hs'
    refine h.forms.bind_free (received block) fun a _ => ?_
    by_cases ha : a = .chainingRetransmit
    · rw [ha, hs, hs']
      exact h.sendLast hlast
    · exact hf a ha

end SendSteps

/-! ## Two calls in another form

  `wait_for_activation` by the state the card is in, and `wait_for_rats` by the frame.  In this form
  the branch that panics, and the one that halts, are steps of the call itself. -/

/-- The end of `wait_for_rats`. -/
def ratsEnd : Act (Picc T) (PiccError E) Next := do
  let self ← Act.get
  if self.state = .protocol then pure (.ret .unit) else Act.throw (.protocol .other)

/-- A card that was halted has no session to return. -/
theorem halted_ratsEnd : (do setState .halted; ratsEnd : Act (Picc T) (PiccError E) Next) =
    (do setState .halted; Act.throw (.protocol .other)) := rfl

section Forms

variable [Build] [PiccTransceiver T E]

/-- `wait_for_activation` as the cases of its state, each by the method that handles it. -/
theorem waitForActivation_eq (raw : List UInt8) :
    (waitForActivation raw : Act (Picc T) (PiccError E) Next) = Act.get >>= fun self =>
      (match self.state with
        | .idle => handleIdle raw
        | .halted => if raw = [0x52] then (do sendAtqa; setState (.ready 0)) else pure ()
        | .ready cascadeLevel => handleReady raw cascadeLevel
        | .active | .protocol => Act.panic) >>= fun _ => roundEnd :=
  congrArg Act.mk (funext fun s => run_waitForActivation s raw)

/-- The end of the call is drawn into the branches of `handle_active`.  The method ends by asking
    for the state, which is known in every branch; so the walk meets no test of the state that a
    relation could not decide. -/
theorem waitForRats_eq (raw : List UInt8) :
    (waitForRats raw : Act (Picc T) (PiccError E) Next) =
      (if raw.isEmpty then ratsEnd
      else do
        let self ← Act.get
        let first ← lift (Res.index raw 0)
        if first = 0xe0 then do
          let data ← lift (self.stripCrc raw)
          let paramByte ← lift (ratsByte data)
          let rats ← lift (RatsParam.tryFrom paramByte)
          Act.modify (beginSession rats)
          sendAts
          setState .protocol
          ratsEnd
        else if first = 0x50 then do
          let data ← lift (self.stripCrc raw)
          if data = [0x50, 0x00] then do
            setState .halted
            Act.throw (.protocol .other)
          else ratsEnd
        else ratsEnd) := by
  show handleActive raw >>= (fun _ => ratsEnd) = _
  rw [handleActive]
  -- the branches of `handle_active`, each with the end of the call behind it
  by_cases hraw : raw.isEmpty
  · rw [if_pos hraw, if_pos hraw]
    rfl
  rw [if_neg hraw, if_neg hraw, bind_assoc]
  refine congrArg _ (funext fun self => ?_)
  rw [bind_assoc]
  refine congrArg _ (funext fun first => ?_)
  by_cases hrats : first = 0xe0
  · rw [if_pos hrats, if_pos hrats]
    simp only [bind_assoc]
  rw [if_neg hrats, if_neg hrats]
  by_cases hhlta : first = 0x50
  · rw [if_pos hhlta, if_pos hhlta, bind_assoc]
    refine congrArg _ (funext fun data => ?_)
    by_cases h50 : data = [0x50, 0x00]
    · -- HLTA halts the card and fails at once
      rw [if_pos h50, if_pos h50, halted_ratsEnd]
    · rw [if_neg h50, if_neg h50]
      rfl
  · rw [if_neg hhlta, if_neg hhlta]
    rfl

end Forms

/-! ## The calls

  The public methods: what they do before they wait, and what a frame makes them do.  A call sends
  one frame at most. -/

namespace Steps

variable [Build] [PiccTransceiver T E] [PiccTransceiver T' E] {View : Picc T → Picc T' → Prop}
  {P : Nat → ∀ α : Type, Act (Picc T) (PiccError E) α → Act (Picc T') (PiccError E) α → Prop}

/-- The body of the loop of `wait_for_activation`. -/
theorem waitForActivation (h : Steps View P) (raw : List UInt8)
    (hpanic : P 0 Unit Act.panic Act.panic) :
    P 1 Next (waitForActivation raw) (waitForActivation raw) := by
  rw [waitForActivation_eq, waitForActivation_eq]
  refine h.forms.get_bind fun s s' hs => ?_
  rw [(h.seen s s' hs).state]
  exact h.round hs raw (Or.inr hpanic)

/-- The end of `wait_for_rats`: a frame that is none of its own. -/
theorem ratsEnd (h : Steps View P) : P 1 Next ratsEnd ratsEnd := by
  refine h.forms.get_bind fun s s' hs => ?_
  rw [(h.seen s s' hs).state]
  exact h.forms.ite (fun _ => h.forms.pure_le _) fun _ => h.forms.throw_le _

/-- The body of the loop of `wait_for_rats`. -/
theorem waitForRats (h : Steps View P) (raw : List UInt8) :
    P 1 Next (waitForRats raw) (waitForRats raw) := by
  rw [waitForRats_eq, waitForRats_eq]
  refine h.forms.ite (fun _ => h.ratsEnd) fun hraw => h.forms.get_bind fun s s' hs => ?_
  have hfirst : (Res.index raw 0 : Res TypeAError UInt8).Returns := by
    cases raw with
    | nil => exact absurd rfl hraw
    | cons first tail => trivial
  rw [(h.seen s s' hs).stripCrc]
  refine h.forms.lift_bind hfirst fun first _ => ?_
  refine h.forms.ite (fun _ => ?_) fun _ => h.forms.ite (fun _ => ?_) fun _ => h.ratsEnd
  · refine h.forms.lift_bind (s.stripCrc_returns raw) fun data _ => ?_
    have hbyte : (ratsByte data).Returns := by
      rcases ratsByte_cases data with ⟨param, -, hb⟩ | hb <;> rw [hb] <;> trivial
    refine h.forms.lift_bind hbyte fun byte _ => ?_
    refine h.forms.lift_bind (RatsParam.tryFrom_returns byte) fun rats _ => ?_
    refine h.forms.bind_free (h.starts rats) fun _ _ => ?_
    refine h.forms.bind_all h.sendAts fun _ _ => ?_
    refine h.forms.bind_free (h.enter .protocol (by simp) (by simp)) fun _ _ => ?_
    refine h.forms.get_bind fun t t' ht => ?_
    rw [(h.seen t t' ht).state]
    exact h.forms.ite (fun _ => h.forms.pure _) fun _ => h.forms.throw _
  · refine h.forms.lift_bind (s.stripCrc_returns raw) fun data _ => ?_
    refine h.forms.ite (fun _ => ?_) fun _ => h.ratsEnd
    exact h.forms.mono (h.leave _) (Nat.zero_le 1)

/-- The body of the loop of `receive_command`. -/
theorem receiveCommand (h : Steps View P) (raw : List UInt8) :
    P 1 Next (receiveCommand raw) (receiveCommand raw) := by
  have hfirst : (if raw.isEmpty then .ok 0 else Res.index raw 0 : Res TypeAError UInt8).Returns := by
    cases raw with
    | nil => trivial
    | cons first tail => trivial
  refine h.forms.lift_bind hfirst fun first _ => h.forms.ite (fun _ => ?_) fun _ => ?_
  · refine h.forms.bind_free h.noted fun _ _ => ?_
    exact h.forms.bind_all (h.handlePps raw) fun _ _ => h.forms.pure _
  · refine h.forms.get_bind fun s s' hs => ?_
    rw [(h.seen s s' hs).parseBlock]
    refine h.forms.lift_bind (s.parseBlock_returns raw) fun block _ => ?_
    refine h.repeated block (fun a ha => ?_) rfl rfl
    cases a with
    | complete data => exact h.forms.pure_le _
    | reply reply => exact h.reply reply _
    | chainingRetransmit => exact absurd rfl ha
    | chainingAck => exact h.forms.throw_le _

/-- The body of the loop of `send_response`: the slice of the next chunk panics only past the end of
    the data. -/
theorem sendResponse (h : Steps View P) {data : List UInt8} (maxInf : Nat) {stop : Nat}
    (hstop : stop ≤ data.length ∨ P 0 (List UInt8) Act.panic Act.panic) (iblock : Block)
    (raw : List UInt8) :
    P 1 Next (sendResponse data maxInf stop iblock raw) (sendResponse data maxInf stop iblock raw) := by
  refine h.forms.get_bind fun s s' hs => ?_
  rw [(h.seen s s' hs).parseBlock]
  refine h.forms.lift_bind (s.parseBlock_returns raw) fun block _ => ?_
  refine h.forms.bind_free (h.received block) fun a _ => ?_
  cases a with
  | complete data => exact h.forms.throw_le _
  | reply reply => exact h.reply reply _
  | chainingAck => exact h.sendChunk maxInf hstop
  | chainingRetransmit => exact h.forms.bind_all (h.sendBlock iblock) fun _ _ => h.forms.pure _

/-- **The calls of the API are related.** -/
theorem begin (h : Steps View P) (api : PiccApi) : P 1 Next api.begin api.begin := by
  cases api with
  | waitForActivation =>
    exact h.forms.bind_free (h.enter .idle (by simp) (by simp)) fun _ _ => h.forms.pure_le _
  | waitForRats => exact h.forms.pure_le _
  | receiveCommand => exact h.forms.bind_free h.begins fun _ _ => h.forms.pure_le _
  | sendResponse data => exact h.beginResponse data

/-- **What a waiting call does with a frame is related**, for a relation that knows of panics. -/
theorem resume (h : Steps View P) (hpanic : ∀ α : Type, P 0 α Act.panic Act.panic) (call : PiccCall)
    (received : Except E FrameVec) : P 1 Next (call.resume received) (call.resume received) := by
  cases received with
  | error e => exact h.forms.throw_le _
  | ok raw =>
    cases call with
    | waitForActivation => exact h.waitForActivation raw (hpanic Unit)
    | waitForRats => exact h.waitForRats raw
    | receiveCommand => exact h.receiveCommand raw
    | sendResponse data maxInf stop iblock =>
      exact h.sendResponse maxInf (Or.inr (hpanic _)) iblock raw

end Steps

end Picc

/-! ## Where a call leads

  Apart from what a call does to the card, where it goes on: this is read off the values it returns
  (`Act.Yields`), without looking at states. -/

/-- What may become of a call when a frame arrives, and it does not fail. -/
def PiccCall.Leads : PiccCall → Next → Prop
  | waitForActivation, next => next = .ret .unit ∨ next = .wait .waitForActivation
  | waitForRats, next => next = .ret .unit
  | receiveCommand, next => next = .wait .receiveCommand ∨ ∃ apdu, next = .ret (.apdu apdu)
  | sendResponse data maxInf stop _, next => next = .ret .unit ∨ ∃ stop' iblock,
      next = .wait (.sendResponse data maxInf stop' iblock) ∧
        (stop ≤ data.length → stop' ≤ data.length)

namespace Picc

variable {T E : Type} [Build] [PiccTransceiver T E]

/-- A chunk is the last one, or leaves the call waiting behind it. -/
theorem yields_sendChunk (data : List UInt8) (maxInf offset : Nat) :
    Yields (fun next => next = .ret .unit ∨ ∃ stop iblock,
        next = .wait (.sendResponse data maxInf stop iblock) ∧ stop ≤ data.length)
      (sendChunk data maxInf offset : Act (Picc T) (PiccError E) Next) := by
  refine Yields.bind fun _ => Yields.bind fun _ => Yields.bind fun _ => Yields.bind fun _ => ?_
  refine Yields.ite (.pure (Or.inr ?_)) (.pure (Or.inl rfl))
  exact ⟨_, _, rfl, Nat.min_le_right _ _⟩

/-- **A response that does not end with its first chunk waits** behind it. -/
theorem wait_beginResponse {data : List UInt8} {call : PiccCall} {s t : Picc T}
    (h : ((PiccApi.sendResponse data).begin : Act (Picc T) (PiccError E) Next).run s =
      (.ok (.wait call), t)) : ∃ maxInf stop iblock,
    call = .sendResponse data maxInf stop iblock ∧ stop ≤ data.length ∧ maxInf ≤ s.fsd := by
  have hchunk : ∀ (maxInf : Nat) (s₁ : Picc T), maxInf ≤ s.fsd →
      (if maxInf = 0 then Act.throw (.protocol .other) else sendChunk data maxInf 0 :
        Act (Picc T) (PiccError E) Next).run s₁ = (.ok (.wait call), t) →
      ∃ maxInf stop iblock, call = .sendResponse data maxInf stop iblock ∧ stop ≤ data.length ∧
        maxInf ≤ s.fsd := by
    intro maxInf s₁ hle hrun
    split at hrun
    · cases hrun
    · rcases yields_sendChunk data maxInf 0 _ ⟨s₁, t, hrun⟩ with hret | ⟨stop, iblock, hwait, hstop⟩
      · cases hret
      · cases hwait
        exact ⟨maxInf, stop, iblock, rfl, hstop, hle⟩
  rw [PiccApi.begin, run_get_bind] at h
  obtain ⟨empty, s₁, -, h⟩ := run_bind_eq_ok.mp h
  exact hchunk _ s₁ (Nat.sub_le _ _) h

/-- After a reply the same call waits. -/
theorem yields_reply {Q : Next → Prop} (reply : Block) {call : PiccCall} (h : Q (.wait call)) :
    Yields Q (do
      sendBlock reply
      if isDeselectReply reply then do
        setState .halted
        Act.throw .deselected
      else pure (.wait call) : Act (Picc T) (PiccError E) Next) :=
  Yields.bind fun _ => Yields.ite (Yields.bind fun _ => .throw _) (.pure h)

/-- **A call waits on as what it was**, or returns what it is there for: a call that waits for a
    command is not continued as one that sends a response. -/
theorem yields_resume (call : PiccCall) (received : Except E FrameVec) :
    Yields call.Leads (call.resume received : Act (Picc T) (PiccError E) Next) := by
  cases received with
  | error e => exact .throw _
  | ok raw =>
    cases call with
    | waitForActivation =>
      show Yields _ (waitForActivation raw)
      rw [waitForActivation_eq]
      refine Yields.bind fun self => Yields.bind fun _ => Yields.bind fun _ => ?_
      exact .ite (.pure (Or.inl rfl)) (.pure (Or.inr rfl))
    | waitForRats => exact Yields.bind fun _ => Yields.bind fun _ => .ite (.pure rfl) (.throw _)
    | receiveCommand =>
      refine Yields.bind fun first => .ite ?_ (Yields.bind fun s => Yields.bind fun block => ?_)
      · exact Yields.bind fun _ => Yields.bind fun _ => .pure (Or.inl rfl)
      · refine Yields.bind fun a => ?_
        cases a with
        | complete data => exact .pure (Or.inr ⟨data, rfl⟩)
        | reply reply => exact yields_reply reply (Or.inl rfl)
        | chainingAck => exact .throw _
        | chainingRetransmit =>
          exact Yields.bind fun _ => Yields.bind fun _ => Yields.bind fun _ => .pure (Or.inl rfl)
    | sendResponse data maxInf stop iblock =>
      have hagain : (PiccCall.sendResponse data maxInf stop iblock).Leads
          (.wait (.sendResponse data maxInf stop iblock)) := Or.inr ⟨_, _, rfl, id⟩
      refine Yields.bind fun s => Yields.bind fun block => Yields.bind fun a => ?_
      cases a with
      | complete data => exact .throw _
      | reply reply => exact yields_reply reply hagain
      | chainingAck =>
        refine (yields_sendChunk data maxInf stop).mono fun next hnext => ?_
        exact hnext.imp_right fun ⟨stop', iblock', heq, hle⟩ => ⟨stop', iblock', heq, fun _ => hle⟩
      | chainingRetransmit => exact Yields.bind fun _ => .pure hagain

end Picc

end Iso14443
