/-
  A halted card (`PiccState::Halted`).

  A card that was halted answers nothing but WUPA: so the standard, and so the one branch of
  `wait_for_activation` that knows the state.  That branch is never reached, since the method sets
  the state to idle before it waits, and no other method asks for the state at all.  So the rule
  does not hold of every run, and the question is of which.

  1. **The rule.**  `SilentUntilWupa`, for the part of a run after the card was halted: whatever is
     sent first in it answers a WUPA.
  2. **The events** that do not come near the defect, `Heeds`: no response is sent by the
     application, and no REQA, RATS, block or PPS request arrives where the code waits for one.
     All of this is said of what comes in and of the call that waits, not of what the card answers.
  3. **Entering the state.**  It is entered on the way out of a call that fails: on HLTA, or with
     `Deselected`.  `steps_haltsFailing` walks the methods of the card once and finds no other way,
     so after the event that halts it the card has no call that waits (`Event.halts_returns`).
  4. **The silence.**  `Resting` is the invariant of the part of the run that follows: the card is
     halted or idle, it is idle when it waits for its activation, and no response is under way.  It
     says nothing of the log: that the log does not grow is what `Resting.step` shows of every
     event that heeds, together with the invariant after it.
  5. `halted_silent` is the result, and `not_halted_silent` a halted card that answers REQA.
-/
import Iso14443.CardPair

namespace Iso14443.PiccSession

variable {T E : Type}

/-- What happened to a card whose answers are logged. -/
abbrev Event (T E : Type) :=
  Run.Event (PiccSession (Logged T)) (PiccInput E) (Option (Res (PiccError E) Outcome))

namespace Event

/-- The card sent something. -/
def sends (e : Event T E) : Prop := e.after.picc.sent ≠ e.before.picc.sent

/-- The card entered the halted state. -/
def halts (e : Event T E) : Prop :=
  e.before.picc.state ≠ .halted ∧ e.after.picc.state = .halted

/-- WUPA reaches a card that waits for its activation. -/
def wakes (e : Event T E) : Prop :=
  e.before.call = some .waitForActivation ∧ e.input = .frame (.ok [0x52])

/-- The WUPA is answered with the ATQA. -/
def answersWupa (e : Event T E) : Prop :=
  e.wakes ∧ e.after.picc.sent =
    e.before.picc.sent ++ [.short e.before.picc.config.atqa.toBytes]

end Event

/-- **Silent until WUPA**: whatever is sent first in this part of a run answers a WUPA. -/
def SilentUntilWupa (rest : List (Event T E)) : Prop :=
  ∀ l e r, rest = l ++ e :: r → (∀ e' ∈ l, ¬ Event.sends e') → Event.sends e → Event.answersWupa e

/-- A RATS. -/
def IsRats (s : Picc T) (raw : FrameVec) : Prop := ∃ param, s.stripCrc raw = .ok [0xe0, param]

/-- A PPS request, or a block, that `receive_command` can read.  Anything else makes the call fail
    before it has sent something. -/
def IsCommand [Build] (s : Picc T) (raw : FrameVec) : Prop :=
  if Picc.isPps raw then ∃ data, s.stripCrc raw = .ok data ∧
    ∃ pps, PpsParam.fromCrcVerified data = .ok pps
  else ∃ block, s.parseBlock raw = .ok block

/-- The event asks nothing of a halted card that the code would do: no response is sent, and no
    REQA, RATS, block or PPS request arrives where it is waited for. -/
def Event.Heeds [Build] (e : Event T E) : Prop :=
  match e.before.call, e.input with
  | none, .call (.sendResponse _) => False
  | some .waitForActivation, .frame (.ok raw) => raw ≠ [0x26]
  | some .waitForRats, .frame (.ok raw) => ¬ IsRats e.before.picc raw
  | some .receiveCommand, .frame (.ok raw) => ¬ IsCommand e.before.picc raw
  | _, _ => True

/-! ## Entering the halted state

  It is entered on the way out of a call: with the error that follows HLTA, or with `Deselected`. -/

section Entering

variable {α β : Type} {m : Act (Picc T) (PiccError E) α} {f : α → Act (Picc T) (PiccError E) β}

/-- The action enters the halted state only if it fails. -/
def HaltsFailing (m : Act (Picc T) (PiccError E) α) : Prop :=
  ∀ s, (m.run s).2.state = .halted → s.state = .halted ∨ ∃ e, (m.run s).1 = .err e

/-- An action that leaves the state of the card alone. -/
theorem haltsFailing_of_state (h : ∀ s, (m.run s).2.state = s.state) : HaltsFailing m :=
  fun s hs => Or.inl (by rw [← h s]; exact hs)

/-- **One such action after the other.**  If the first one succeeds, it does not halt the card. -/
theorem HaltsFailing.bind (hm : HaltsFailing m) (hf : ∀ a, m.Gives a → HaltsFailing (f a)) :
    HaltsFailing (m >>= f) := by
  intro s hs
  have hms := hm s
  rw [Act.run_bind] at hs ⊢
  rcases hrun : m.run s with ⟨a | e | _ | _, s'⟩ <;> rw [hrun] at hs hms
  · rcases hf a ⟨s, s', hrun⟩ s' hs with h | ⟨e, he⟩
    · exact Or.inl ((hms h).resolve_right (by simp))
    · exact Or.inr ⟨e, he⟩
  · exact Or.inr ⟨e, rfl⟩
  all_goals exact Or.inl ((hms hs).resolve_right (by simp))

/-- The walk over the card's methods composes this property. -/
theorem relator_haltsFailing :
    Act.Relator (ε := PiccError E) (Eq (α := Picc T)) (fun _ m _ => HaltsFailing m) where
  pure _ := haltsFailing_of_state fun _ => rfl
  throw _ := haltsFailing_of_state fun _ => rfl
  panic := haltsFailing_of_state fun _ => rfl
  outOfFuel := haltsFailing_of_state fun _ => rfl
  bind := HaltsFailing.bind
  get_bind hf := fun s hs => hf s s rfl s hs

variable [Build] [PiccTransceiver T E]

/-- **The steps of a card** do not halt it, but for the one that fails as it does so. -/
theorem steps_haltsFailing :
    Picc.Steps (T := T) (E := E) Eq (fun _ _ m _ => HaltsFailing m) := by
  have hsend : Picc.SendSteps (T := T) (E := E) Eq (fun _ _ m _ => HaltsFailing m) :=
    { forms := relator_haltsFailing.graded
      seen := by rintro s _ rfl; exact .refl s
      send := fun frame => haltsFailing_of_state fun s => by rw [Picc.run_send]; rfl
      remember := fun block => haltsFailing_of_state fun _ => rfl
      enter := fun state hne _ s hs => absurd hs hne
      leave := fun e s _ => Or.inr ⟨e, rfl⟩ }
  have hkeep : ∀ {α : Type} {m : Act (Picc T) (PiccError E) α},
      (∀ s, (m.run s).2.state = s.state) → HaltsFailing m := haltsFailing_of_state
  exact hsend.steps (by rintro s _ rfl; rfl) (fun _ => hkeep fun _ => rfl) (hkeep fun _ => rfl)
    (hkeep fun _ => rfl) fun _ => hkeep fun _ => rfl

/-- A call of the application halts the card as it begins only when it fails. -/
theorem haltsFailing_begin (api : PiccApi) :
    HaltsFailing (api.begin : Act (Picc T) (PiccError E) Next) := steps_haltsFailing.begin api

/-- So it does as it goes on with a frame. -/
theorem haltsFailing_resume (call : PiccCall) (received : Except E FrameVec) :
    HaltsFailing (call.resume received : Act (Picc T) (PiccError E) Next) :=
  steps_haltsFailing.resume (fun _ => relator_haltsFailing.panic) call received

omit [Build] [PiccTransceiver T E] in
/-- Whoever enters the halted state is back at its caller. -/
theorem advance_halts {m : Act (Picc T) (PiccError E) Next} (hm : HaltsFailing m) {picc : Picc T}
    (h : (advance picc m).2.picc.state = .halted) :
    picc.state = .halted ∨ (advance picc m).2.call = none := by
  have hms := hm picc
  rw [advance] at h ⊢
  generalize m.run picc = p at hms h ⊢
  rcases p with ⟨(call | outcome) | e | _ | _, s⟩
  · rcases hms h with hs | ⟨e, he⟩
    · exact Or.inl hs
    · cases he
  all_goals exact Or.inr rfl

/-- **The card halts on the way out of a call.** -/
theorem Event.halts_returns {x : PiccSession (Logged T)} {i : PiccInput E}
    (h : Event.halts (Run.event step x i)) : (step x i).2.call = none := by
  obtain ⟨hne, hs⟩ := h
  obtain ⟨picc, call⟩ := x
  rw [Run.event_after] at hs
  rw [Run.event_before] at hne
  cases call with
  | none =>
    cases i with
    | call api => exact (advance_halts (haltsFailing_begin api) hs).resolve_left hne
    | frame received => rfl
  | some call =>
    cases i with
    | call api => exact absurd hs hne
    | frame received =>
      exact (advance_halts (haltsFailing_resume call received) hs).resolve_left hne

end Entering

/-! ## The silence

  What a halted card does with whatever reaches it: the calls of the application may come in any
  order, and each frame is looked at by the call that waits, if one does. -/

section Silence

variable [Build] [PiccTransceiver T E]

omit [Build] [PiccTransceiver T E] in
/-- The card after a call went on. -/
theorem advance_picc (picc : Picc T) (m : Act (Picc T) (PiccError E) Next) :
    (advance picc m).2.picc = (m.run picc).2 := by
  rw [advance]
  rcases m.run picc with ⟨(_ | _) | _ | _ | _, s⟩ <;> rfl

omit [Build] [PiccTransceiver T E] in
/-- The call that waits then. -/
theorem advance_call (picc : Picc T) (m : Act (Picc T) (PiccError E) Next) (call : PiccCall) :
    (advance picc m).2.call = some call ↔ (m.run picc).1 = .ok (.wait call) := by
  rw [advance]
  rcases m.run picc with ⟨(_ | _) | _ | _ | _, s⟩ <;> simp

/-- A frame that is no RATS is not answered, and ends the call: the state is asked for at the end of
    the method, whatever the frame was. -/
theorem run_waitForRats_noRats {s : Picc T} (raw : FrameVec) (h : ¬ IsRats s raw) :
    (((Picc.waitForRats raw).run s).2 = s ∨
      ((Picc.waitForRats raw).run s).2 = { s with state := .halted }) ∧
    ∀ call, ((Picc.waitForRats raw).run s).1 ≠ .ok (.wait call) := by
  have hend : ∀ s : Picc T, (do
      let self ← Act.get
      if self.state = .protocol then pure (.ret .unit) else Act.throw (.protocol .other) :
        Act (Picc T) (PiccError E) Next).run s =
      (if s.state = .protocol then .ok (.ret .unit) else .err (.protocol .other), s) := by
    intro s
    by_cases hp : s.state = .protocol <;> simp [hp]
  rw [Picc.waitForRats, Act.run_bind]
  rcases Picc.handleActive_cases s raw with ⟨param, _, hdata, -, -⟩ | ⟨-, hrun⟩ | ⟨r, hr, hrun⟩
  · exact absurd ⟨param, hdata⟩ h
  · rw [hrun]
    exact ⟨Or.inr rfl, fun call => by simp⟩
  · rw [hrun]
    cases r with
    | ok u =>
      dsimp only
      rw [hend]
      refine ⟨Or.inl rfl, fun call => ?_⟩
      dsimp only
      split <;> simp
    | err e => exact ⟨Or.inl rfl, fun call => by simp⟩
    | panic => exact hr.elim
    | outOfFuel => exact hr.elim

/-- What is no command is not answered either: the call fails where it reads the frame, before
    anything is sent. -/
theorem run_receiveCommand_noCommand {s : Picc (Logged T)} (raw : FrameVec)
    (h : ¬ IsCommand s raw) :
    ((Picc.receiveCommand raw).run s).2.state = s.state ∧
    ((Picc.receiveCommand raw).run s).2.sent = s.sent ∧
    ∀ call, ((Picc.receiveCommand raw).run s).1 ≠ .ok (.wait call) := by
  cases hpps : Picc.isPps raw with
  | false =>
    simp only [IsCommand, hpps, Bool.false_eq_true, if_false] at h
    have hret := s.parseBlock_returns raw
    cases hb : s.parseBlock raw with
    | ok block => exact absurd ⟨block, hb⟩ h
    | err e =>
      rw [Picc.run_receiveCommand_noBlock hpps hb]
      exact ⟨rfl, rfl, fun call => by simp⟩
    | panic => rw [hb] at hret; exact hret.elim
    | outOfFuel => rw [hb] at hret; exact hret.elim
  | true =>
    simp only [IsCommand, hpps, if_true] at h
    rw [Picc.run_receiveCommand_pps hpps, Act.run_bind, Picc.run_onHandler]
    rcases hnote : ProtocolHandler.noteFrame.run s.handler with ⟨⟨⟩ | e | _ | _, handler⟩
    · simp only [Res.mapErr_ok]
      rw [Act.run_bind, Picc.handlePps, Act.run_get_bind, Act.run_bind, Picc.run_lift]
      have hstrip : (s.withHandler handler).stripCrc raw = s.stripCrc raw := rfl
      rw [hstrip]
      cases hdata : s.stripCrc raw with
      | ok data =>
        simp only [Res.mapErr_ok]
        rw [Act.run_bind, Picc.run_lift]
        cases hp : PpsParam.fromCrcVerified data with
        | ok pps => exact absurd ⟨data, hdata, pps, hp⟩ h
        | _ => exact ⟨rfl, rfl, fun call => by simp [Res.mapErr]⟩
      | _ => exact ⟨rfl, rfl, fun call => by simp [Res.mapErr]⟩
    all_goals exact ⟨rfl, rfl, fun call => by simp [Res.mapErr]⟩

/-- A halted card, as long as it was not woken.  `wait_for_activation` sets the state to idle, so it
    cannot be told from the state alone: it is told from the call that waits, too. -/
structure Resting (x : PiccSession (Logged T)) : Prop where
  state : x.picc.state = .halted ∨ x.picc.state = .idle
  /-- No response is under way. -/
  call : ∀ data maxInf stop iblock, x.call ≠ some (.sendResponse data maxInf stop iblock)
  /-- The state a card waits in for its activation. -/
  waits : x.call = some .waitForActivation → x.picc.state = .idle

variable {x : PiccSession (Logged T)} {i : PiccInput E}

/-- **The WUPA is answered.** -/
theorem Resting.wakes (h : Resting x) (hw : Event.wakes (Run.event step x i)) :
    (step x i).2.picc.sent = x.picc.sent ++ [.short x.picc.config.atqa.toBytes] := by
  obtain ⟨picc, call⟩ := x
  obtain ⟨rfl, rfl⟩ : call = some .waitForActivation ∧ i = .frame (.ok [0x52]) := hw
  have hidle : picc.state = .idle := h.waits rfl
  show (advance picc (Picc.waitForActivation [0x52])).2.picc.sent = _
  rw [advance_picc, Picc.run_waitForActivation, hidle]
  simp only [Picc.handleIdle, or_true, if_true]
  rw [Picc.run_answer (Picc.run_sendAtqa picc), Picc.sent_answer]

omit [Build] [PiccTransceiver T E] in
/-- **A frame that ends the call** leaves the card at rest, if it halts the card or leaves the state
    alone. -/
theorem Resting.ended {picc : Picc (Logged T)} {call : Option PiccCall} (h : Resting ⟨picc, call⟩)
    {m : Act (Picc (Logged T)) (PiccError E) Next}
    (hstate : (m.run picc).2.state = picc.state ∨ (m.run picc).2.state = .halted)
    (hcall : ∀ c, (m.run picc).1 ≠ .ok (.wait c)) : Resting (advance picc m).2 := by
  have hnone : ∀ c, (advance picc m).2.call ≠ some c :=
    fun c hc => hcall c ((advance_call picc m c).mp hc)
  refine ⟨?_, fun _ _ _ _ => hnone _, fun hc => absurd hc (hnone _)⟩
  rw [advance_picc]
  rcases hstate with hs | hs
  · rw [hs]
    exact h.state
  · exact Or.inl hs

/-- A call that the application makes, other than `send_response`, sends nothing. -/
theorem Resting.begin {picc : Picc (Logged T)} (h : Resting ⟨picc, none⟩) {api : PiccApi}
    (hapi : ∀ data, api ≠ .sendResponse data) :
    Resting (PiccSession.step (E := E) ⟨picc, none⟩ (.call api)).2 ∧
      (PiccSession.step (E := E) ⟨picc, none⟩ (.call api)).2.picc.sent = picc.sent := by
  cases api with
  | waitForActivation =>
    -- the state is set to idle here, whatever it was
    exact ⟨⟨Or.inr rfl, fun _ _ _ _ hc => (by cases hc), fun _ => rfl⟩, rfl⟩
  | waitForRats =>
    exact ⟨⟨h.state, fun _ _ _ _ hc => (by cases hc), fun hc => (by cases hc)⟩, rfl⟩
  | receiveCommand =>
    exact ⟨⟨h.state, fun _ _ _ _ hc => (by cases hc), fun hc => (by cases hc)⟩, rfl⟩
  | sendResponse data => exact absurd rfl (hapi data)

/-- REQA and WUPA are the only frames that an idle card answers. -/
theorem run_waitForActivation_idle {picc : Picc (Logged T)} (hidle : picc.state = .idle)
    {raw : FrameVec} (hno : ¬ (raw = [0x26] ∨ raw = [0x52])) :
    (Picc.waitForActivation raw).run picc =
      ((.ok (.wait .waitForActivation), picc) : Res (PiccError E) Next × _) := by
  rw [Picc.run_waitForActivation, hidle]
  simp only [Picc.handleIdle, if_neg hno]
  simp [Picc.roundEnd, hidle]

/-- **Nothing else is**, as long as the defect is not met.  The cases are the calls that may wait:
    in each of them the frame is one that the call does not answer, and where the call ends the card
    is at rest still. -/
theorem Resting.step (h : Resting x) (hheeds : Event.Heeds (Run.event PiccSession.step x i))
    (hw : ¬ Event.wakes (Run.event PiccSession.step x i)) :
    Resting (PiccSession.step x i).2 ∧ (PiccSession.step x i).2.picc.sent = x.picc.sent := by
  obtain ⟨picc, call⟩ := x
  cases call with
  | none =>
    -- no call waits: a frame is lost, and only `send_response` would send
    cases i with
    | frame received => exact ⟨h, rfl⟩
    | call api =>
      refine h.begin fun data hdata => ?_
      subst hdata
      exact hheeds.elim
  | some call =>
    cases i with
    | call api => exact ⟨h, rfl⟩
    | frame received =>
      show Resting (advance picc (call.resume received)).2 ∧
        (advance picc (call.resume received)).2.picc.sent = picc.sent
      rw [advance_picc]
      cases received with
      | error e =>
        -- the call returns with the error
        exact ⟨h.ended (Or.inl rfl) fun _ hc => (by cases hc), rfl⟩
      | ok raw =>
        cases call with
        | waitForActivation =>
          have hno : ¬ (raw = [0x26] ∨ raw = [0x52]) := by
            rintro (rfl | rfl)
            · exact hheeds rfl
            · exact hw ⟨rfl, rfl⟩
          have hrun := run_waitForActivation_idle (E := E) (h.waits rfl) hno
          show Resting (advance picc (Picc.waitForActivation raw)).2 ∧
            ((Picc.waitForActivation raw).run picc).2.sent = picc.sent
          rw [advance, hrun]
          exact ⟨h, rfl⟩
        | waitForRats =>
          -- no RATS: the card is as it was, or halted
          obtain ⟨hafter, hcall⟩ := run_waitForRats_noRats (s := picc) raw hheeds
          refine ⟨h.ended ?_ hcall, ?_⟩
          · rcases hafter with hs | hs
            · exact Or.inl (congrArg Picc.state hs)
            · exact Or.inr (congrArg Picc.state hs)
          · rcases hafter with hs | hs
            · exact congrArg Picc.sent hs
            · exact (congrArg Picc.sent hs :)
        | receiveCommand =>
          -- no block and no PPS request
          obtain ⟨hs, hsent, hcall⟩ := run_receiveCommand_noCommand (s := picc) raw hheeds
          exact ⟨h.ended (Or.inl hs) hcall, hsent⟩
        | sendResponse data maxInf stop iblock => exact absurd rfl (h.call data maxInf stop iblock)

end Silence

/-! ## The result

  From the event that halts the card to the end of the run. -/

variable [Build] [PiccTransceiver T E]

/-- A halted card, whatever happens from here on.  The induction is on the inputs: up to the WUPA
    every event leaves the card at rest, and of what comes after it nothing is said. -/
theorem Resting.silent {x : PiccSession (Logged T)} {inputs : List (PiccInput E)} (h : Resting x)
    (hheeds : ∀ pre e post, Run.trace PiccSession.step x inputs = pre ++ e :: post →
      (∀ w ∈ pre, ¬ Event.wakes w) → Event.Heeds e) :
    SilentUntilWupa (Run.trace PiccSession.step x inputs) := by
  induction inputs generalizing x with
  | nil =>
    intro l e r hrest
    simp at hrest
  | cons i inputs ih =>
    intro l e r hrest hquiet hsends
    have hfirst := hheeds [] _ _ rfl (by simp)
    -- whichever event is first: it wakes the card, or leaves it at rest
    have hwake : Event.wakes (Run.event PiccSession.step x i) →
        Event.sends (Run.event PiccSession.step x i) := by
      intro hw
      rw [Event.sends, Run.event_after, h.wakes hw]
      simp
    cases l with
    | nil =>
      obtain ⟨rfl, -⟩ := List.cons.inj hrest
      by_cases hw : Event.wakes (Run.event PiccSession.step x i)
      · exact ⟨hw, h.wakes hw⟩
      · exact absurd (h.step hfirst hw).2 hsends
    | cons a l =>
      obtain ⟨rfl, htail⟩ := List.cons.inj hrest
      have hw : ¬ Event.wakes (Run.event PiccSession.step x i) :=
        fun hw => hquiet _ (by simp) (hwake hw)
      refine ih (h.step hfirst hw).1 ?_ l e r htail ?_ hsends
      · intro pre e post hpre hno
        refine hheeds (_ :: pre) e post (by rw [Run.trace_cons, hpre]; rfl) ?_
        intro w hmem
        rcases List.mem_cons.mp hmem with rfl | hmem
        · exact hw
        · exact hno w hmem
      · intro e' he'
        exact hquiet e' (List.mem_cons_of_mem _ he')

/-- **A halted card is silent until WUPA**, in every run in which no event up to the WUPA asks of it
    what a halted card must not do. -/
theorem halted_silent (s : PiccSession (Logged T)) (inputs : List (PiccInput E))
    (l : List (Event T E)) (e : Event T E) (rest : List (Event T E))
    (hrun : Run.trace step s inputs = l ++ e :: rest) (hhalts : e.halts)
    (hheeds : ∀ pre e' post, rest = pre ++ e' :: post → (∀ w ∈ pre, ¬ Event.wakes w) →
      Event.Heeds e') : SilentUntilWupa rest := by
  obtain ⟨post, rfl⟩ := Run.trace_rest hrun
  have hmem : e ∈ Run.trace step s inputs := by rw [hrun]; simp
  obtain ⟨-, hafter⟩ := Run.event_eq_of_mem hmem
  have hcall : e.after.call = none := by
    rw [hafter]
    apply Event.halts_returns
    rw [Event.halts, Run.event_after, ← hafter]
    exact hhalts
  refine Resting.silent ⟨Or.inl hhalts.2, ?_, ?_⟩ hheeds
  · intro data maxInf stop iblock hc
    rw [hcall] at hc
    cases hc
  · intro hc
    rw [hcall] at hc
    cases hc

/-! ## Both ways to end up there

  A run for the rule, and one against it. -/

/-- A card with the UID 01 02 03 04 and ISO 14443-4 support, selected, and waiting for RATS. -/
def selectedCard : PiccSession (Logged Willing) :=
  { picc := { Picc.new ({ inner := {} } : Logged Willing)
      { uid := sampleUid, ats := some (Ats.new .fsc256 0 {} Tc.cidSupp) } with
      state := .active }
    call := some .waitForRats }

/-- What reaches the card between its HLTA and its WUPA: it is called twice in vain, hears noise, a
    SELECT of its own UID, an anticollision frame and a frame with nothing in it. -/
def disturbance : List (PiccInput Unit) :=
  [.call .receiveCommand, .frame (.ok [0x0f]), .call .waitForActivation, .frame (.ok [0x0f]),
    .frame (.ok (withCrc [0x93, 0x70, 0x01, 0x02, 0x03, 0x04, 0x04])), .frame (.ok [0x93, 0x20]),
    .frame (.ok []), .frame (.ok [0x52])]

omit [Build] in
/-- The rule, at a card that is halted, disturbed, and then woken; it is the WUPA that is answered. -/
theorem halted_silent_woken : let : Build := Build.heap
    SilentUntilWupa
        (Run.trace step (step selectedCard (.frame (.ok [0x50, 0x00]))).2 disturbance) ∧
      (Run.trace step (step selectedCard (.frame (.ok [0x50, 0x00]))).2 disturbance).map
        (fun e => e.after.picc.sent.length) = [0, 0, 0, 0, 0, 0, 0, 1] := by
  have hsent : let : Build := Build.heap
      (Run.trace step (step selectedCard (.frame (.ok [0x50, 0x00]))).2 disturbance).map
        (fun e => e.after.picc.sent.length) = [0, 0, 0, 0, 0, 0, 0, 1] := by decide +kernel
  intro _
  refine ⟨?_, hsent⟩
  refine halted_silent selectedCard (.frame (.ok [0x50, 0x00]) :: disturbance) []
    (Run.event step selectedCard (.frame (.ok [0x50, 0x00]))) _ rfl ⟨by decide, by decide⟩ ?_
  intro pre e post hsplit _
  have hmem : e ∈ Run.trace step (step selectedCard (.frame (.ok [0x50, 0x00]))).2 disturbance := by
    rw [hsplit]; simp
  simp only [disturbance, Run.trace_cons, Run.trace_nil, List.mem_cons, List.not_mem_nil,
    or_false] at hmem
  rcases hmem with rfl | rfl | rfl | rfl | rfl | rfl | rfl | rfl
  · trivial
  · -- noise, where a command is waited for
    show ¬ IsCommand _ _
    rw [IsCommand, if_neg (by decide)]
    rintro ⟨block, hblock⟩
    cases hblock
  · trivial
  · show ([0x0f] : List UInt8) ≠ [0x26]
    decide
  · show withCrc [0x93, 0x70, 0x01, 0x02, 0x03, 0x04, 0x04] ≠ [0x26]
    simp [withCrc]
  · show ([0x93, 0x20] : List UInt8) ≠ [0x26]
    decide
  · show ([] : List UInt8) ≠ [0x26]
    decide
  · show ([0x52] : List UInt8) ≠ [0x26]
    decide

/-- An HLTA, and then the reader that looks for idle cards. -/
def haltThenRequest : List (PiccInput Unit) :=
  [.frame (.ok [0x50, 0x00]), .call .waitForActivation, .frame (.ok [0x26])]

omit [Build] in
/-- **A halted card answers REQA.** -/
theorem not_halted_silent : let : Build := Build.heap
    ¬ ∀ l e rest, Run.trace step selectedCard haltThenRequest = l ++ e :: rest →
      Event.halts e → SilentUntilWupa rest := by
  intro _ h
  have hhalts : Event.halts (Run.event step selectedCard (.frame (.ok [0x50, 0x00]))) :=
    ⟨by decide, by decide⟩
  have hsilent := h [] _ _ rfl hhalts
  have hwupa := hsilent [_] _ [] rfl (by
    intro e he
    rw [List.mem_singleton.mp he, Event.sends]
    decide) (by rw [Event.sends]; decide)
  have hin : haltThenRequest[2] = .frame (.ok [0x52]) := hwupa.1.2
  simp [haltThenRequest] at hin

end Iso14443.PiccSession
