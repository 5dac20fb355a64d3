/-
  Starting an activation again (`Picc::wait_for_activation`, `handle_ready`).

  A reader that gives up in the middle of the cascade polls again.  But a card that has answered
  one request passes over every frame of less than two bytes, and REQA and WUPA are such frames: it
  is deaf to them until it is selected, at the level where the first reader left it.

  * `Restarts`        — the card answers one of the next two WUPA, and the cascade leads to
    `Active`.
  * `Fresh`           — the invariant: the card is on its way, and idle exactly if no request is
                        among the frames received.
  * `idle_iff`        — so a card that still waits is idle exactly if no request has reached it.
  * `restarts_iff`    — it can be started again if and only if it was never started.

  The positive half takes the idle card through the whole cascade (`activates_cascade`), the
  negative half shows that a WUPA moves nothing at a card that is `Ready` (`wakeup_ready`).
-/
import Iso14443.Cascade

namespace Iso14443

/-- REQA or WUPA. -/
def IsPoll {E : Type} (received : Except E FrameVec) : Prop :=
  received = .ok [0x26] ∨ received = .ok [0x52]

namespace Picc

/-- The frames of `n` levels, from this one on. -/
def cascadeFrames {T : Type} (s : Picc T) (level n : Nat) : List FrameVec :=
  match n with
  | 0 => []
  | n + 1 => anticollisionFrame level :: s.selectFrame level :: s.cascadeFrames (level + 1) n

end Picc

namespace PiccSession

variable {T E : Type} [Build] [PiccTransceiver T E]

/-- The frames lead the card to the end of its call, which returns `Ok`. -/
def Activates (x : PiccSession (Logged T)) (frames : List FrameVec) : Prop :=
  ∃ l e, Run.trace deliver x (frames.map (Except.ok (ε := E))) = l ++ [e] ∧
    e.output = some (.ok .unit) ∧ e.after.picc.state = .active

/-- A WUPA arrives. -/
def wakeup (x : PiccSession (Logged T)) : PiccSession (Logged T) :=
  (deliver x (.ok [0x52] : Except E FrameVec)).2

/-- The card answered the WUPA with its ATQA, is at the first level, and can be selected. -/
def Answered (s : Picc (Logged T)) (x : PiccSession (Logged T)) : Prop :=
  (wakeup (E := E) x).picc.sent = x.picc.sent ++ [.short s.config.atqa.toBytes] ∧
    (wakeup (E := E) x).picc.state = .ready 0 ∧
    Activates (E := E) (wakeup (E := E) x) (s.cascadeFrames 0 s.config.uid.cascadeLevels)

/-- One of the next two WUPA is answered. -/
def Restarts (s : Picc (Logged T)) (x : PiccSession (Logged T)) : Prop :=
  Answered (E := E) s x ∨ Answered (E := E) s (wakeup (E := E) x)

variable {s : Picc (Logged T)} {x : PiccSession (Logged T)}

/-! ## Through the cascade

  From any level on, the frames of the levels that are left. -/

omit [Build] in
/-- A card's SELECT is the same in any of its states. -/
theorem selectFrame_congr {picc : Picc (Logged T)} (hcrc : picc.hwCrc = s.hwCrc)
    (hconfig : picc.config = s.config) (level : Nat) : picc.selectFrame level = s.selectFrame level := by
  rw [Picc.selectFrame, Picc.selectFrame, hcrc, Picc.uidCl_congr hconfig]

/-- The two frames of a level. -/
theorem deliver_level (htakes : PiccTransceiver.Takes T) {picc : Picc (Logged T)} {level : Nat}
    (hcrc : picc.hwCrc = s.hwCrc) (hconfig : picc.config = s.config) (hs : picc.state = .ready level)
    (h : level < s.config.uid.cascadeLevels) :
    ∃ picc' : Picc (Logged T), picc'.hwCrc = s.hwCrc ∧ picc'.config = s.config ∧
      picc'.state = picc.selectedState level ∧
      deliver (deliver ⟨picc, some .waitForActivation⟩
        (.ok (Picc.anticollisionFrame level) : Except E FrameVec)).2 (.ok (s.selectFrame level)) =
        (if picc'.state = .active then some (.ok .unit) else none,
          ⟨picc', if picc'.state = .active then none else some .waitForActivation⟩) := by
  rw [← hconfig] at h
  rw [deliver_anticollision htakes hs h, answered]
  simp only [reduceCtorEq, if_false]
  -- the card that gave its bytes
  generalize hp : ({ picc.afterSend (.bitOriented (picc.uidCl level)) with
    state := .ready level } : Picc (Logged T)) = given
  have hcrc' : given.hwCrc = s.hwCrc := by rw [← hp]; exact hcrc
  have hconfig' : given.config = picc.config := by rw [← hp]; rfl
  have hs' : given.state = .ready level := by rw [← hp]
  rw [← selectFrame_congr hcrc' (hconfig'.trans hconfig),
    deliver_select htakes hs' (by rw [hconfig']; exact h), answered]
  refine ⟨{ given.afterSend (.standard (closed given.hwCrc [(given.sakAt level).toByte])) with
    state := given.selectedState level }, hcrc', hconfig'.trans hconfig, ?_, rfl⟩
  have hlast : given.isLastCascadeLevel level = picc.isLastCascadeLevel level := by
    simp only [Picc.isLastCascadeLevel, hconfig']
  show given.selectedState level = picc.selectedState level
  rw [Picc.selectedState, Picc.selectedState, hlast]

/-- **The frames of the levels that are left select the card**, by induction on their number; the
    call returns at the last one, and not before. -/
theorem activates_cascade (htakes : PiccTransceiver.Takes T) {picc : Picc (Logged T)} {level n : Nat}
    (hcrc : picc.hwCrc = s.hwCrc) (hconfig : picc.config = s.config)
    (hs : picc.state = .ready level) (hn : level + (n + 1) = s.config.uid.cascadeLevels) :
    Activates (E := E) ⟨picc, some .waitForActivation⟩ (s.cascadeFrames level (n + 1)) := by
  induction n generalizing picc level with
  | zero =>
    obtain ⟨picc', -, -, hstate, hdeliver⟩ := deliver_level (E := E) htakes hcrc hconfig hs (by omega)
    -- the last level
    have hlast : picc.isLastCascadeLevel level = true := by
      simp only [Picc.isLastCascadeLevel, hconfig, decide_eq_true_eq]
      omega
    rw [Picc.selectedState, if_pos hlast] at hstate
    rw [if_pos hstate, if_pos hstate] at hdeliver
    refine ⟨[_], _, rfl, ?_, ?_⟩
    · rw [Run.event_output, hdeliver]
    · rw [Run.event_after, hdeliver]
      exact hstate
  | succ n ih =>
    obtain ⟨picc', hcrc', hconfig', hstate, hdeliver⟩ :=
      deliver_level (E := E) htakes hcrc hconfig hs (by omega)
    have hlast : picc.isLastCascadeLevel level = false := by
      simp only [Picc.isLastCascadeLevel, hconfig, decide_eq_false_iff_not]
      omega
    rw [Picc.selectedState, if_neg (by simp [hlast])] at hstate
    rw [if_neg (by simp [hstate]), if_neg (by simp [hstate])] at hdeliver
    obtain ⟨l, e, htrace, hrest⟩ := ih hcrc' hconfig' hstate (by omega)
    rw [Picc.cascadeFrames, Activates, List.map_cons, List.map_cons, Run.trace_cons, Run.trace_cons,
      hdeliver, htrace, ← List.cons_append, ← List.cons_append]
    exact ⟨_, e, rfl, hrest⟩

/-! ## What a request leaves behind

  The card is idle until the first request, and never again before its call returns. -/

omit [Build] [PiccTransceiver T E] in
/-- A poll is REQA or WUPA. -/
theorem isPoll_short {raw : FrameVec} (h : IsPoll (.ok raw : Except E FrameVec)) :
    raw = [0x26] ∨ raw = [0x52] := by
  simpa [IsPoll] using h

/-- The card is on its way, and idle exactly if no request is among the frames received.  An idle
    card answers a WUPA, and one that is on its way does not: this is the whole argument. -/
structure Fresh (s : Picc (Logged T)) (received : List (Except E FrameVec))
    (x : PiccSession (Logged T)) : Prop where
  selecting : Selecting s x
  idle : x.call = some .waitForActivation → (x.picc.state = .idle ↔ ∀ r ∈ received, ¬ IsPoll r)

omit [Build] [PiccTransceiver T E] in
/-- No poll among the frames so far, and the next one is none. -/
theorem noPoll_append (received : List (Except E FrameVec)) (r : Except E FrameVec) :
    (∀ r' ∈ received ++ [r], ¬ IsPoll r') ↔ (∀ r' ∈ received, ¬ IsPoll r') ∧ ¬ IsPoll r := by
  simp [or_imp, forall_and]

/-- A card that is on its way never becomes idle again. -/
theorem deliver_ne_idle {x : PiccSession (Logged T)} (hx : Selecting s x)
    (hcall : x.call = some .waitForActivation) {level : Nat} (hstate : x.picc.state = .ready level)
    (raw : FrameVec) : (deliver x (.ok raw : Except E FrameVec)).2.picc.state ≠ .idle := by
  intro hidle
  have hact := step_activated hcall (hx.state hcall) (.ok raw : Except E FrameVec)
  generalize PiccSession.deliver x (.ok raw : Except E FrameVec) = p at hact hidle
  cases hact with
  | answered hr ha =>
    cases ha with
    | request => cases hidle
    | wakeup => cases hidle
    | anticollision => rw [hstate] at hidle; cases hidle
    | select =>
      dsimp only [Picc.selectedState] at hidle
      split at hidle <;> cases hidle
  | refused => rw [Picc.afterSend_state, hstate] at hidle; cases hidle
  | ignored => rw [hstate] at hidle; cases hidle
  | failed => rw [hstate] at hidle; cases hidle

/-- **One more frame.** An idle card is woken by a request and by nothing else; one that is on its
    way never becomes idle again. -/
theorem Fresh.deliver (htakes : PiccTransceiver.Takes T) {received : List (Except E FrameVec)}
    (h : Fresh s received x) (r : Except E FrameVec) :
    Fresh s (received ++ [r]) (deliver x r).2 := by
  refine ⟨h.selecting.deliver r, ?_⟩
  rw [noPoll_append]
  rcases h.selecting.call with hnone | ⟨hcall, hstate⟩
  · -- the call has returned, and a frame finds nobody
    rw [deliver_none hnone]
    intro hcall
    rw [hnone] at hcall
    cases hcall
  · have hidle := h.idle hcall
    cases r with
    | error e =>
      -- an error of the transceiver ends the call
      obtain ⟨picc, call⟩ := x
      obtain rfl : call = some .waitForActivation := hcall
      intro hcall
      cases hcall
    | ok raw =>
      rcases hstate with hs | ⟨level, hs, -⟩
      · -- idle so far
        have hnone := hidle.mp hs
        obtain ⟨picc, call⟩ := x
        obtain rfl : call = some .waitForActivation := hcall
        rw [deliver_idle htakes hs]
        by_cases hr : raw = [0x26] ∨ raw = [0x52]
        · rw [if_pos hr]
          intro _
          have hreq : IsPoll (.ok raw : Except E FrameVec) := by simpa [IsPoll] using hr
          exact ⟨fun hs => (by cases hs), fun hno => absurd hreq hno.2⟩
        · rw [if_neg hr]
          intro _
          exact ⟨fun _ => ⟨hnone, fun hreq => hr (isPoll_short hreq)⟩, fun _ => hs⟩
      · -- a request was answered
        have hsome : ¬ ∀ r ∈ received, ¬ IsPoll r := fun hno => by
          rw [hidle.mpr hno] at hs
          cases hs
        intro _
        exact ⟨fun hs' => absurd hs' (deliver_ne_idle h.selecting hcall hs raw),
          fun hno => absurd hno.1 hsome⟩

/-- The invariant holds after every sequence of frames. -/
theorem fresh_after (htakes : PiccTransceiver.Takes T) (s : Picc (Logged T))
    (received : List (Except E FrameVec)) :
    Fresh s received (Run.after PiccSession.deliver (activating (E := E) s) received) := by
  have hrun : Fresh s ((Run.trace PiccSession.deliver (activating (E := E) s) received).map
      Run.Event.input) (Run.after PiccSession.deliver (activating (E := E) s) received) := by
    refine Run.trace_induction (I := fun l x => Fresh s (l.map Run.Event.input) x) ?_ ?_
    · exact ⟨selecting_activating s, fun _ => ⟨fun _ => by simp, fun _ => rfl⟩⟩
    · intro l x i _ h
      rw [List.map_append]
      exact h.deliver htakes i
  rwa [Run.map_input_trace] at hrun

/-! ## Two more WUPA

  To an idle card, and to one that is at some level. -/

/-- **An idle card answers the first WUPA**, and can be selected. -/
theorem answered_of_idle (htakes : PiccTransceiver.Takes T) (h : Selecting s x)
    (hcall : x.call = some .waitForActivation) (hs : x.picc.state = .idle) :
    Answered (E := E) s x := by
  obtain ⟨picc, call⟩ := x
  obtain rfl : call = some .waitForActivation := hcall
  have hwake : wakeup (E := E) (⟨picc, some .waitForActivation⟩ : PiccSession (Logged T)) =
      ⟨{ picc.afterSend (.short picc.config.atqa.toBytes) with state := .ready 0 },
        some .waitForActivation⟩ := by
    rw [wakeup, deliver_idle htakes hs, if_pos (Or.inr rfl)]
    rfl
  have hconfig : picc.config = s.config := h.config
  have hpos := (Picc.cascadeLevels_le s.config.uid).1
  obtain ⟨n, hn⟩ := Nat.exists_eq_add_of_le' hpos
  unfold Answered
  rw [hwake]
  refine ⟨?_, rfl, ?_⟩
  · rw [← hconfig]
    rfl
  · rw [hn]
    exact activates_cascade htakes h.hwCrc h.config rfl (by omega)

/-- **A card that was polled is deaf to WUPA.** -/
theorem wakeup_ready {level : Nat} (hcall : x.call = some .waitForActivation)
    (hs : x.picc.state = .ready level) : wakeup (E := E) x = x := by
  obtain ⟨picc, call⟩ := x
  obtain rfl : call = some .waitForActivation := hcall
  rw [wakeup, deliver_ready_short hs (by simp)]

/-- **An activation can be started again if and only if it was never started**: no request has
    reached the card. -/
theorem restarts_iff (htakes : PiccTransceiver.Takes T) (s : Picc (Logged T))
    (received : List (Except E FrameVec))
    (hwaits : (Run.after deliver (activating (E := E) s) received).call = some .waitForActivation) :
    Restarts (E := E) s (Run.after deliver (activating (E := E) s) received) ↔
      ∀ r ∈ received, ¬ IsPoll r := by
  have hfresh := fresh_after htakes s received
  generalize Run.after PiccSession.deliver (activating (E := E) s) received = x at hfresh hwaits ⊢
  rw [← hfresh.idle hwaits]
  constructor
  · intro h
    rcases hfresh.selecting.call with hnone | ⟨-, hidle | ⟨level, hs, -⟩⟩
    · rw [hwaits] at hnone
      cases hnone
    · exact hidle
    · -- neither WUPA is answered
      have hno : ¬ Answered (E := E) s x := by
        rintro ⟨hsent, -⟩
        rw [wakeup_ready hwaits hs] at hsent
        simp at hsent
      rw [Restarts, wakeup_ready hwaits hs] at h
      exact absurd (or_self_iff.mp h) hno
  · exact fun hidle => Or.inl (answered_of_idle htakes hfresh.selecting hwaits hidle)

omit [Build] in
/-- A card that has seen noise and the SELECT of another card is started by the first WUPA. -/
theorem restarts_iff_sample : let : Build := Build.heap
    Restarts (E := Unit) sampleCard
      (Run.after deliver (activating sampleCard) [.ok [0x00], .ok strayed]) := by
  intro _
  refine (restarts_iff (fun _ _ => rfl) sampleCard [.ok [0x00], .ok strayed] rfl).mpr ?_
  simp [IsPoll, strayed]

omit [Build] in
/-- **A reader that lost the ATQA finds the card deaf**: it waits, and answers no WUPA. -/
theorem not_restarts : let : Build := Build.heap
    (Run.after deliver (activating (E := Unit) sampleCard) [.ok [0x26]]).call =
        some .waitForActivation ∧
      ¬ Restarts (E := Unit) sampleCard (Run.after deliver (activating sampleCard) [.ok [0x26]]) := by
  intro _
  refine ⟨rfl, ?_⟩
  rintro (⟨hsent, -⟩ | ⟨hsent, -⟩) <;> exact absurd hsent (by decide +kernel)

end PiccSession

end Iso14443
