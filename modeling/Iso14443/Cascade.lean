/-
  One cascade level, as a reader takes a card through it (`Picc::handle_ready`).

  * `uidCl`           — the five bytes the card gives at a level.
  * `anticollisionFrame`, `selectFrame` — the two frames of a level.
  * `deliver_anticollision`, `deliver_select` — each is answered, and the card moves on, if its
    transceiver takes the answer (`Takes`).

  These are rounds of `wait_for_activation` at given frames.  `Iso14443.ActivationLink` and
  `Iso14443.Restart` put them together to a whole cascade.
-/
import Iso14443.Selection

namespace Iso14443

/-- The transceiver takes every frame it is given. -/
def PiccTransceiver.Takes (T : Type) {E : Type} [PiccTransceiver T E] : Prop :=
  ∀ (t : T) frame, (PiccTransceiver.send t frame).1 = .ok ()

namespace Picc

variable {T E : Type}

/-- The bytes of a level: four of them, and their BCC. -/
def uidCl (s : Picc T) (level : Nat) : List UInt8 :=
  match s.uidBccForLevel level with
  | .ok uid => uid
  | _ => []

/-- The SEL byte of a level. -/
def selOf : Nat → UInt8
  | 0 => selCl1
  | 1 => selCl2
  | _ => selCl3

/-- SEL and NVB alone. -/
def anticollisionFrame (level : Nat) : FrameVec := [selOf level, 0x20]

/-- The SELECT of a level, for this card. -/
def selectFrame (s : Picc T) (level : Nat) : FrameVec :=
  closed s.hwCrc (selOf level :: 0x70 :: s.uidCl level)

variable {s s' : Picc T} {level : Nat}

/-- The UID bytes and the BCC that the card answers on a level. -/
theorem uidBccForLevel_eq (h : level < s.config.uid.cascadeLevels) :
    s.uidBccForLevel level = .ok (s.uidCl level) ∧ (s.uidCl level).length = 5 := by
  obtain ⟨uid, huid, hlen⟩ := s.uidBccForLevel_ok h
  have hcl : s.uidCl level = uid := by rw [uidCl, huid]
  rw [hcl]
  exact ⟨huid, hlen⟩

/-- The SEL byte of a level. -/
theorem expectedSel_eq (h : level < s.config.uid.cascadeLevels) :
    expectedSel level = some (selOf level) := by
  have hle := (cascadeLevels_le s.config.uid).2
  match level, h with
  | 0, _ | 1, _ | 2, _ => rfl
  | n + 3, h => omega

/-- A card gives the same bytes in another state. -/
theorem uidCl_congr (hconfig : s'.config = s.config) (level : Nat) : s'.uidCl level = s.uidCl level := by
  rw [uidCl, uidCl, uidBccForLevel_congr hconfig]

/-- The frame that selects the card on a level is read as such. -/
theorem isSelect_selectFrame (h : level < s.config.uid.cascadeLevels) :
    s.IsSelect level (s.selectFrame level) (s.uidCl level) :=
  ⟨selOf level, expectedSel_eq h, stripCrc_closed s _, (uidBccForLevel_eq h).2⟩

variable [Build] [PiccTransceiver T E]

/-- **An anticollision frame of the level is answered with the card's bytes.** -/
theorem run_waitForActivation_anticollision (hs : s.state = .ready level)
    (h : level < s.config.uid.cascadeLevels) (nvb : UInt8) :
    (waitForActivation [selOf level, nvb]).run s =
      s.answer (.bitOriented (s.uidCl level)) (.ready level) := by
  obtain ⟨huid, hlen⟩ := uidBccForLevel_eq h
  have hfits : Fits frameCap (([] : List UInt8).length + (s.uidCl level).length) :=
    fits_frameCap (by simp [hlen])
  have hready : (handleReady [selOf level, nvb] level).run s =
      (s.sendResult (.bitOriented (s.uidCl level)), s.afterSend (.bitOriented (s.uidCl level))) := by
    rw [handleReady, if_neg (by simp)]
    simp only [Act.run_bind, run_lift, Res.index_zero_cons, expectedSel_eq h, Res.okOr_some,
      Res.mapErr_ok, ne_eq, not_true, if_false, List.length_cons, List.length_nil, if_true,
      Act.run_get, huid, tryExtend_of_fits hfits]
    exact run_send s _
  rw [run_waitForActivation, hs]
  dsimp only
  rw [Act.run_bind, hready, answer]
  rcases s.sendResult (.bitOriented (s.uidCl level)) with ⟨⟩ | e | _ | _
  · simp only [roundEnd, Act.run_get_bind, afterSend_state, hs]
    rw [if_neg (by simp), afterRound, if_neg (by simp)]
    simp [Picc.afterSend, ← hs]
  all_goals rfl

end Picc

namespace PiccSession

variable {T E : Type} [Build] [PiccTransceiver T E]

/-- The card once it answered with `frame` and went to `state`. -/
def answered (picc : Picc (Logged T)) (frame : Frame) (state : PiccState) :
    Option (Res (PiccError E) Outcome) × PiccSession (Logged T) :=
  (if state = .active then some (.ok .unit) else none,
    ⟨{ picc.afterSend frame with state }, if state = .active then none else some .waitForActivation⟩)

/-- An answer that the transceiver takes. -/
theorem deliver_answer (htakes : PiccTransceiver.Takes T) {picc : Picc (Logged T)} {raw : FrameVec}
    {frame : Frame} {state : PiccState}
    (hrun : (Picc.waitForActivation raw).run picc = picc.answer frame state) :
    deliver ⟨picc, some .waitForActivation⟩ (.ok raw : Except E FrameVec) =
      answered picc frame state := by
  have hsend : picc.sendResult frame = .ok () := by
    have hok : (PiccTransceiver.send picc.transceiver frame).1 = .ok () :=
      htakes picc.transceiver.inner frame
    rw [Picc.sendResult, hok]
  show advance picc (Picc.waitForActivation raw) = _
  rw [advance, hrun, Picc.answer, hsend, answered]
  by_cases hactive : state = .active <;> simp [Picc.afterRound, hactive]

variable {picc : Picc (Logged T)} {level : Nat}

/-- **The card gives its bytes at a level.** -/
theorem deliver_anticollision (htakes : PiccTransceiver.Takes T) (hs : picc.state = .ready level)
    (h : level < picc.config.uid.cascadeLevels) :
    deliver ⟨picc, some .waitForActivation⟩ (.ok (Picc.anticollisionFrame level) : Except E FrameVec) =
      answered picc (.bitOriented (picc.uidCl level)) (.ready level) :=
  deliver_answer htakes (Picc.run_waitForActivation_anticollision hs h _)

/-- **And takes its own SELECT.** -/
theorem deliver_select (htakes : PiccTransceiver.Takes T) (hs : picc.state = .ready level)
    (h : level < picc.config.uid.cascadeLevels) :
    deliver ⟨picc, some .waitForActivation⟩ (.ok (picc.selectFrame level) : Except E FrameVec) =
      answered picc (.standard (closed picc.hwCrc [(picc.sakAt level).toByte]))
        (picc.selectedState level) :=
  deliver_answer htakes (Picc.run_waitForActivation_select hs (Picc.isSelect_selectFrame h))

/-- **A request to an idle card is answered with its ATQA**; it takes no other frame. -/
theorem deliver_idle (htakes : PiccTransceiver.Takes T) (hs : picc.state = .idle) (raw : FrameVec) :
    deliver ⟨picc, some .waitForActivation⟩ (.ok raw : Except E FrameVec) =
      if raw = [0x26] ∨ raw = [0x52] then answered picc (.short picc.config.atqa.toBytes) (.ready 0)
      else (none, ⟨picc, some .waitForActivation⟩) := by
  by_cases hr : raw = [0x26] ∨ raw = [0x52]
  · rw [if_pos hr]
    apply deliver_answer htakes
    rw [Picc.run_waitForActivation, hs]
    simp only [Picc.handleIdle, if_pos hr]
    exact Picc.run_answer (Picc.run_sendAtqa picc) _
  · rw [if_neg hr]
    show advance picc (Picc.waitForActivation raw) = _
    rw [advance, Picc.run_waitForActivation, hs]
    simp only [Picc.handleIdle, if_neg hr, Act.run_pure_bind, Picc.roundEnd, Act.run_get_bind, hs]
    rfl

/-- A frame of less than two bytes is passed over once a request was answered. -/
theorem deliver_ready_short (hs : picc.state = .ready level) {raw : FrameVec}
    (hlen : raw.length < 2) :
    deliver ⟨picc, some .waitForActivation⟩ (.ok raw : Except E FrameVec) =
      (none, ⟨picc, some .waitForActivation⟩) := by
  show advance picc (Picc.waitForActivation raw) = _
  rw [advance, Picc.run_waitForActivation, hs]
  simp only [Picc.handleReady, if_pos hlen, Act.run_pure_bind, Picc.roundEnd, Act.run_get_bind, hs]
  rfl

end PiccSession

end Iso14443
