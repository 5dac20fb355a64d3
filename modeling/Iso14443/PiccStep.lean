/-
  What a card does with one frame, said once.

  The methods of `Picc` are loops around `receive`.  In the model a call that waits is a value of
  `PiccCall`, a frame resumes it, and one round ends in `.wait` (the loop goes on), `.ret` (the
  call returns) or an error.  Everything that is later said of a card over a whole run is an
  induction over such rounds, and this file has the one lemma for each of them, so that no later
  proof unfolds a method of the card.

  1. **Sending.**  Every frame ends in `afterSend`: the transceiver is one call further and the log
     one frame longer, and nothing else has changed.  `Logged` keeps that log; what a card answers
     is said about it.
  2. **The card's own identifier.**  The bytes of a cascade level, which exist on every level of
     the UID (`uidBccForLevel_ok`); past the last level the code would panic.
  3. **Frames and their CRC_A.**  `stripCrc_closed`: the card opens what its reader closed.
  4. **SELECT.**  `handle_ready` lets a card on through one frame only, the SELECT of the level it
     is at, `IsSelect`; it does not compare the UID in it (`run_handleReady_select`), and nothing
     else moves the card (`handleReady_stays`).
  5. **One round of each loop.**  `waitForActivation_cases`, `handleActive_cases`, and for the two
     loops of an exchange `run_receiveCommand_read` and `run_sendResponse_read`, which say what
     becomes of a block by what the protocol handler makes of it.

  What every round leaves alone is what the invariants rest on: the configuration, the CRC mode,
  and in `wait_for_activation` also the handler.  A round changes the state of the card to one of
  those in `Answers`, or not at all.
-/
import Mathlib.Tactic.Simps.Basic
import Iso14443.Picc
import Iso14443.ProtocolRun

namespace Iso14443

/-- A transceiver with a log of what it was given to send. -/
structure Logged (T : Type) where
  inner : T
  sent : List Frame := []

/-- The log hands every call on and writes down what was sent. -/
instance {T E : Type} [PiccTransceiver T E] : PiccTransceiver (Logged T) E where
  send t frame :=
    let (r, inner) := PiccTransceiver.send t.inner frame
    (r, { inner, sent := t.sent ++ [frame] })
  tryEnableHwCrc t :=
    let (r, inner) := PiccTransceiver.tryEnableHwCrc t.inner
    (r, { t with inner })

/-- A transceiver that takes every frame, and closes it in hardware. -/
structure Willing where

/-- A transceiver that takes everything and never has a frame. -/
instance : PiccTransceiver Willing Unit where
  send t _ := (.ok (), t)
  tryEnableHwCrc t := (.ok (), t)

/-- The UID 01 02 03 04. -/
def sampleUid : Uid := .single #v[0x01, 0x02, 0x03, 0x04]

namespace Picc

variable {T E α : Type}

/-- A pure step of the card leaves the card alone. -/
@[simp] theorem run_lift (x : Res TypeAError α) (s : Picc T) :
    (lift x : Act (Picc T) (PiccError E) α).run s = (x.mapErr .protocol, s) := rfl

/-- Changing the state changes the state alone. -/
@[simp] theorem run_setState (state : PiccState) (s : Picc T) :
    (setState state : Act (Picc T) (PiccError E) Unit).run s = (.ok (), { s with state }) := rfl

/-! ## Sending

  A send is one call of the transceiver, and its error is the only way in which it fails. -/

section Sending

variable [PiccTransceiver T E]

/-- How the transceiver takes a frame. -/
def sendResult (s : Picc T) (frame : Frame) : Res (PiccError E) Unit :=
  match (PiccTransceiver.send s.transceiver frame).1 with
  | .ok () => .ok ()
  | .error e => .err (.piccTransceiver e)

/-- The card once it handed a frame over. -/
@[simps]
def afterSend (s : Picc T) (frame : Frame) : Picc T :=
  { s with transceiver := (PiccTransceiver.send s.transceiver frame).2 }

/-- The block that will be asked for again. -/
@[simps]
def remembering (s : Picc T) (block : Block) : Picc T := { s with lastSent := some block }

/-- The frames sent so far. -/
def sent (s : Picc (Logged T)) : List Frame := s.transceiver.sent

/-- After a send the log is longer by that frame. -/
@[simp] theorem sent_afterSend (s : Picc (Logged T)) (frame : Frame) :
    (s.afterSend frame).sent = s.sent ++ [frame] := rfl

/-- A send in full: the transceiver's answer, and the frame on the log. -/
theorem run_send (s : Picc T) (frame : Frame) :
    (send frame).run s = (s.sendResult frame, s.afterSend frame) := rfl

/-- The transceiver takes a frame or refuses it. -/
theorem sendResult_cases (s : Picc T) (frame : Frame) :
    s.sendResult frame = .ok () ∨ ∃ e, s.sendResult frame = .err (.piccTransceiver e) := by
  unfold sendResult
  split
  · exact Or.inl rfl
  · exact Or.inr ⟨_, rfl⟩

variable [Build]

/-- Short data always goes out. -/
theorem run_sendStandard {data : List UInt8} (h : data.length + 2 ≤ 256) (s : Picc T) :
    (sendStandard data).run s = (s.sendResult (.standard (closed s.hwCrc data)),
      s.afterSend (.standard (closed s.hwCrc data))) := by
  rw [sendStandard, Act.run_get_bind, Act.run_bind, run_lift, frameOf_of_fits s.hwCrc h]
  exact run_send s _

/-- A SAK goes out with the CRC_A that is missing. -/
theorem run_sendSak (sak : Sak) (s : Picc T) :
    (sendSak sak).run s = (s.sendResult (.standard (closed s.hwCrc [sak.toByte])),
      s.afterSend (.standard (closed s.hwCrc [sak.toByte]))) :=
  run_sendStandard (by simp) s

/-- An ATQA goes out as it is. -/
theorem run_sendAtqa (s : Picc T) :
    sendAtqa.run s = (s.sendResult (.short s.config.atqa.toBytes),
      s.afterSend (.short s.config.atqa.toBytes)) := by
  have hfits : Fits frameCap (([] : List UInt8).length + s.config.atqa.toBytes.length) :=
    fits_frameCap (by simp [AtqA.toBytes])
  rw [sendAtqa, Act.run_get_bind, Act.run_bind, run_lift, tryExtend_of_fits hfits]
  exact run_send s _

/-- **A block goes out**, and is remembered. -/
theorem run_sendBlock {block : Block} {s : Picc T} {frame : Frame}
    (h : frameFor s.hwCrc block = .ok frame) : (sendBlock block).run s =
      ((s.remembering block).sendResult frame, (s.remembering block).afterSend frame) := by
  rw [sendBlock, Act.run_modify_bind, Act.run_get_bind, Act.run_bind, run_lift]
  simp only [h, Res.mapErr_ok]
  exact run_send _ _

/-- A block that makes no frame is remembered all the same. -/
theorem run_sendBlock_err {block : Block} {s : Picc T} {e : TypeAError}
    (h : frameFor s.hwCrc block = .err e) : (sendBlock block).run s =
      ((.err (.protocol e), s.remembering block) : Res (PiccError E) Unit × Picc T) := by
  rw [sendBlock, Act.run_modify_bind, Act.run_get_bind, Act.run_bind, run_lift]
  simp only [h, Res.mapErr_err]
  rfl

end Sending

/-! ## The card's own identifier

  The bytes that the card gives at a level of its UID, and that they exist there. -/

/-- The bytes a card is selected with at each of its levels: four of them, and their BCC. -/
theorem uidBccForLevel_bcc (s : Picc T) {level : Nat} (h : level < s.config.uid.cascadeLevels) :
    ∃ bytes, bytes.length = 4 ∧
      s.uidBccForLevel level = .ok (bytes ++ [bytes.foldl (· ^^^ ·) 0]) := by
  cases hu : s.config.uid with
  | single u =>
    obtain rfl : level = 0 := by simp only [hu, Uid.cascadeLevels] at h; omega
    refine ⟨u.toList, by simp, ?_⟩
    simp [uidBccForLevel, hu, Uid.asSlice, Uid.cascadeLevels, Res.slice, List.take_of_length_le]
  | double u =>
    have h2 : level = 0 ∨ level = 1 := by simp only [hu, Uid.cascadeLevels] at h; omega
    rcases h2 with rfl | rfl
    · refine ⟨0x88 :: u.toList.take 3, by simp, ?_⟩
      simp [uidBccForLevel, hu, Uid.asSlice, Uid.cascadeLevels, Res.slice]
    · refine ⟨(u.toList.take 7).drop 3, by simp, ?_⟩
      simp [uidBccForLevel, hu, Uid.asSlice, Uid.cascadeLevels, Res.slice]
  | triple u =>
    have h3 : level = 0 ∨ level = 1 ∨ level = 2 := by
      simp only [hu, Uid.cascadeLevels] at h; omega
    rcases h3 with rfl | rfl | rfl
    · refine ⟨0x88 :: u.toList.take 3, by simp, ?_⟩
      simp [uidBccForLevel, hu, Uid.asSlice, Uid.cascadeLevels, Res.slice]
    · refine ⟨0x88 :: (u.toList.take 6).drop 3, by simp, ?_⟩
      simp [uidBccForLevel, hu, Uid.asSlice, Uid.cascadeLevels, Res.slice]
    · refine ⟨(u.toList.take 10).drop 6, by simp, ?_⟩
      simp [uidBccForLevel, hu, Uid.asSlice, Uid.cascadeLevels, Res.slice]

/-- On a level of the cascade there are four UID bytes and a BCC to send. -/
theorem uidBccForLevel_ok (s : Picc T) {level : Nat} (h : level < s.config.uid.cascadeLevels) :
    ∃ uid, s.uidBccForLevel level = .ok uid ∧ uid.length = 5 := by
  obtain ⟨bytes, hlen, hbytes⟩ := s.uidBccForLevel_bcc h
  exact ⟨_, hbytes, by simp [hlen]⟩

/-- No level makes the card panic. -/
theorem uidBccForLevel_returns (s : Picc T) (level : Nat) : (s.uidBccForLevel level).Returns := by
  by_cases h : level < s.config.uid.cascadeLevels
  · obtain ⟨uid, huid, -⟩ := s.uidBccForLevel_ok h
    rw [huid]
    trivial
  · cases hu : s.config.uid with
    | single u =>
      match level, h with
      | 0, h => simp [hu, Uid.cascadeLevels] at h
      | n + 1, _ => simp [uidBccForLevel, hu, Uid.cascadeLevels]
    | double u =>
      match level, h with
      | 0, h => simp [hu, Uid.cascadeLevels] at h
      | 1, h => simp [hu, Uid.cascadeLevels] at h
      | n + 2, _ => simp [uidBccForLevel, hu, Uid.cascadeLevels]
    | triple u =>
      match level, h with
      | 0, h => simp [hu, Uid.cascadeLevels] at h
      | 1, h => simp [hu, Uid.cascadeLevels] at h
      | 2, h => simp [hu, Uid.cascadeLevels] at h
      | n + 3, _ => simp [uidBccForLevel, hu, Uid.cascadeLevels]

/-- A card has at most three levels. -/
theorem cascadeLevels_le (uid : Uid) : 1 ≤ uid.cascadeLevels ∧ uid.cascadeLevels ≤ 3 := by
  cases uid <;> simp [Uid.cascadeLevels]

/-- Every level a card has has its SEL byte. -/
theorem expectedSel_isSome {uid : Uid} {level : Nat} (h : level < uid.cascadeLevels) :
    ∃ sel, expectedSel level = some sel := by
  have hle := (cascadeLevels_le uid).2
  have h3 : level = 0 ∨ level = 1 ∨ level = 2 := by omega
  rcases h3 with rfl | rfl | rfl <;> exact ⟨_, rfl⟩

/-! ## Frames with their CRC

  `closed` and `stripCrc` undo each other in either mode; the first bytes of a frame are not
  touched. -/

/-- What is left of a frame is its beginning. -/
theorem eq_closed_of_stripCrc {s : Picc T} {raw data : List UInt8} (h : s.stripCrc raw = .ok data) :
    raw = closed s.hwCrc data := by
  unfold stripCrc at h
  cases hcrc : s.hwCrc with
  | true => rw [hcrc, if_pos rfl] at h; cases h; rfl
  | false =>
    rw [hcrc, if_neg (by simp)] at h
    exact splitCrcA_eq_ok.mp h

/-- Taking the CRC_A off a frame never panics. -/
theorem stripCrc_returns (s : Picc T) (raw : List UInt8) : (s.stripCrc raw).Returns := by
  unfold stripCrc
  split
  · trivial
  · exact splitCrcA_returns raw

/-- **The card opens what its reader closed.** -/
@[simp] theorem stripCrc_closed (s : Picc T) (data : List UInt8) :
    s.stripCrc (closed s.hwCrc data) = .ok data := by
  unfold stripCrc
  cases s.hwCrc <;> simp [closed]

/-- Closing a frame leaves its first byte in front. -/
theorem closed_cons (hwCrc : Bool) (a : UInt8) (data : List UInt8) :
    ∃ tail, closed hwCrc (a :: data) = a :: tail ∧ data.length ≤ tail.length := by
  cases hwCrc with
  | true => exact ⟨data, rfl, Nat.le_refl _⟩
  | false => exact ⟨data ++ _, rfl, by simp⟩

/-- Closing a frame leaves its first two bytes in front. -/
theorem closed_cons_cons (hwCrc : Bool) (a b : UInt8) (data : List UInt8) :
    ∃ tail, closed hwCrc (a :: b :: data) = a :: b :: tail ∧ data.length ≤ tail.length := by
  cases hwCrc with
  | true => exact ⟨data, rfl, Nat.le_refl _⟩
  | false => exact ⟨data ++ _, rfl, by simp⟩

/-! ## SELECT

  `handle_ready` has three exits: it ignores the frame, answers an anticollision, or takes a
  SELECT. -/

/-- A SELECT of this level, for the card with these five bytes. -/
def IsSelect (s : Picc T) (level : Nat) (raw uid : List UInt8) : Prop :=
  ∃ sel, expectedSel level = some sel ∧ s.stripCrc raw = .ok (sel :: 0x70 :: uid) ∧ uid.length = 5

/-- A SELECT is longer than any other frame a card waits for here. -/
theorem IsSelect.length {s : Picc T} {level : Nat} {raw uid : List UInt8}
    (h : s.IsSelect level raw uid) : 7 ≤ raw.length := by
  obtain ⟨sel, -, hdata, hlen⟩ := h
  rw [eq_closed_of_stripCrc hdata, length_closed, List.length_cons, List.length_cons, hlen]
  omega

/-- The SAK of a level. -/
def sakAt (s : Picc T) (level : Nat) : Sak :=
  { uidComplete := s.isLastCascadeLevel level, iso144434Compliant := s.config.is144434 }

/-- Where the SELECT of a level leads. -/
def selectedState (s : Picc T) (level : Nat) : PiccState :=
  if s.isLastCascadeLevel level then .active else .ready (level + 1)

variable [Build] [PiccTransceiver T E]

/-- **Every SELECT of the level is answered**, whichever card it names. -/
theorem run_handleReady_select {s : Picc T} {level : Nat} {raw uid : List UInt8}
    (h : s.IsSelect level raw uid) : (handleReady raw level).run s =
      (do sendSak (s.sakAt level); setState (s.selectedState level) :
        Act (Picc T) (PiccError E) Unit).run s := by
  obtain ⟨sel, hsel, hdata, hlen⟩ := h
  obtain ⟨tail, htail, hle⟩ := closed_cons_cons s.hwCrc sel 0x70 uid
  have hraw : raw = sel :: 0x70 :: tail := by rw [eq_closed_of_stripCrc hdata, htail]
  have h2 : ¬ raw.length < 2 := by rw [hraw]; simp
  have h3 : ¬ raw.length = 2 := by
    rw [hraw]
    cases tail with
    | nil => simp [hlen] at hle
    | cons _ _ => simp
  have hi0 : (Res.index raw 0 : Res TypeAError UInt8) = .ok sel := by rw [hraw]; rfl
  have hi1 : (Res.index raw 1 : Res TypeAError UInt8) = .ok 0x70 := by rw [hraw]; rfl
  rw [handleReady, if_neg h2]
  simp only [Act.run_bind, run_lift, hi0, hsel, Res.okOr_some, Res.mapErr_ok, ne_eq, not_true,
    if_false, h3, hi1, if_true, Act.run_get, hdata, List.length_cons, hlen]
  cases hlast : s.isLastCascadeLevel level <;>
    simp only [sakAt, selectedState, hlast, if_true, Bool.false_eq_true, if_false]

omit [Build] [PiccTransceiver T E] in
/-- Seven bytes with the SEL of the level and NVB 0x70 are a SELECT, as the CRC_A behind them moves
    neither byte. -/
theorem isSelect_of_stripCrc {s : Picc T} {level : Nat} {raw data : List UInt8} {sel : UInt8}
    (h2 : 2 ≤ raw.length) (hsel : expectedSel level = some sel) (h0 : raw[0] = sel)
    (h1 : raw[1] = 0x70) (hdata : s.stripCrc raw = .ok data) (hlen : data.length = 7) :
    ∃ uid, s.IsSelect level raw uid := by
  obtain ⟨a, b, uid, rfl, huid⟩ : ∃ a b uid, data = a :: b :: uid ∧ uid.length = 5 := by
    match data, hlen with
    | a :: b :: uid, hlen => exact ⟨a, b, uid, rfl, by simpa using hlen⟩
  obtain ⟨tail, htail, -⟩ := closed_cons_cons s.hwCrc a b uid
  have hraw : raw = a :: b :: tail := by rw [eq_closed_of_stripCrc hdata, htail]
  subst hraw
  obtain rfl : a = sel := h0
  obtain rfl : b = 0x70 := h1
  exact ⟨uid, a, hsel, hdata, huid⟩

/-- **Nothing else moves the card on**: it stays as it is, or answers an anticollision frame.  Every
    other path of the method is a frame of the wrong length, level or check byte. -/
theorem handleReady_stays {s : Picc T} {level : Nat} {raw : List UInt8}
    (h : ∀ uid, ¬ s.IsSelect level raw uid) :
    (∃ r : Res (PiccError E) Unit, r.Returns ∧ (handleReady raw level).run s = (r, s)) ∨
      raw.length = 2 ∧ ∃ frame,
        (handleReady raw level).run s = (s.sendResult frame, s.afterSend frame) := by
  have hkeep : ∀ r : Res (PiccError E) Unit, r.Returns →
      (∃ r' : Res (PiccError E) Unit, r'.Returns ∧ (r, s) = (r', s)) ∨
        raw.length = 2 ∧ ∃ frame, (r, s) = (s.sendResult frame, s.afterSend frame) :=
    fun r hr => Or.inl ⟨r, hr, rfl⟩
  unfold handleReady
  split
  · -- a frame of one byte, or of none
    exact hkeep _ trivial
  · rename_i h2
    have h2 : 2 ≤ raw.length := Nat.le_of_not_lt h2
    have hi0 : (Res.index raw 0 : Res TypeAError UInt8) = .ok raw[0] := Res.index_of_lt (by omega)
    have hi1 : (Res.index raw 1 : Res TypeAError UInt8) = .ok raw[1] := Res.index_of_lt (by omega)
    simp only [Act.run_bind, run_lift, hi0, Res.mapErr_ok]
    cases hsel : expectedSel level with
    | none => exact hkeep _ trivial
    | some sel =>
      simp only [Res.okOr_some, Res.mapErr_ok]
      split
      · -- the SEL of another level
        exact hkeep _ trivial
      · rename_i hne
        have hne : raw[0] = sel := not_not.mp hne
        split
        · -- anticollision
          rename_i hlen
          simp only [Act.run_bind, Act.run_get, run_lift]
          rcases (uidBccForLevel_returns s level).cases with ⟨uidBcc, huid⟩ | ⟨e, huid⟩ <;> rw [huid]
          · simp only [Res.mapErr_ok]
            rcases (tryExtend_returns frameCap [] uidBcc).cases with ⟨resp, hresp⟩ | ⟨e, hresp⟩ <;>
              rw [hresp]
            · exact Or.inr ⟨hlen, .bitOriented resp, by simp only [Res.mapErr_ok, run_send]⟩
            · exact hkeep _ trivial
          · exact hkeep _ trivial
        · simp only [Act.run_bind, run_lift, hi1, Res.mapErr_ok]
          split
          · -- NVB 0x70
            rename_i hnvb
            simp only [Act.run_bind, Act.run_get, run_lift]
            rcases (stripCrc_returns s raw).cases with ⟨data, hdata⟩ | ⟨e, hdata⟩ <;> rw [hdata]
            · simp only [Res.mapErr_ok]
              split
              · -- not seven bytes without the CRC_A
                exact hkeep _ trivial
              · -- seven bytes make a SELECT of this level
                rename_i hlen
                have hlen : data.length = 7 := not_not.mp hlen
                obtain ⟨uid, hselect⟩ := isSelect_of_stripCrc h2 hsel hne hnvb hdata hlen
                exact absurd hselect (h uid)
            · exact hkeep _ trivial
          · exact hkeep _ trivial

/-! ## One round of `wait_for_activation`

  All that a frame can do to a card that waits for its activation, as a list of the frames that are
  answered. -/

/-- The frames that are answered, with what, and where the answer leads.  No other frame is, so this
    is the whole of the activation as the air sees it. -/
inductive Answers (s : Picc T) (raw : List UInt8) : Frame → PiccState → Prop
  | request (hs : s.state = .idle) (hr : raw = [0x26] ∨ raw = [0x52]) :
      Answers s raw (.short s.config.atqa.toBytes) (.ready 0)
  | wakeup (hs : s.state = .halted) (hr : raw = [0x52]) :
      Answers s raw (.short s.config.atqa.toBytes) (.ready 0)
  | anticollision {level : Nat} (hs : s.state = .ready level) (hr : raw.length = 2)
      (frame : Frame) : Answers s raw frame s.state
  | select {level : Nat} {uid : List UInt8} (hs : s.state = .ready level)
      (hr : s.IsSelect level raw uid) :
      Answers s raw (.standard (closed s.hwCrc [(s.sakAt level).toByte])) (s.selectedState level)

/-- The call returns once the card is selected. -/
def afterRound (state : PiccState) : Next :=
  if state = .active then .ret .unit else .wait .waitForActivation

/-- The answer goes out and the card moves on, or the transceiver refuses it. -/
def answer (s : Picc T) (frame : Frame) (state : PiccState) : Res (PiccError E) Next × Picc T :=
  match s.sendResult frame with
  | .ok () => (.ok (afterRound state), { s.afterSend frame with state })
  | .err e => (.err e, s.afterSend frame)
  | .panic => (.panic, s.afterSend frame)
  | .outOfFuel => (.outOfFuel, s.afterSend frame)

/-- The rest of a round. -/
def roundEnd : Act (Picc T) (PiccError E) Next := do
  let self ← Act.get
  if self.state = .active then pure (.ret .unit) else pure (.wait .waitForActivation)

omit [Build] in
/-- What is sent, and then assigned, is an answer. -/
theorem run_answer {s : Picc T} {m : Act (Picc T) (PiccError E) Unit} {frame : Frame}
    (hm : m.run s = (s.sendResult frame, s.afterSend frame)) (state : PiccState) :
    ((do m; setState state) >>= fun _ : Unit => roundEnd).run s = s.answer frame state := by
  rw [Act.run_bind_assoc, Act.run_bind, hm, answer]
  rcases s.sendResult frame with ⟨⟩ | e | _ | _
  · by_cases ha : state = .active <;> simp [Act.run_bind, roundEnd, afterRound, ha]
  all_goals rfl

/-- A round, by the state the card is in. -/
theorem run_waitForActivation (s : Picc T) (raw : List UInt8) :
    (waitForActivation raw).run s = ((match s.state with
      | .idle => handleIdle raw
      | .halted => if raw = [0x52] then (do sendAtqa; setState (.ready 0)) else pure ()
      | .ready cascadeLevel => handleReady raw cascadeLevel
      | .active | .protocol => Act.panic : Act (Picc T) (PiccError E) Unit) >>=
        fun _ => roundEnd).run s := by
  rw [waitForActivation, Act.run_get_bind]
  cases s.state with
  | halted =>
    by_cases hr : raw = [0x52]
    · simp only [if_pos hr]
      rw [Act.run_bind_assoc]
      rfl
    · simp only [if_neg hr]
      rfl
  | _ => rfl

/-- **A SELECT of the level the card is at is always answered.** -/
theorem run_waitForActivation_select {s : Picc T} {level : Nat} {raw uid : List UInt8}
    (hs : s.state = .ready level) (h : s.IsSelect level raw uid) :
    (waitForActivation raw).run s = s.answer
      (.standard (closed s.hwCrc [(s.sakAt level).toByte])) (s.selectedState level) := by
  rw [run_waitForActivation, hs, ← run_answer (run_sendSak _ s), Act.run_bind,
    run_handleReady_select h]
  rfl

omit [Build] in
/-- The answer goes out, whatever the transceiver makes of it. -/
theorem sent_answer (s : Picc (Logged T)) (frame : Frame) (state : PiccState) :
    (s.answer frame state).2.sent = s.sent ++ [frame] := by
  rw [answer]
  rcases s.sendResult frame with ⟨⟩ | e | _ | _ <;> rfl

/-- **One round**: the frame is answered, or nothing happens.  Nothing means that the call waits on,
    or fails with the card as it was. -/
theorem waitForActivation_cases {s : Picc T} (raw : List UInt8)
    (hs : s.state ≠ .active ∧ s.state ≠ .protocol) :
    (∃ frame state, s.Answers raw frame state ∧
      (waitForActivation raw).run s = s.answer frame state) ∨
    ∃ r : Res (PiccError E) Next, (r = .ok (.wait .waitForActivation) ∨ ∃ e, r = .err e) ∧
      (waitForActivation raw).run s = (r, s) := by
  have hwait : s.state ≠ .active → (roundEnd : Act (Picc T) (PiccError E) Next).run s =
      (.ok (.wait .waitForActivation), s) := by
    intro ha
    simp [roundEnd, ha]
  rw [run_waitForActivation]
  cases hstate : s.state with
  | idle =>
    -- REQA and WUPA
    by_cases hr : raw = [0x26] ∨ raw = [0x52]
    · refine Or.inl ⟨_, _, .request hstate hr, ?_⟩
      simp only [handleIdle, if_pos hr]
      exact run_answer (run_sendAtqa s) _
    · refine Or.inr ⟨_, Or.inl rfl, ?_⟩
      simp only [handleIdle, if_neg hr]
      exact hwait hs.1
  | halted =>
    -- WUPA alone
    by_cases hr : raw = [0x52]
    · refine Or.inl ⟨_, _, .wakeup hstate hr, ?_⟩
      simp only [if_pos hr]
      exact run_answer (run_sendAtqa s) _
    · refine Or.inr ⟨_, Or.inl rfl, ?_⟩
      simp only [if_neg hr]
      exact hwait hs.1
  | ready level =>
    dsimp only
    -- a SELECT of the level, or what `handle_ready` makes of anything else
    by_cases hsel : ∃ uid, s.IsSelect level raw uid
    · obtain ⟨uid, hsel⟩ := hsel
      refine Or.inl ⟨_, _, .select hstate hsel, ?_⟩
      rw [← run_waitForActivation_select hstate hsel, run_waitForActivation, hstate]
    · rcases handleReady_stays (not_exists.mp hsel) with ⟨r, hr, hrun⟩ | ⟨hlen, frame, hrun⟩
      · right
        rw [Act.run_bind, hrun]
        cases r with
        | ok u => exact ⟨_, Or.inl rfl, hwait hs.1⟩
        | err e => exact ⟨_, Or.inr ⟨e, rfl⟩, rfl⟩
        | panic => exact hr.elim
        | outOfFuel => exact hr.elim
      · refine Or.inl ⟨_, _, .anticollision hstate hlen frame, ?_⟩
        rw [Act.run_bind, hrun, answer]
        rcases s.sendResult frame with ⟨⟩ | e | _ | _
        · simp only [roundEnd, Act.run_get_bind, afterSend_state, if_neg hs.1, afterRound]
          rfl
        all_goals rfl
  -- there it would be unreachable
  | active => exact absurd hstate hs.1
  | protocol => exact absurd hstate hs.2

/-! ## RATS and HLTA

  All that a frame can do to a card that was selected. -/

/-- The frame that carries an ATS. -/
def atsFrame (s : Picc T) : Res TypeAError Frame := do
  let ats ← Res.okOr .other s.config.ats
  let atsBytes ← ats.toBytes
  frameOf s.hwCrc atsBytes

omit [PiccTransceiver T E] in
/-- Writing the ATS never panics. -/
theorem atsFrame_returns (s : Picc T) : s.atsFrame.Returns :=
  (Res.returns_okOr _ _).bind fun ats _ => (ats.toBytes_returns).bind fun bytes _ =>
    frameOf_returns s.hwCrc bytes

/-- The ATS goes out, if it makes a frame. -/
theorem run_sendAts (s : Picc T) : sendAts.run s =
    match s.atsFrame with
    | .ok frame => (s.sendResult frame, s.afterSend frame)
    | .err e => (.err (.protocol e), s)
    | .panic => (.panic, s)
    | .outOfFuel => (.outOfFuel, s) := by
  rw [sendAts, Act.run_get_bind, Act.run_bind, run_lift, atsFrame]
  rcases Res.okOr TypeAError.other s.config.ats with ats | e | _ | _
  · simp only [Res.mapErr_ok, Res.ok_bind]
    rw [Act.run_bind, run_lift]
    rcases ats.toBytes with bytes | e | _ | _
    · simp only [Res.mapErr_ok, Res.ok_bind]
      rw [sendStandard, Act.run_get_bind, Act.run_bind, run_lift]
      rcases frameOf s.hwCrc bytes with frame | e | _ | _
      · exact run_send s frame
      all_goals rfl
    all_goals rfl
  all_goals rfl

omit [Build] [PiccTransceiver T E] in
/-- A RATS is two bytes with `E0` in front, and nothing else is one. -/
theorem ratsByte_cases (data : List UInt8) :
    (∃ param, data = [0xe0, param] ∧ ratsByte data = .ok param) ∨
      ratsByte data = .err .invalidLength := by
  unfold ratsByte
  split
  · exact Or.inl ⟨_, rfl, rfl⟩
  · exact Or.inr rfl

/-- **A RATS that can be read starts a session**, if the ATS goes out. -/
theorem run_waitForRats_rats {s : Picc T} {raw : List UInt8} {param : UInt8}
    (h : s.stripCrc raw = .ok [0xe0, param]) :
    (waitForRats raw).run s = (do
      let rats ← lift (RatsParam.tryFrom param)
      Act.modify (beginSession rats)
      sendAts
      setState .protocol
      pure (.ret .unit) : Act (Picc T) (PiccError E) Next).run s := by
  obtain ⟨tail, htail, -⟩ := closed_cons s.hwCrc 0xe0 [param]
  have hraw : raw = 0xe0 :: tail := by rw [eq_closed_of_stripCrc h, htail]
  have hbyte : ratsByte [0xe0, param] = .ok param := rfl
  subst hraw
  rw [waitForRats, Act.run_bind, handleActive, if_neg (by simp), Act.run_get_bind, Act.run_bind,
    run_lift]
  simp only [Res.index_zero_cons, Res.mapErr_ok, if_true]
  rw [Act.run_bind, run_lift, h]
  simp only [Res.mapErr_ok]
  rw [Act.run_bind, run_lift, hbyte]
  simp only [Res.mapErr_ok]
  rw [Act.run_bind, Act.run_bind, run_lift]
  rcases RatsParam.tryFrom param with rats | e | _ | _
  · simp only [Res.mapErr_ok, Act.run_modify_bind]
    rw [Act.run_bind, Act.run_bind]
    rcases sendAts.run (beginSession rats s) with ⟨⟨⟩ | e | _ | _, s'⟩ <;> simp [Act.run_bind]
  all_goals rfl

/-- **What a card makes of a frame once it is selected**: a RATS, an HLTA, or nothing.  In the last
    case the method may fail, but changes nothing. -/
theorem handleActive_cases (s : Picc T) (raw : List UInt8) :
    (∃ param rats, s.stripCrc raw = .ok [0xe0, param] ∧ RatsParam.tryFrom param = .ok rats ∧
      (handleActive raw).run s = (do sendAts; setState .protocol :
        Act (Picc T) (PiccError E) Unit).run (beginSession rats s)) ∨
    (s.stripCrc raw = .ok [0x50, 0x00] ∧
      (handleActive raw).run s = (.ok (), { s with state := .halted })) ∨
    ∃ r : Res (PiccError E) Unit, r.Returns ∧ (handleActive raw).run s = (r, s) := by
  have hkeep : ∀ r : Res (PiccError E) Unit, r.Returns →
      ∃ r' : Res (PiccError E) Unit, r'.Returns ∧ (r, s) = (r', s) := fun r hr => ⟨r, hr, rfl⟩
  cases raw with
  | nil => exact Or.inr (Or.inr (hkeep _ trivial))
  | cons first tail =>
    have hstrip := (s.stripCrc_returns (first :: tail)).cases
    rw [handleActive, if_neg (by simp), Act.run_get_bind, Act.run_bind, run_lift]
    simp only [Res.index_zero_cons, Res.mapErr_ok]
    by_cases hrats : first = 0xe0
    · -- RATS: its CRC_A, its length and its parameter may be wrong
      rw [if_pos hrats, Act.run_bind, run_lift]
      rcases hstrip with ⟨data, hdata⟩ | ⟨e, hdata⟩ <;> rw [hdata]
      · simp only [Res.mapErr_ok]
        rw [Act.run_bind, run_lift]
        rcases ratsByte_cases data with ⟨param, rfl, hbyte⟩ | hbyte <;> rw [hbyte]
        · simp only [Res.mapErr_ok]
          rw [Act.run_bind, run_lift]
          rcases (RatsParam.tryFrom_returns param).cases with ⟨rats, hr⟩ | ⟨e, hr⟩ <;> rw [hr]
          · exact Or.inl ⟨param, rats, rfl, hr, rfl⟩
          · exact Or.inr (Or.inr (hkeep _ trivial))
        · exact Or.inr (Or.inr (hkeep _ trivial))
      · exact Or.inr (Or.inr (hkeep _ trivial))
    · rw [if_neg hrats]
      by_cases hhlta : first = 0x50
      · -- HLTA: a second byte that is not zero is ignored
        rw [if_pos hhlta, Act.run_bind, run_lift]
        rcases hstrip with ⟨data, hdata⟩ | ⟨e, hdata⟩ <;> rw [hdata]
        · simp only [Res.mapErr_ok]
          by_cases h50 : data = [0x50, 0x00]
          · rw [if_pos h50]
            exact Or.inr (Or.inl ⟨by rw [h50], rfl⟩)
          · rw [if_neg h50]
            exact Or.inr (Or.inr (hkeep _ trivial))
        · exact Or.inr (Or.inr (hkeep _ trivial))
      · rw [if_neg hhlta]
        exact Or.inr (Or.inr (hkeep _ trivial))

/-! ## One round of `receive_command` and of `send_response`

  What they do with a block is said by what the handler makes of it. -/

/-- A frame that `receive_command` takes for a PPS request. -/
def isPps (raw : List UInt8) : Bool :=
  match raw with
  | [] => false
  | first :: _ => first &&& 0xF0 = 0xD0

omit [Build] [PiccTransceiver T E] in
/-- A block is no PPS request. -/
theorem isPps_raw {b : Block} (h : b.WellFormed) (hwCrc : Bool) : isPps (b.raw hwCrc) = false := by
  have hcons : ∃ tail, b.raw hwCrc = Pcb.wireByte b.pcb b.cid.isSome b.nad.isSome :: tail := by
    cases hwCrc with
    | true => exact ⟨_, rfl⟩
    | false => exact ⟨_, rfl⟩
  obtain ⟨tail, htail⟩ := hcons
  rw [htail]
  exact decide_eq_false (Pcb.wireByte_ne_pps h.pcb _ _)

/-- The card with its handler in another state. -/
@[simps]
def withHandler (s : Picc T) (handler : ProtocolHandler) : Picc T := { s with handler }

omit [PiccTransceiver T E] in
/-- Reading a block never panics. -/
theorem parseBlock_returns (s : Picc T) (raw : List UInt8) : (s.parseBlock raw).Returns := by
  show (if (if s.hwCrc then raw.length + 2 else raw.length) > s.fsc then
    .err (.limitExceeded .frameSize) else s.stripCrc raw >>= Block.fromCrcVerified :
      Res TypeAError Block).Returns
  by_cases hlen : (if s.hwCrc then raw.length + 2 else raw.length) > s.fsc
  · rw [if_pos hlen]
    trivial
  · rw [if_neg hlen]
    exact (s.stripCrc_returns raw).bind fun data _ => Block.fromCrcVerified_returns data

omit [PiccTransceiver T E] in
/-- **A frame that carries a block within the frame size is read as that block.** -/
theorem parseBlock_raw {s : Picc T} {b : Block} (hwf : b.WellFormed)
    (hlen : b.bytes.length + 2 ≤ s.fsc) (h256 : b.bytes.length ≤ 256) :
    s.parseBlock (b.raw s.hwCrc) = .ok b.wire := by
  have hp : Fits frameCap b.payload.length := by
    have := b.length_bytes
    exact fits_frameCap (by omega)
  show (if (if s.hwCrc then (b.raw s.hwCrc).length + 2 else (b.raw s.hwCrc).length) > s.fsc then
    .err (.limitExceeded .frameSize) else s.stripCrc (b.raw s.hwCrc) >>= Block.fromCrcVerified :
      Res TypeAError Block) = _
  have hair : (if s.hwCrc then (b.raw s.hwCrc).length + 2 else (b.raw s.hwCrc).length) =
      b.bytes.length + 2 := by
    rw [Block.raw, length_closed]
    cases s.hwCrc <;> rfl
  rw [hair, if_neg (Nat.not_lt.mpr hlen), Block.raw, stripCrc_closed, Res.ok_bind,
    Block.fromCrcVerified_bytes hwf hp]

omit [PiccTransceiver T E] [Build] in
/-- The frame size a card accepts. -/
theorem fsc_bounds (s : Picc T) : 16 ≤ s.fsc ∧ s.fsc ≤ 256 := by
  unfold fsc
  split
  · exact Fsci.fsc_bounds _
  · decide

omit [Build] [PiccTransceiver T E] in
/-- A step of the protocol handler, as the card runs it. -/
theorem run_onHandler (m : Act ProtocolHandler TypeAError α) (s : Picc T) :
    (onHandler m : Act (Picc T) (PiccError E) α).run s =
      ((m.run s.handler).1.mapErr .protocol, s.withHandler (m.run s.handler).2) := rfl

omit [PiccTransceiver T E] in
/-- A block given to the handler. -/
theorem run_onHandler_receive (block : Block) (s : Picc T) :
    (onHandler (ProtocolHandler.processReceived block) : Act (Picc T) (PiccError E) Action).run s =
      ((s.handler.receive block).1.mapErr .protocol,
        s.withHandler (s.handler.receive block).2) := rfl

/-- A frame with the PPS start byte goes to `handle_pps` after it is counted. -/
theorem run_receiveCommand_pps {s : Picc T} {raw : List UInt8} (h : isPps raw = true) :
    (receiveCommand raw).run s = (do
      onHandler ProtocolHandler.noteFrame
      handlePps raw
      pure (.wait .receiveCommand) : Act (Picc T) (PiccError E) Next).run s := by
  cases raw with
  | nil => simp [isPps] at h
  | cons first tail =>
    have hfirst : first &&& 0xF0 = 0xD0 := of_decide_eq_true h
    rw [receiveCommand, Act.run_bind, run_lift]
    simp [hfirst]

/-- What `receive_command` does with any other frame. -/
theorem run_receiveCommand_block {s : Picc T} {raw : List UInt8} (h : isPps raw = false) :
    (receiveCommand raw).run s = (do
      let block ← lift (s.parseBlock raw)
      match ← onHandler (ProtocolHandler.processReceived block) with
      | .complete data => pure (.ret (.apdu data))
      | .reply reply => do
        sendBlock reply
        if isDeselectReply reply then do
          setState .halted
          Act.throw .deselected
        else pure (.wait .receiveCommand)
      | .chainingRetransmit => do
        let self ← Act.get
        let last ← lift (Res.okOr .other self.lastSent)
        sendBlock last
        pure (.wait .receiveCommand)
      | .chainingAck => Act.throw (.protocol .other) :
        Act (Picc T) (PiccError E) Next).run s := by
  cases raw with
  | nil => rfl
  | cons first tail =>
    have hfirst : ¬ first &&& 0xF0 = 0xD0 := of_decide_eq_false h
    rw [receiveCommand, Act.run_bind, run_lift]
    simp only [List.isEmpty_cons, Bool.false_eq_true, if_false, Res.index_zero_cons, Res.mapErr_ok,
      Bool.not_false, Bool.true_and, decide_eq_true_eq, hfirst]
    rfl

/-- A frame that is no block ends the call. -/
theorem run_receiveCommand_noBlock {s : Picc T} {raw : List UInt8} (h : isPps raw = false)
    {e : TypeAError} (hb : s.parseBlock raw = .err e) : (receiveCommand raw).run s =
      ((.err (.protocol e), s) : Res (PiccError E) Next × Picc T) := by
  rw [run_receiveCommand_block h, Act.run_bind, run_lift, hb]
  rfl

omit [Build] [PiccTransceiver T E] in
/-- An R(ACK) is no reply to an S(DESELECT). -/
@[simp] theorem isDeselectReply_buildRack (h : ProtocolHandler) :
    isDeselectReply h.buildRack = false := by
  simp only [ProtocolHandler.buildRack, ProtocolHandler.addCid]
  split <;> rfl

/-- The rounds of the two calls, once the frame is read: what is left is a match on what the handler
    says, with its state already in place. -/
theorem run_receiveCommand_read {picc : Picc T} {b : Block} {r : Res TypeAError Action}
    {k : ProtocolHandler} (hb : b.WellFormed) (h256 : b.bytes.length + 2 ≤ picc.fsc) :
    picc.handler.receive b = (r, k) →
    (receiveCommand (b.raw picc.hwCrc) : Act (Picc T) (PiccError E) Next).run picc =
      (match r with
        | .ok (.complete data) => pure (.ret (.apdu data))
        | .ok (.reply reply) => do
          sendBlock reply
          if isDeselectReply reply then do
            setState .halted
            Act.throw .deselected
          else pure (.wait .receiveCommand)
        | .ok .chainingRetransmit => do
          let self ← Act.get
          let last ← lift (Res.okOr .other self.lastSent)
          sendBlock last
          pure (.wait .receiveCommand)
        | .ok .chainingAck => Act.throw (.protocol .other)
        | .err e => Act.throw (.protocol e)
        | .panic => Act.panic
        | .outOfFuel => Act.outOfFuel : Act (Picc T) (PiccError E) Next).run (picc.withHandler k) := by
  intro hr
  have hfsc := picc.fsc_bounds
  have hparse := parseBlock_raw (s := picc) hb h256 (by omega)
  rw [run_receiveCommand_block (isPps_raw hb _), Act.run_bind, run_lift, hparse]
  simp only [Res.mapErr_ok]
  rw [Act.run_bind, run_onHandler_receive, ProtocolHandler.receive_wire, hr]
  cases r with
  | ok a => cases a <;> rfl
  | _ => rfl

/-- A round of `send_response`, once the frame is parsed. -/
theorem run_sendResponse_parsed {picc : Picc T} {raw : List UInt8} {b : Block}
    {r : Res TypeAError Action} {k : ProtocolHandler} (data : List UInt8) (inf stop : Nat)
    (iblock : Block) (hparse : picc.parseBlock raw = .ok b) :
    picc.handler.receive b = (r, k) →
    (sendResponse data inf stop iblock raw : Act (Picc T) (PiccError E) Next).run picc =
      (match r with
        | .ok .chainingAck => sendChunk data inf stop
        | .ok .chainingRetransmit => do
          sendBlock iblock
          pure (.wait (.sendResponse data inf stop iblock))
        | .ok (.reply reply) => do
          sendBlock reply
          if isDeselectReply reply then do
            setState .halted
            Act.throw .deselected
          else pure (.wait (.sendResponse data inf stop iblock))
        | .ok (.complete _) => Act.throw (.protocol .other)
        | .err e => Act.throw (.protocol e)
        | .panic => Act.panic
        | .outOfFuel => Act.outOfFuel : Act (Picc T) (PiccError E) Next).run (picc.withHandler k) := by
  intro hr
  rw [sendResponse, Act.run_get_bind, Act.run_bind, run_lift, hparse]
  simp only [Res.mapErr_ok]
  rw [Act.run_bind, run_onHandler_receive, hr]
  cases r with
  | ok a => cases a <;> rfl
  | _ => rfl

/-- The body of the loop of `send_response` at a block it can read, by what the handler makes of
    it. -/
theorem run_sendResponse_read {picc : Picc T} {b : Block}
    {r : Res TypeAError Action} {k : ProtocolHandler} (data : List UInt8) (inf stop : Nat)
    (iblock : Block) (hb : b.WellFormed) (h256 : b.bytes.length + 2 ≤ picc.fsc) :
    picc.handler.receive b = (r, k) →
    (sendResponse data inf stop iblock (b.raw picc.hwCrc) : Act (Picc T) (PiccError E) Next).run
      picc =
      (match r with
        | .ok .chainingAck => sendChunk data inf stop
        | .ok .chainingRetransmit => do
          sendBlock iblock
          pure (.wait (.sendResponse data inf stop iblock))
        | .ok (.reply reply) => do
          sendBlock reply
          if isDeselectReply reply then do
            setState .halted
            Act.throw .deselected
          else pure (.wait (.sendResponse data inf stop iblock))
        | .ok (.complete _) => Act.throw (.protocol .other)
        | .err e => Act.throw (.protocol e)
        | .panic => Act.panic
        | .outOfFuel => Act.outOfFuel : Act (Picc T) (PiccError E) Next).run (picc.withHandler k) := by
  intro hr
  have hfsc := picc.fsc_bounds
  refine run_sendResponse_parsed data inf stop iblock (parseBlock_raw hb h256 (by omega)) ?_
  rw [ProtocolHandler.receive_wire, hr]

end Picc

end Iso14443
