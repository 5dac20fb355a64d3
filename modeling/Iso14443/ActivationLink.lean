/-
  A reader activates a card of this library (`activate`, `wakeup`, `Picc::wait_for_activation`).

  The two sides split the UID and put it together without speaking of its length: each decides on
  its own which level is the last one, the card by counting and the reader by the SAK.

  * `Field`        — the card that waits for its activation, as a transceiver that loses nothing.
  * `uidParts_uidCl` — the levels, put together, are the UID, cascade tags or not.
  * `At`           — the invariant: after `n` frames each way the card is at this state, and
                     otherwise as it was.
  * `run_level`    — the two frames of one level, on both sides: the reader gets the card's five
                     bytes, selects them, and the SAK says whether there is another level.
  * `activates`    — the reader ends up with what the card is configured with.

  The reader's program is the same for all sizes of UID, the card's number of levels is not; so
  `run_doActivate` asks after each level whether it was the last one: the SAK says so to the reader
  exactly when the card is through with its levels.
-/
import Iso14443.Activation
import Iso14443.Cascade
import Iso14443.PcdStep

namespace Iso14443

open PiccSession

/-! ## The link

  The reader's transceiver is the card itself, without losses.  What the card sends on a frame is
  read off its log, the first frame past what was there before. -/

/-- A card in the field of a reader. -/
structure Field (T : Type) where
  session : PiccSession (Logged T)

/-- What the card sent on a frame, if it sent anything. -/
def Field.answerOf {T : Type} (before after : PiccSession (Logged T)) : Except Unit FrameVec :=
  match after.picc.sent.drop before.picc.sent.length with
  | [] => .error ()
  | frame :: _ => .ok frame.data

/-- A reader's call delivers a frame to the card, and its answer is what the card sent on it, if
    anything. -/
instance {T E : Type} [Build] [PiccTransceiver T E] : PcdTransceiver (Field T) Unit where
  transceive self frame :=
    let session := (deliver self.session (.ok frame.data)).2
    (Field.answerOf self.session session, ⟨session⟩)
  tryEnableHwCrc self := (if self.session.picc.hwCrc then .ok () else .error (), self)

/-! ## The UID, level by level

  What the card sends at a level against what the reader makes of it.  On every level but the last
  one the card puts the tag in front of three bytes, and the reader drops the first byte of four. -/

namespace Picc

variable {T : Type} {s : Picc T} {level : Nat}

/-- Four bytes and their BCC. -/
theorem uidCl_five (h : level < s.config.uid.cascadeLevels) :
    ∃ a b c d, s.uidCl level = [a, b, c, d, a ^^^ b ^^^ c ^^^ d] := by
  obtain ⟨bytes, hlen, hbytes⟩ := s.uidBccForLevel_bcc h
  obtain ⟨a, b, c, d, rfl⟩ := List.length_eq_four.mp hlen
  exact ⟨a, b, c, d, by rw [uidCl, hbytes]; simp⟩

/-- A list up to `n` is what comes before `m`, and then the rest. -/
theorem take_append_slice {α : Type} (l : List α) {m n : Nat} (h : m ≤ n) :
    l.take m ++ (l.take n).drop m = l.take n := by
  have htake : l.take m = (l.take n).take m := by rw [List.take_take, Nat.min_eq_left h]
  rw [htake, List.take_append_drop]

/-- **The levels, put together, are the UID.** The card cuts its UID into levels by its size, and
    the reader joins them by the number of levels it has seen; the two agree for each of the three
    sizes, whatever the bytes are. -/
theorem uidParts_uidCl {uidCls : List (Vector UInt8 5)}
    (h : uidCls.map Vector.toList = (List.range s.config.uid.cascadeLevels).map s.uidCl) :
    Activation.uidParts s.config.uid.cascadeLevels 0 uidCls = s.config.uid.asSlice := by
  have hlen : uidCls.length = s.config.uid.cascadeLevels := by simpa using congrArg List.length h
  cases hu : s.config.uid with
  | single u =>
    -- one level: no tag, four bytes
    rw [hu] at h hlen
    obtain ⟨cl1, rfl⟩ := List.length_eq_one_iff.mp hlen
    have h1 : cl1.toList = s.uidCl 0 := by simpa [Uid.cascadeLevels, List.range_succ] using h
    simp [Activation.uidParts, Activation.uidPart, Uid.cascadeLevels, h1, uidCl, uidBccForLevel, hu,
      Uid.asSlice, Res.slice]
  | double u =>
    -- a tag and three bytes, then four bytes
    rw [hu] at h hlen
    obtain ⟨cl1, cl2, rfl⟩ := List.length_eq_two.mp hlen
    obtain ⟨h1, h2⟩ : cl1.toList = s.uidCl 0 ∧ cl2.toList = s.uidCl 1 := by
      simpa [Uid.cascadeLevels, List.range_succ] using h
    have hparts : Activation.uidParts 2 0 [cl1, cl2] =
        u.toList.take 3 ++ (u.toList.take 7).drop 3 := by
      simp [Activation.uidParts, Activation.uidPart, h1, h2, uidCl, uidBccForLevel, hu,
        Uid.cascadeLevels, Uid.asSlice, Res.slice]
    show Activation.uidParts 2 0 [cl1, cl2] = u.toList
    rw [hparts, take_append_slice _ (by omega), List.take_of_length_le (by simp)]
  | triple u =>
    -- two levels with a tag, then four bytes
    rw [hu] at h hlen
    obtain ⟨cl1, cl2, cl3, rfl⟩ := List.length_eq_three.mp hlen
    obtain ⟨h1, h2, h3⟩ : cl1.toList = s.uidCl 0 ∧ cl2.toList = s.uidCl 1 ∧
        cl3.toList = s.uidCl 2 := by
      simpa [Uid.cascadeLevels, List.range_succ] using h
    have hparts : Activation.uidParts 3 0 [cl1, cl2, cl3] =
        (u.toList.take 3 ++ (u.toList.take 6).drop 3) ++ (u.toList.take 10).drop 6 := by
      simp [Activation.uidParts, Activation.uidPart, h1, h2, h3, uidCl, uidBccForLevel, hu,
        Uid.cascadeLevels, Uid.asSlice, Res.slice]
    show Activation.uidParts 3 0 [cl1, cl2, cl3] = u.toList
    rw [hparts, take_append_slice _ (by omega), take_append_slice _ (by omega),
      List.take_of_length_le (by simp)]

/-- The SAK of the last level says that the UID is complete. -/
theorem sakAt_last (h : level + 1 = s.config.uid.cascadeLevels) :
    (s.sakAt level).uidComplete = true ∧ s.sakAt level = ⟨true, s.config.is144434⟩ ∧
      s.selectedState level = .active := by
  have hlast : s.isLastCascadeLevel level = true := by
    simp only [isLastCascadeLevel, decide_eq_true_eq]
    omega
  simp [sakAt, selectedState, hlast]

/-- And that of any other level that it is not. -/
theorem sakAt_more (h : level + 1 < s.config.uid.cascadeLevels) :
    ¬ (s.sakAt level).uidComplete = true ∧ s.selectedState level = .ready (level + 1) := by
  have hlast : s.isLastCascadeLevel level = false := by
    simp only [isLastCascadeLevel, decide_eq_false_iff_not]
    omega
  simp [sakAt, selectedState, hlast]

end Picc

/-! ## One frame, on both sides -/

namespace Field

variable {T E : Type} [Build] [PiccTransceiver T E] {s picc : Picc (Logged T)} {level n : Nat}
  {t : Tally (Field T) Unit} {state : PiccState}

/-- `n` frames each way after `wait_for_activation` was called on `s`, the card is at `state`.  This
    is the invariant of the activation, level by level: the two logs have kept pace, and nothing has
    touched what the card is configured with. -/
structure At (s : Picc (Logged T)) (n : Nat) (state : PiccState) (t : Tally (Field T) Unit) :
    Prop where
  hwCrc : t.inner.session.picc.hwCrc = s.hwCrc
  config : t.inner.session.picc.config = s.config
  /-- The call returns once the card is selected. -/
  call : t.inner.session.call = if state = .active then none else some .waitForActivation
  state : t.inner.session.picc.state = state
  received : t.log.length = n
  sent : t.inner.session.picc.sent.length = s.sent.length + n

omit [Build] in
/-- An answer adds one frame to the log. -/
theorem sent_answered (picc : Picc (Logged T)) (reply : Frame) (next : PiccState) :
    (answered (E := E) picc reply next).2.picc.sent = picc.sent ++ [reply] := rfl

/-- A frame that is answered. -/
theorem At.transceive {reply : Frame} {next : PiccState} (h : At s n state t) (frame : Frame)
    (hd : deliver t.inner.session (.ok frame.data : Except E FrameVec) =
      answered t.inner.session.picc reply next) :
    ∃ t', PcdTransceiver.transceive t frame = (.ok reply.data, t') ∧ At s (n + 1) next t' := by
  obtain ⟨⟨picc, call⟩, log⟩ := t
  refine ⟨⟨⟨(answered (E := E) picc reply next).2⟩, log ++ [(frame, .ok reply.data)]⟩, ?_, ?_⟩
  · apply Pcd.transceive_tally
    show (answerOf _ (deliver _ (.ok frame.data : Except E FrameVec)).2, (⟨_⟩ : Field T)) = _
    rw [hd]
    have hanswer : answerOf ⟨picc, call⟩ (answered (E := E) picc reply next).2 = .ok reply.data := by
      rw [answerOf, sent_answered, List.drop_left]
    rw [hanswer]
  · have hsent : picc.sent.length = s.sent.length + n := h.sent
    have hlog : log.length = n := h.received
    refine ⟨h.hwCrc, h.config, rfl, rfl, ?_, ?_⟩
    · rw [List.length_append, hlog, List.length_singleton]
    · show (answered (E := E) picc reply next).2.picc.sent.length = _
      rw [sent_answered, List.length_append, hsent, List.length_singleton, Nat.add_assoc]

omit [Build] in
/-- The card waits, as long as it is not selected. -/
theorem At.session (h : At s n (.ready level) t) :
    t.inner.session = ⟨t.inner.session.picc, some .waitForActivation⟩ := by
  have hcall := h.call
  rw [if_neg (by simp)] at hcall
  obtain ⟨⟨⟨picc, call⟩⟩, log⟩ := t
  obtain rfl : call = some .waitForActivation := hcall
  rfl

/-! ## One level

  An anticollision, and a SELECT with what it brought.  The card goes on to the next level, or is
  active after its last one. -/

/-- **One level**: the reader gets the card's bytes and its SAK. Two calls, and the card is at the
    next level, or selected if this was the last one. -/
theorem At.run_level (htakes : PiccTransceiver.Takes T) (h : At s n (.ready level) t)
    (hlevel : level < s.config.uid.cascadeLevels) :
    ∃ (cl : Vector UInt8 5) (t' t'' : Tally (Field T) Unit), cl.toList = s.uidCl level ∧
      (Activation.doAnticollision (Picc.selOf level)).run t = (.ok cl, t') ∧
      (Activation.doSelect (Picc.selOf level) cl s.hwCrc).run t' = (.ok (s.sakAt level), t'') ∧
      At s (n + 1 + 1) (s.selectedState level) t'' := by
  obtain ⟨a, b, c, d, hcl⟩ := Picc.uidCl_five hlevel
  -- SEL and NVB
  have hgiven := deliver_anticollision (E := E) htakes h.state (by rw [h.config]; exact hlevel)
  rw [← h.session] at hgiven
  obtain ⟨t', hanti, h'⟩ := h.transceive (.bitOriented (Picc.anticollisionFrame level)) hgiven
  rw [Picc.uidCl_congr h.config, hcl] at hanti
  -- the SELECT
  have hselect := deliver_select (E := E) htakes h'.state (by rw [h'.config]; exact hlevel)
  have hframe : t'.inner.session.picc.selectFrame level =
      closed s.hwCrc (Picc.selOf level :: 0x70 :: s.uidCl level) := by
    rw [Picc.selectFrame, h'.hwCrc, Picc.uidCl_congr h'.config]
  have hlast : t'.inner.session.picc.isLastCascadeLevel level = s.isLastCascadeLevel level := by
    simp only [Picc.isLastCascadeLevel, h'.config]
  have hsak : t'.inner.session.picc.sakAt level = s.sakAt level := by
    simp only [Picc.sakAt, hlast, h'.config]
  have hnext : t'.inner.session.picc.selectedState level = s.selectedState level := by
    simp only [Picc.selectedState, hlast]
  rw [← h'.session, hframe, hsak, hnext, h'.hwCrc] at hselect
  obtain ⟨t'', hsel, h''⟩ := h'.transceive
    (.standard (closed s.hwCrc (Picc.selOf level :: 0x70 :: s.uidCl level))) hselect
  refine ⟨#v[a, b, c, d, a ^^^ b ^^^ c ^^^ d], t', t'', hcl.symm, ?_, ?_, h''⟩
  · exact Activation.run_doAnticollision rfl hanti
  · apply Activation.run_doSelect
    rw [hcl] at hsel
    exact hsel

/-- What the reader goes on with after a level. -/
theorem At.run_level_bind (htakes : PiccTransceiver.Takes T) (h : At s n (.ready level) t)
    (hlevel : level < s.config.uid.cascadeLevels) :
    ∃ (cl : Vector UInt8 5) (t' : Tally (Field T) Unit), cl.toList = s.uidCl level ∧
      At s (n + 1 + 1) (s.selectedState level) t' ∧
      ∀ k : Vector UInt8 5 → Sak → Act (Tally (Field T) Unit) (ActivationError Unit) Activation,
        (do
          let cl ← Activation.doAnticollision (Picc.selOf level)
          let sak ← Activation.doSelect (Picc.selOf level) cl s.hwCrc
          k cl sak).run t = (k cl (s.sakAt level)).run t' := by
  obtain ⟨cl, t', t'', hcl, hanti, hsel, h'⟩ := h.run_level htakes hlevel
  refine ⟨cl, t'', hcl, h', fun k => ?_⟩
  rw [Act.run_bind_ok hanti, Act.run_bind_ok hsel]

/-! ## The whole activation

  The request, and then level after level, with the program of the reader and the state of the card
  taken forward together. -/

/-- The request, and what comes back. -/
theorem run_request (htakes : PiccTransceiver.Takes T) (s : Picc (Logged T)) {req : Command}
    (hreq : req = .reqA ∨ req = .wupA) :
    ∃ (frame : Frame) (t : Tally (Field T) Unit), req.toFrame = .ok frame ∧
      PcdTransceiver.transceive (⟨⟨activating (E := E) s⟩, []⟩ : Tally (Field T) Unit) frame =
        (.ok s.config.atqa.toBytes, t) ∧ At s 1 (.ready 0) t := by
  have hat : At s 0 .idle (⟨⟨activating (E := E) s⟩, []⟩ : Tally (Field T) Unit) :=
    ⟨rfl, rfl, rfl, rfl, rfl, rfl⟩
  obtain ⟨byte, hbyte, hframe⟩ := Activation.toFrame_request hreq
  have hidle : deliver (activating (E := E) s) (.ok [byte]) =
      answered (activating (E := E) s).picc (.short s.config.atqa.toBytes) (.ready 0) := by
    have h := deliver_idle (E := E) htakes (show (activating (E := E) s).picc.state = .idle from rfl)
      [byte]
    rw [if_pos (by simpa using hbyte)] at h
    exact h
  obtain ⟨t, ht, h⟩ := hat.transceive (.short [byte]) hidle
  exact ⟨_, t, hframe, ht, h⟩

/-- What an activation of this card brings. -/
def activationOf (s : Picc T) : Activation :=
  { atqa := s.config.atqa, sak := ⟨true, s.config.is144434⟩, uid := s.config.uid.asSlice }

/-- The UID the reader puts together. -/
theorem run_buildActivation {uidCls : List (Vector UInt8 5)} {levels : Nat}
    (hlevels : s.config.uid.cascadeLevels = levels) (hlen : uidCls.length = levels)
    (hcls : uidCls.map Vector.toList = (List.range levels).map s.uidCl) (t : Tally (Field T) Unit) :
    (Activation.lift (Activation.buildActivation s.config.atqa ⟨true, s.config.is144434⟩ uidCls
      levels)).run t =
      ((.ok (activationOf s), t) : Res (ActivationError Unit) Activation × Tally (Field T) Unit) := by
  subst hlevels
  have hle := Picc.cascadeLevels_le s.config.uid
  rw [Activation.run_lift, Activation.buildActivation_eq _ _ hle.1 (by omega),
    Picc.uidParts_uidCl hcls]
  rfl

/-- The last level: the UID is complete, and the card is active. -/
theorem At.run_last {k : Nat} (h : At s k (s.selectedState level) t)
    (hlast : level + 1 = s.config.uid.cascadeLevels) {uidCls : List (Vector UInt8 5)}
    (hlen : uidCls.length = level + 1)
    (hcls : uidCls.map Vector.toList = (List.range (level + 1)).map s.uidCl)
    (more : Act (Tally (Field T) Unit) (ActivationError Unit) Activation) :
    (if (s.sakAt level).uidComplete then
        Activation.lift (Activation.buildActivation s.config.atqa (s.sakAt level) uidCls (level + 1))
      else more).run t = (.ok (activationOf s), t) ∧ At s k .active t := by
  obtain ⟨hcomplete, hsak, hstate⟩ := Picc.sakAt_last hlast
  rw [if_pos hcomplete, hsak, run_buildActivation hlast.symm hlen hcls]
  rw [hstate] at h
  exact ⟨rfl, h⟩

/-- Up to the first level: the probe of the CRC mode and the request, after which the card is ready.
    What is left of `do_activate` is the cascade, written out. -/
theorem run_doActivate_start (htakes : PiccTransceiver.Takes T) (s : Picc (Logged T)) {req : Command}
    (hreq : req = .reqA ∨ req = .wupA) :
    ∃ t : Tally (Field T) Unit, At s 1 (.ready 0) t ∧ (Activation.doActivate req).run
        (⟨⟨activating (E := E) s⟩, []⟩ : Tally (Field T) Unit) = (do
      let uidCl1 ← Activation.doAnticollision selCl1
      let sak ← Activation.doSelect selCl1 uidCl1 s.hwCrc
      if sak.uidComplete then Activation.lift (Activation.buildActivation s.config.atqa sak [uidCl1] 1)
      else do
        let uidCl2 ← Activation.doAnticollision selCl2
        let sak ← Activation.doSelect selCl2 uidCl2 s.hwCrc
        if sak.uidComplete then
          Activation.lift (Activation.buildActivation s.config.atqa sak [uidCl1, uidCl2] 2)
        else do
          let uidCl3 ← Activation.doAnticollision selCl3
          let sak ← Activation.doSelect selCl3 uidCl3 s.hwCrc
          if sak.uidComplete then
            Activation.lift (Activation.buildActivation s.config.atqa sak [uidCl1, uidCl2, uidCl3] 3)
          else Act.throw (.protocol .other) :
        Act (Tally (Field T) Unit) (ActivationError Unit) Activation).run t := by
  obtain ⟨frame, t, hframe, hatqa, hat⟩ := run_request (E := E) htakes s hreq
  -- the probe finds the CRC mode of the card
  have hcrc : Activation.tryEnableHwCrc.run (⟨⟨activating (E := E) s⟩, []⟩ : Tally (Field T) Unit) =
      ((.ok s.hwCrc, ⟨⟨activating (E := E) s⟩, []⟩) :
        Res (ActivationError Unit) Bool × Tally (Field T) Unit) := by
    have hpicc : (activating (E := E) s).picc.hwCrc = s.hwCrc := rfl
    simp only [Activation.tryEnableHwCrc, PcdTransceiver.tryEnableHwCrc, hpicc]
    cases s.hwCrc <;> rfl
  -- the reader gets the ATQA that the card sent
  have hread : AtqA.tryFrom s.config.atqa.toBytes = .ok s.config.atqa := by
    rw [AtqA.tryFrom_toBytes]
    simp [PiccConfig.atqa]
  refine ⟨t, hat, ?_⟩
  rw [Activation.doActivate, Act.run_bind_ok hcrc, Act.run_bind, Activation.run_lift, hframe]
  simp only [Res.mapErr_ok]
  rw [Act.run_bind_ok (Activation.run_transceive hatqa), Act.run_bind, Activation.run_lift, hread]
  rfl

/-- The reader's activation goes through against the card, from REQA or from WUPA. Level by level:
    the SAK of the card says whether there is another one. -/
theorem run_doActivate (htakes : PiccTransceiver.Takes T) (s : Picc (Logged T)) {req : Command}
    (hreq : req = .reqA ∨ req = .wupA) :
    ∃ t : Tally (Field T) Unit, (Activation.doActivate req).run
        (⟨⟨activating (E := E) s⟩, []⟩ : Tally (Field T) Unit) = (.ok (activationOf s), t) ∧
      At s (1 + 2 * s.config.uid.cascadeLevels) .active t := by
  obtain ⟨t0, h0, hrun⟩ := run_doActivate_start (E := E) htakes s hreq
  rw [hrun]
  have hle := Picc.cascadeLevels_le s.config.uid
  -- the first level, which every card has
  obtain ⟨cl1, t1, hcl1, h1, hrun1⟩ := h0.run_level_bind htakes (by omega)
  rw [show selCl1 = Picc.selOf 0 from rfl, hrun1]
  rcases Nat.lt_or_eq_of_le hle.1 with hmore1 | hlast1
  · rw [if_neg (Picc.sakAt_more hmore1).1]
    rw [(Picc.sakAt_more hmore1).2] at h1
    -- the second level
    obtain ⟨cl2, t2, hcl2, h2, hrun2⟩ := h1.run_level_bind htakes hmore1
    rw [show selCl2 = Picc.selOf (0 + 1) from rfl, hrun2]
    rcases Nat.lt_or_eq_of_le (Nat.succ_le_of_lt hmore1) with hmore2 | hlast2
    · rw [if_neg (Picc.sakAt_more hmore2).1]
      rw [(Picc.sakAt_more hmore2).2] at h2
      -- the third
      obtain ⟨cl3, t3, hcl3, h3, hrun3⟩ := h2.run_level_bind htakes hmore2
      rw [show selCl3 = Picc.selOf (0 + 1 + 1) from rfl, hrun3]
      have hlast3 : 0 + 1 + 1 + 1 = s.config.uid.cascadeLevels := by omega
      rw [← hlast3]
      exact ⟨t3, h3.run_last hlast3 rfl (by simp [hcl1, hcl2, hcl3, List.range_succ]) _⟩
    · rw [← hlast2]
      exact ⟨t2, h2.run_last hlast2 rfl (by simp [hcl1, hcl2, List.range_succ]) _⟩
  · rw [← hlast1]
    exact ⟨t1, h1.run_last hlast1 rfl (by simp [hcl1, List.range_succ]) _⟩

/-! ### What the reader learns

  The activation is compared with the configuration itself, field by field, and not with what the card
  makes of its configuration: the size of the UID is read off its bytes, and with it the number of
  levels the two sides go through. -/

/-- **The activation says what the card is configured with**: its UID, the size of it and the time slots
    in the ATQA, and in the SAK that the UID is complete and whether the card speaks ISO 14443-4.
    `levels` is the number of cascade levels a UID of this size takes. -/
structure Reports (config : PiccConfig) (a : Activation) (levels : Nat) : Prop where
  /-- The bytes of the UID, its size, and its levels. -/
  uid : match config.uid with
    | .single u => a.uid = u.toList ∧ a.atqa.uidSize = .single ∧ levels = 1
    | .double u => a.uid = u.toList ∧ a.atqa.uidSize = .double ∧ levels = 2
    | .triple u => a.uid = u.toList ∧ a.atqa.uidSize = .triple ∧ levels = 3
  /-- The time slots. -/
  bitFrameAc : a.atqa.bitFrameAc = config.bitFrameAc
  /-- No proprietary coding. -/
  proprietaryCoding : a.atqa.proprietaryCoding = 0
  /-- No further level is asked for. -/
  uidComplete : a.sak.uidComplete = true
  /-- A card with an ATS speaks ISO 14443-4. -/
  compliant : a.sak.iso144434Compliant = config.ats.isSome

omit [PiccTransceiver T E] [Build] in
/-- What this card brings is what it is configured with. -/
theorem reports_activationOf (s : Picc (Logged T)) :
    Reports s.config (activationOf s) s.config.uid.cascadeLevels := by
  constructor
  · show (match s.config.uid with
      | .single u => s.config.uid.asSlice = u.toList ∧ s.config.uid.uidSize = .single ∧
        s.config.uid.cascadeLevels = 1
      | .double u => s.config.uid.asSlice = u.toList ∧ s.config.uid.uidSize = .double ∧
        s.config.uid.cascadeLevels = 2
      | .triple u => s.config.uid.asSlice = u.toList ∧ s.config.uid.uidSize = .triple ∧
        s.config.uid.cascadeLevels = 3)
    cases s.config.uid with
    | single u => exact ⟨rfl, rfl, rfl⟩
    | double u => exact ⟨rfl, rfl, rfl⟩
    | triple u => exact ⟨rfl, rfl, rfl⟩
  · rfl
  · rfl
  · rfl
  · rfl

/-- **An activation reconstructs what the card is configured with**: the UID, its size and the time
    slots in the ATQA, and the SAK of the last level.  It leaves the card active, after one frame each
    way for the request and two for every level. -/
theorem activates (htakes : PiccTransceiver.Takes T) (s : Picc (Logged T))
    {m : Act (Tally (Field T) Unit) (ActivationError Unit) Activation}
    (hm : m = Activation.activate ∨ m = Activation.wakeup) :
    ∃ (a : Activation) (levels : Nat) (t : Tally (Field T) Unit),
      m.run ⟨⟨activating (E := E) s⟩, []⟩ = (.ok a, t) ∧
      Reports s.config a levels ∧
      t.inner.session.call = none ∧ t.inner.session.picc.state = .active ∧
      t.log.length = 1 + 2 * levels ∧
      t.inner.session.picc.sent.length = s.sent.length + (1 + 2 * levels) := by
  have hrun : ∃ req : Command, (req = .reqA ∨ req = .wupA) ∧ m = Activation.doActivate req := by
    rcases hm with rfl | rfl
    · exact ⟨.reqA, Or.inl rfl, rfl⟩
    · exact ⟨.wupA, Or.inr rfl, rfl⟩
  obtain ⟨req, hreq, rfl⟩ := hrun
  obtain ⟨t, hrun, hat⟩ := run_doActivate (E := E) htakes s hreq
  exact ⟨activationOf s, s.config.uid.cascadeLevels, t, hrun, reports_activationOf s, hat.call,
    hat.state, hat.received, hat.sent⟩

/-- A card whose UID has ten bytes and starts with the byte of the cascade tag.  It has four time slots,
    and an ATS. -/
def taggedCard : Picc (Logged Willing) :=
  Picc.new { inner := {} }
    { uid := .triple #v[0x88, 0x01, 0x88, 0x03, 0x04, 0x88, 0x06, 0x07, 0x08, 0x88]
      bitFrameAc := .slot4
      ats := some (Ats.new .fsc64 0 {} 0) }

omit [Build] in
/-- The three levels of that card, and what its ATQA and its SAK say. -/
theorem activates_tagged : let : Build := Build.heap
    ∃ (a : Activation) (t : Tally (Field Willing) Unit),
      Activation.wakeup.run ⟨⟨activating (E := Unit) taggedCard⟩, []⟩ =
        ((.ok a, t) : Res (ActivationError Unit) Activation × Tally (Field Willing) Unit) ∧
      a.uid = [0x88, 0x01, 0x88, 0x03, 0x04, 0x88, 0x06, 0x07, 0x08, 0x88] ∧
      a.atqa.uidSize = .triple ∧ a.atqa.bitFrameAc = .slot4 ∧
      a.sak.uidComplete = true ∧ a.sak.iso144434Compliant = true ∧
      t.inner.session.call = none ∧ t.inner.session.picc.state = .active ∧
      t.log.length = 7 ∧ t.inner.session.picc.sent.length = 7 := by
  intro _
  obtain ⟨a, levels, t, hrun, hreports, hcall, hstate, hlog, hsent⟩ :=
    activates (fun _ _ => rfl) taggedCard (Or.inr rfl)
  obtain ⟨huid, hsize, rfl⟩ := hreports.uid
  exact ⟨a, t, hrun, huid, hsize, hreports.bitFrameAc, hreports.uidComplete, hreports.compliant,
    hcall, hstate, hlog, hsent⟩

end Field

end Iso14443
