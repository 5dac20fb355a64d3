/-
  Which card a SELECT selects (`Picc::wait_for_activation`, `handle_ready`).

  A card leaves a cascade level when it is sent a SELECT of that level, whatever UID the SELECT
  names: five bytes are counted, and not compared.  So a card becomes active on the selection of
  another card in the field.  Where every SELECT of its level names the card itself, nothing is
  wrong.

  * `Own`, `Foreign`  — the SELECT frames that name this card, and another one.
  * `SelectedAsItself` — what should hold: whenever the call returns, the card was sent a request
                        and its own SELECT of every level, in order; and a foreign one is not
                        answered, and moves nothing.
  * `Activated`       — one frame, by what the card does with it.
  * `Selecting`, `Honest` — the invariant, by the frames received so far.  `Selecting` says what
                        holds of any card on its way, `Honest` what holds besides if no SELECT of
                        its level named another card: the levels behind it are levels it was
                        selected at.
  * `selected_iff`    — the card is selected by its own UID alone if and only if no foreign SELECT
                        of its level reaches it.

  The condition is on the frames and the state before each of them; what the card answers does not
  enter into it.
-/
import Iso14443.PiccStep

namespace Iso14443

namespace Picc

variable {T E : Type}

/-- A SELECT of this level that names this card. -/
def Own (s : Picc T) (level : Nat) (raw : List UInt8) : Prop :=
  ∃ uid, s.IsSelect level raw uid ∧ s.uidBccForLevel level = .ok uid

/-- A SELECT of this level that names another card. -/
def Foreign (s : Picc T) (level : Nat) (raw : List UInt8) : Prop :=
  ∃ uid, s.IsSelect level raw uid ∧ s.uidBccForLevel level ≠ .ok uid

/-- The frames received contain a request and then, in order, this card's SELECT frames of the
    first `n` levels. -/
def Selected (s : Picc T) (n : Nat) (received : List (Except E FrameVec)) : Prop :=
  ∃ (request : FrameVec) (selects : List FrameVec),
    List.Sublist ((request :: selects).map Except.ok) received ∧
    (request = [0x26] ∨ request = [0x52]) ∧ selects.length = n ∧
    ∀ level (h : level < selects.length), s.Own level selects[level]

variable {s s' : Picc T}

/-- A SELECT is the same for a card in another state. -/
theorem IsSelect.congr {level : Nat} {raw uid : List UInt8} (hcrc : s'.hwCrc = s.hwCrc)
    (h : s'.IsSelect level raw uid) : s.IsSelect level raw uid := by
  obtain ⟨sel, hsel, hdata, hlen⟩ := h
  exact ⟨sel, hsel, by rw [← hdata]; simp only [stripCrc, hcrc], hlen⟩

/-- So are the UID bytes of a level, which are in the configuration. -/
theorem uidBccForLevel_congr (hconfig : s'.config = s.config) (level : Nat) :
    s'.uidBccForLevel level = s.uidBccForLevel level := by
  simp only [uidBccForLevel, hconfig]

/-- Another card's SELECT stays another card's. -/
theorem Foreign.congr {level : Nat} {raw : List UInt8} (hcrc : s'.hwCrc = s.hwCrc)
    (hconfig : s'.config = s.config) (h : s'.Foreign level raw) : s.Foreign level raw := by
  obtain ⟨uid, hsel, hne⟩ := h
  exact ⟨uid, hsel.congr hcrc, by rw [← uidBccForLevel_congr hconfig]; exact hne⟩

/-- The card's own SELECT stays its own. -/
theorem Own.congr {level : Nat} {raw : List UInt8} (hcrc : s'.hwCrc = s.hwCrc)
    (hconfig : s'.config = s.config) (h : s'.Own level raw) : s.Own level raw := by
  obtain ⟨uid, hsel, he⟩ := h
  exact ⟨uid, hsel.congr hcrc, by rw [← uidBccForLevel_congr hconfig]; exact he⟩

/-- A SELECT names one card, at one level. -/
theorem IsSelect.unique {level level' : Nat} {raw uid uid' : List UInt8}
    (h : s.IsSelect level raw uid) (h' : s.IsSelect level' raw uid') :
    level = level' ∧ uid = uid' := by
  obtain ⟨sel, hsel, hdata, -⟩ := h
  obtain ⟨sel', hsel', hdata', -⟩ := h'
  rw [hdata] at hdata'
  obtain ⟨rfl, rfl⟩ : sel = sel' ∧ uid = uid' := by simpa using hdata'
  refine ⟨?_, rfl⟩
  -- the three SEL bytes differ
  match level, level' with
  | 0, 0 => rfl
  | 1, 1 => rfl
  | 2, 2 => rfl
  | 0, 1 => rw [← hsel'] at hsel; cases hsel
  | 0, 2 => rw [← hsel'] at hsel; cases hsel
  | 1, 0 => rw [← hsel'] at hsel; cases hsel
  | 1, 2 => rw [← hsel'] at hsel; cases hsel
  | 2, 0 => rw [← hsel'] at hsel; cases hsel
  | 2, 1 => rw [← hsel'] at hsel; cases hsel
  | n + 3, _ => cases hsel
  | _, n + 3 => cases hsel'

/-- What was selected stays selected whatever is received afterwards. -/
theorem Selected.mono {n : Nat} {received : List (Except E FrameVec)} (h : s.Selected n received)
    (r : Except E FrameVec) : s.Selected n (received ++ [r]) := by
  obtain ⟨request, selects, hsub, hrest⟩ := h
  exact ⟨request, selects, hsub.trans (List.sublist_append_left _ _), hrest⟩

/-- The request comes first. -/
theorem Selected.zero {raw : FrameVec} (h : raw = [0x26] ∨ raw = [0x52])
    (received : List (Except E FrameVec)) : s.Selected 0 (received ++ [.ok raw]) :=
  ⟨raw, [], List.sublist_append_right _ _, h, rfl, fun level hlevel => absurd hlevel (by simp)⟩

/-- One level more. -/
theorem Selected.succ {n : Nat} {received : List (Except E FrameVec)} (h : s.Selected n received)
    {raw : FrameVec} (hown : s.Own n raw) : s.Selected (n + 1) (received ++ [.ok raw]) := by
  obtain ⟨request, selects, hsub, hreq, hlen, hall⟩ := h
  refine ⟨request, selects ++ [raw], ?_, hreq, by simp [hlen], ?_⟩
  · have h1 := hsub.append (List.Sublist.refl [(Except.ok raw : Except E FrameVec)])
    simpa using h1
  · intro level hlevel
    by_cases hlt : level < selects.length
    · rw [List.getElem_append_left hlt]
      exact hall level hlt
    · obtain rfl : level = selects.length := by
        rw [List.length_append, List.length_singleton] at hlevel; omega
      rw [List.getElem_append_right (Nat.le_refl _)]
      simpa [hlen] using hown

end Picc

namespace PiccSession

variable {T E : Type} [Build] [PiccTransceiver T E]

/-- A frame arrives. -/
def deliver (x : PiccSession T) (received : Except E FrameVec) :
    Option (Res (PiccError E) Outcome) × PiccSession T := x.step (.frame received)

/-- What one frame did to a card whose answers are logged. -/
abbrev Delivery (T E : Type) :=
  Run.Event (PiccSession (Logged T)) (Except E FrameVec) (Option (Res (PiccError E) Outcome))

/-- `wait_for_activation` called on this card. -/
def activating (s : Picc (Logged T)) : PiccSession (Logged T) :=
  (step (E := E) ⟨s, none⟩ (.call .waitForActivation)).2

/-- The call, and what is received. -/
def activation (s : Picc (Logged T)) (received : List (Except E FrameVec)) :
    List (Delivery T E) := Run.trace deliver (activating (E := E) s) received

/-- **Selected as itself.**  Whenever the call returns `Ok`, the frames received so far hold a
    request and the card's own SELECT of every level, in order; and a SELECT that names another
    card is not answered, and moves nothing. -/
def SelectedAsItself (s : Picc (Logged T)) (received : List (Except E FrameVec)) : Prop :=
  (∀ l e r, activation s received = l ++ e :: r → e.output = some (.ok .unit) →
    s.Selected s.config.uid.cascadeLevels ((l ++ [e]).map Run.Event.input)) ∧
  ∀ e ∈ activation s received, ∀ level raw, e.input = .ok raw →
    e.before.picc.Foreign level raw →
    e.after.picc.sent = e.before.picc.sent ∧ e.after.picc.state = e.before.picc.state

/-- A SELECT of the level the card is at, for another card. -/
def Delivery.misled (e : Delivery T E) : Prop :=
  ∃ level raw, e.before.call = some .waitForActivation ∧ e.before.picc.state = .ready level ∧
    e.input = .ok raw ∧ e.before.picc.Foreign level raw

/-! ## One frame

  What can happen to a card on its way, frame by frame. -/

/-- What one frame does to a card that waits for its activation. -/
inductive Activated (x : PiccSession (Logged T)) (received : Except E FrameVec) :
    Option (Res (PiccError E) Outcome) × PiccSession (Logged T) → Prop
  /-- The frame is answered, and the card moves on. -/
  | answered {raw frame state} (hr : received = .ok raw) (ha : x.picc.Answers raw frame state) :
      Activated x received (if state = .active then some (.ok .unit) else none,
        ⟨{ x.picc.afterSend frame with state },
          if state = .active then none else some .waitForActivation⟩)
  /-- The frame is answered, but the transceiver fails. -/
  | refused {raw frame state e} (hr : received = .ok raw) (ha : x.picc.Answers raw frame state) :
      Activated x received (some (.err e), ⟨x.picc.afterSend frame, none⟩)
  /-- Nothing is sent. -/
  | ignored : Activated x received (none, x)
  | failed {e} : Activated x received (some (.err e), ⟨x.picc, none⟩)

/-- A card that waits for its activation does one of these on any frame. -/
theorem step_activated {x : PiccSession (Logged T)} (hcall : x.call = some .waitForActivation)
    (hs : x.picc.state ≠ .active ∧ x.picc.state ≠ .protocol) (received : Except E FrameVec) :
    Activated x received (deliver x received) := by
  obtain ⟨picc, call⟩ := x
  obtain rfl : call = some .waitForActivation := hcall
  cases received with
  | error e => exact .failed
  | ok raw =>
    show Activated _ _ (advance picc (Picc.waitForActivation raw))
    rcases Picc.waitForActivation_cases (s := picc) raw hs with
      ⟨frame, state, ha, hrun⟩ | ⟨r, rfl | ⟨e, rfl⟩, hrun⟩
    · rw [advance, hrun, Picc.answer]
      rcases picc.sendResult_cases frame with hsend | ⟨e, hsend⟩ <;> rw [hsend]
      · have h : Activated ⟨picc, some .waitForActivation⟩ (.ok raw : Except E FrameVec) _ :=
          .answered rfl ha
        by_cases hactive : state = .active <;>
          simp only [Picc.afterRound, hactive, if_true, if_false] at h ⊢ <;> exact h
      · exact .refused rfl ha
    · rw [advance, hrun]
      exact .ignored
    · rw [advance, hrun]
      exact .failed

/-- A card nobody waits on takes no frame. -/
theorem deliver_none {x : PiccSession T} (hcall : x.call = none) (received : Except E FrameVec) :
    deliver x received = (none, x) := by
  obtain ⟨picc, call⟩ := x
  obtain rfl : call = none := hcall
  rfl

/-! ## The invariant

  By the frames received so far: which levels the card has been through, and with whose SELECT. -/

/-- What holds of a card on its way: it is configured as `s` is, and waits at a level of its UID, or
    the call has returned. -/
structure Selecting (s : Picc (Logged T)) (x : PiccSession (Logged T)) : Prop where
  hwCrc : x.picc.hwCrc = s.hwCrc
  config : x.picc.config = s.config
  call : x.call = none ∨ x.call = some .waitForActivation ∧ (x.picc.state = .idle ∨
    ∃ level, x.picc.state = .ready level ∧ level < s.config.uid.cascadeLevels)

/-- And what holds of it if no SELECT of its level named another card: the SELECT of every level
    below was one for its own UID. -/
def Honest (s : Picc (Logged T)) (received : List (Except E FrameVec))
    (x : PiccSession (Logged T)) : Prop :=
  x.call = some .waitForActivation → ∀ level, x.picc.state = .ready level →
    s.Selected level received

variable {s : Picc (Logged T)} {x : PiccSession (Logged T)}

omit [Build] in
/-- The state a card waits in. -/
theorem Selecting.state (h : Selecting s x) (hcall : x.call = some .waitForActivation) :
    x.picc.state ≠ .active ∧ x.picc.state ≠ .protocol := by
  rcases h.call with hnone | ⟨-, hs | ⟨level, hs, -⟩⟩
  · rw [hnone] at hcall; cases hcall
  all_goals rw [hs]; exact ⟨by simp, by simp⟩

/-- **One frame keeps the card on its way.** The frame is one of four kinds (`Activated`), and only
    an answer moves the state. -/
theorem Selecting.deliver (h : Selecting s x) (received : Except E FrameVec) :
    Selecting s (deliver x received).2 := by
  have hcalls := h.call
  rcases hcalls with hnone | ⟨hcall, hstate⟩
  · rw [deliver_none hnone]; exact h
  · have hact := step_activated hcall (h.state hcall) received
    generalize PiccSession.deliver x received = p at hact ⊢
    cases hact with
    | @answered raw frame state hr ha =>
      refine ⟨h.hwCrc, h.config, ?_⟩
      by_cases hactive : state = .active
      · simp [hactive]
      · refine Or.inr ⟨by simp [hactive], ?_⟩
        dsimp only
        cases ha with
        | request hs hr => exact Or.inr ⟨0, rfl, (Picc.cascadeLevels_le _).1⟩
        | wakeup hs hr => exact Or.inr ⟨0, rfl, (Picc.cascadeLevels_le _).1⟩
        | anticollision hs hr frame => exact hstate
        | @select level uid hs hr =>
          have hlast : x.picc.isLastCascadeLevel level = false := by
            cases hl : x.picc.isLastCascadeLevel level with
            | false => rfl
            | true => exact absurd (by simp [Picc.selectedState, hl]) hactive
          refine Or.inr ⟨level + 1, by simp [Picc.selectedState, hlast], ?_⟩
          simp only [Picc.isLastCascadeLevel, h.config, decide_eq_false_iff_not] at hlast
          omega
    | refused hr ha => exact ⟨h.hwCrc, h.config, Or.inl rfl⟩
    | ignored => exact h
    | failed => exact ⟨h.hwCrc, h.config, Or.inl rfl⟩

/-- **One frame keeps the card honest**, unless it names another card; and the call returns only
    when every level was selected. -/
theorem Honest.deliver {received : List (Except E FrameVec)} {r : Except E FrameVec}
    (h : Selecting s x) (hh : Honest s received x)
    (hclean : ¬ Delivery.misled (Run.event PiccSession.deliver x r)) :
    Honest s (received ++ [r]) (deliver x r).2 ∧
      ((deliver x r).1 = some (.ok .unit) →
        s.Selected s.config.uid.cascadeLevels (received ++ [r])) := by
  rcases h.call with hnone | ⟨hcall, hstate⟩
  · rw [deliver_none hnone]
    exact ⟨fun hsome => absurd (hnone.symm.trans hsome) (by simp), by simp⟩
  · have hact := step_activated hcall (h.state hcall) r
    generalize hp : PiccSession.deliver x r = p at hact ⊢
    cases hact with
    | @answered raw frame state hr ha =>
      subst hr
      cases ha with
      | request hs hr =>
        refine ⟨fun _ level hlevel => ?_, by simp⟩
        obtain rfl : 0 = level := by simpa using hlevel
        exact .zero hr received
      | wakeup hs hr =>
        refine ⟨fun _ level hlevel => ?_, by simp⟩
        obtain rfl : 0 = level := by simpa using hlevel
        exact .zero (Or.inr hr) received
      | @anticollision level hs hr frame =>
        refine ⟨fun _ l hl => (hh hcall l hl).mono _, ?_⟩
        simp [hs]
      | @select level uid hs hr =>
        -- the SELECT names this card, or the run was misled
        have hown : x.picc.Own level raw := by
          refine ⟨uid, hr, Classical.not_not.mp fun hne => hclean ?_⟩
          exact ⟨level, raw, hcall, hs, rfl, uid, hr, hne⟩
        have hnext := (hh hcall level hs).succ (hown.congr h.hwCrc h.config)
        rcases hstate with hidle | ⟨l, hl, hlt⟩
        · rw [hs] at hidle; cases hidle
        · obtain rfl : level = l := by simpa using hs.symm.trans hl
          cases hlast : x.picc.isLastCascadeLevel level with
          | false =>
            refine ⟨fun _ l hl => ?_, by simp [Picc.selectedState, hlast]⟩
            obtain rfl : level + 1 = l := by simpa [Picc.selectedState, hlast] using hl
            exact hnext
          | true =>
            refine ⟨fun hnext => absurd hnext (by simp [Picc.selectedState, hlast]), fun _ => ?_⟩
            simp only [Picc.isLastCascadeLevel, h.config, decide_eq_true_eq] at hlast
            obtain hlevels : level + 1 = s.config.uid.cascadeLevels := by omega
            exact hlevels ▸ hnext
    | refused hr ha => exact ⟨by simp [Honest], by simp⟩
    | ignored => exact ⟨fun hcall l hl => (hh hcall l hl).mono _, by simp⟩
    | failed => exact ⟨by simp [Honest], by simp⟩

/-- **A SELECT that names another card is passed over** at any level but its own. -/
theorem Selecting.foreign {level : Nat} {raw : FrameVec} (h : Selecting s x)
    (hclean : ¬ Delivery.misled (Run.event PiccSession.deliver x (.ok raw : Except E FrameVec)))
    (hf : x.picc.Foreign level raw) :
    (PiccSession.deliver x (.ok raw)).2.picc.sent = x.picc.sent ∧
      (PiccSession.deliver x (.ok raw)).2.picc.state = x.picc.state := by
  rcases h.call with hnone | ⟨hcall, -⟩
  · rw [deliver_none hnone]; exact ⟨rfl, rfl⟩
  · have hact := step_activated hcall (h.state hcall) (.ok raw)
    generalize PiccSession.deliver x (.ok raw) = p at hact ⊢
    obtain ⟨uid, hsel, hne⟩ := hf
    have hno : ∀ frame state, ¬ x.picc.Answers raw frame state := by
      intro frame state ha
      have hlen := hsel.length
      cases ha with
      | request hs hr => rcases hr with rfl | rfl <;> simp at hlen
      | wakeup hs hr => subst hr; simp at hlen
      | anticollision hs hr frame => omega
      | select hs hr =>
        obtain ⟨rfl, rfl⟩ := hsel.unique hr
        exact hclean ⟨level, raw, hcall, hs, rfl, uid, hsel, hne⟩
    cases hact with
    | answered hr ha => cases hr; exact absurd ha (hno _ _)
    | refused hr ha => cases hr; exact absurd ha (hno _ _)
    | ignored => exact ⟨rfl, rfl⟩
    | failed => exact ⟨rfl, rfl⟩

/-- **A SELECT of the level the card is at is answered**, whichever card it names. -/
theorem sent_deliver_select {level : Nat} {raw uid : List UInt8}
    (hcall : x.call = some .waitForActivation) (hs : x.picc.state = .ready level)
    (hsel : x.picc.IsSelect level raw uid) :
    (PiccSession.deliver x (.ok raw : Except E FrameVec)).2.picc.sent = x.picc.sent ++
      [.standard (closed x.picc.hwCrc [(x.picc.sakAt level).toByte])] := by
  obtain ⟨picc, call⟩ := x
  obtain rfl : call = some .waitForActivation := hcall
  have hrun := Picc.run_waitForActivation_select hs hsel
  show (advance picc (Picc.waitForActivation raw)).2.picc.sent = _
  rw [advance, hrun, ← Picc.sent_answer]
  rcases picc.answer _ _ with ⟨⟨_ | _⟩ | _ | _ | _, _⟩ <;> rfl

/-! ## The result

  From left to right: a foreign SELECT of its level is answered, so it is not passed over. -/

/-- The card a call starts from. -/
theorem selecting_activating (s : Picc (Logged T)) : Selecting s (activating (E := E) s) :=
  ⟨rfl, rfl, Or.inr ⟨rfl, Or.inl rfl⟩⟩

/-- **A card is selected by its own UID alone exactly where no SELECT of its level names another
    card.** -/
theorem selected_iff (s : Picc (Logged T)) (received : List (Except E FrameVec)) :
    SelectedAsItself s received ↔ ∀ e ∈ activation s received, ¬ Delivery.misled e := by
  have hselecting : ∀ l e r, activation s received = l ++ e :: r → Selecting s e.before := by
    intro l e r hl
    exact Run.trace_before (I := fun _ x => Selecting s x) (c := fun _ => True)
      (selecting_activating s) (fun _ _ _ h _ => h.deliver _) hl (fun _ _ => trivial)
  constructor
  · rintro ⟨-, hforeign⟩ e he ⟨level, raw, hcall, hstate, hin, hf⟩
    obtain ⟨hsent, -⟩ := hforeign e he level raw hin hf
    obtain ⟨uid, hsel, -⟩ := hf
    -- it was answered with a SAK
    obtain ⟨-, hafter⟩ := Run.event_eq_of_mem he
    rw [hafter, hin, sent_deliver_select hcall hstate hsel] at hsent
    simp at hsent
  · intro hclean
    constructor
    · intro l e r hl hout
      have hmem : e ∈ activation s received := by rw [hl]; simp
      have hhonest : Selecting s e.before ∧ Honest s (l.map Run.Event.input) e.before := by
        refine Run.trace_before (I := fun l x => Selecting s x ∧ Honest s (l.map Run.Event.input) x)
          (c := fun e => ¬ Delivery.misled e) ⟨selecting_activating s, ?_⟩ ?_ hl ?_
        · intro _ level hlevel
          exact absurd hlevel (by simp [activating, step, advance, PiccApi.begin, Act.run_bind])
        · rintro l x r ⟨h, hh⟩ hc
          rw [List.map_append]
          exact ⟨h.deliver r, (hh.deliver h hc).1⟩
        · intro e he
          exact hclean e (by rw [hl]; exact List.mem_append_left _ he)
      obtain ⟨hevent, -⟩ := Run.event_eq_of_mem hmem
      rw [hevent] at hout
      rw [List.map_append]
      refine (hhonest.2.deliver hhonest.1 ?_).2 hout
      exact hclean e hmem
    · intro e he level raw hin hf
      obtain ⟨l, r, hl⟩ := List.append_of_mem he
      obtain ⟨-, hafter⟩ := Run.event_eq_of_mem he
      rw [hafter, hin]
      refine (hselecting l e r hl).foreign ?_ hf
      rintro ⟨l', raw', hcall, hstate, heq, hf'⟩
      exact hclean e he ⟨l', raw', hcall, hstate, hin.trans heq, hf'⟩

/-- A card with the UID 01 02 03 04. -/
def sampleCard : Picc (Logged Willing) :=
  Picc.new { inner := {} } { uid := sampleUid }

/-- A SELECT for the card AA BB CC DD, with its BCC. -/
def strayed : FrameVec := [0x93, 0x70, 0xAA, 0xBB, 0xCC, 0xDD, 0x00]

omit [Build] in
/-- **A card is activated by the SELECT of another one.** -/
theorem not_selectedAsItself : let : Build := Build.heap
    ¬ SelectedAsItself sampleCard [.ok [0x26], .ok strayed] := by
  intro _ h
  have hmem : Run.event deliver (deliver (activating sampleCard) (.ok [0x26])).2 (.ok strayed) ∈
      activation sampleCard [.ok [0x26], .ok strayed] := by
    simp [activation]
  have hsel : (deliver (activating (@sampleCard Build.heap)) (.ok [0x26])).2.picc.Foreign 0
      strayed := ⟨[0xAA, 0xBB, 0xCC, 0xDD, 0x00], ⟨0x93, rfl, rfl, rfl⟩, by decide⟩
  have hsent := (h.2 _ hmem 0 strayed rfl hsel).1
  exact absurd hsent (by decide)

end PiccSession

end Iso14443
