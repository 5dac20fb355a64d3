/-
  How long a card can keep a reader busy (`Pcd::exchange`).

  `limits.rs` promises that `max_frames` bounds the work of an exchange, whatever the peer sends.
  The argument goes by the frames that are counted, not by the rounds of the loops:

  * every block that is processed costs one frame, and past `max_frames` it is an error;
  * between two blocks there is one call of the transceiver, or three where recovery is tried,
    since a failed call is repeated twice at most;
  * so the calls are at most three for each frame counted, and some for the frame that was not.

  **The invariant** is `Within`: in the state `s'` on the way, the calls made since the session `s`
  began are covered by the frame counter of `s'`, and `extra` more.  One block processed keeps it
  (`Within.receive`), a call adds to both sides, and from the counter's own limit follows the
  bound.  Both loops are walked with the one-round lemmas of `Iso14443.PcdStep`: `sendLoop_within`
  and `collectResponse_within` say of each round how it ends, and that the loops themselves end,
  the fuel being enough once it exceeds the budget.

  **The hole.**  An S(DESELECT) that is answered while a response is collected resets the handler,
  and with it the counter.  Hence the hypothesis `NoDeselectBefore` of `exchange_bounded`: no
  answer but the last one is an S(DESELECT).  It is no artefact: `exchange_flood_never_returns` has
  a card that answers every frame with an S(DESELECT), and an exchange that never returns.

  `Bounded` is what an operation of the session comes to (it ends, and within the budget), so that
  the two loops and `exchange` have one form of result.  The card of the sample at the end of that
  part answers with blocks of every kind: it asks for a chunk again, acknowledges it, asks for more
  time, chains its response, sends blocks twice, sends noise, and ends with an S(DESELECT).
-/
import Iso14443.PcdStep

namespace Iso14443.Pcd

open ProtocolHandler

variable {T E : Type} [Build] [PcdTransceiver T E]

/-- The answer is a well-formed S(DESELECT). -/
def AnswersDeselect (s : Pcd (Tally T E)) (answer : Except E FrameVec) : Prop :=
  ∃ b, s.received answer = .ok b ∧ b.isDeselect = true

/-- No S(DESELECT) among the answers but the last. -/
def NoDeselectBefore (s : Pcd (Tally T E)) (log : List (Frame × Except E FrameVec)) : Prop :=
  ∀ pre e post, log = pre ++ e :: post → post ≠ [] → ¬ s.AnswersDeselect e.2

/-- In a session `s`, on the way: the calls made are covered by the frames counted, and by `extra`
    calls more. -/
structure Within (s s' : Pcd (Tally T E)) (extra : Nat) : Prop where
  limits : s'.handler.limits = s.handler.limits
  hwCrc : s'.hwCrc = s.hwCrc
  fsd : s'.fsd = s.fsd
  frames : s'.handler.counters.frames ≤ s.handler.limits.maxFrames
  calls : s'.calls.length ≤ 3 * s'.handler.counters.frames + extra

/-- The block at hand is the one in the last answer. -/
def Last (s s' : Pcd (Tally T E)) (block : Block) : Prop :=
  ∃ pre last, s'.calls = pre ++ [last] ∧ s.received last.2 = .ok block

section Steps

variable {s s' : Pcd (Tally T E)} {extra : Nat}

omit [PcdTransceiver T E] in
/-- **One block processed**: if it is accepted the frame counter goes up by one, and stays within
    its limit. -/
theorem Within.receive (hw : Within s s' extra) (hL : s.handler.limits.maxFrames < u16Max)
    {b : Block} (hd : b.isDeselect = false) {a : Action}
    (ha : (receive s'.handler b).1 = .ok a) :
    (receive s'.handler b).2.limits = s.handler.limits ∧
      (receive s'.handler b).2.counters.frames = s'.handler.counters.frames + 1 ∧
      s'.handler.counters.frames + 1 ≤ s.handler.limits.maxFrames := by
  have hreal : Event.Real (Run.event ProtocolHandler.receive s'.handler b) := real_event _ _
  have hfr := hw.frames
  have hsat : saturatingIncr u16Max s'.handler.counters.frames =
      s'.handler.counters.frames + 1 := saturatingIncr_of_lt (by omega)
  have hframes := Event.frames_eq hreal hd
  have hacc : Event.accepted (Run.event ProtocolHandler.receive s'.handler b) = true := by
    rw [Event.accepted, Run.event_output, ha]; rfl
  have hle := Event.frames_le hreal hacc
  simp only [Run.event_before, Run.event_after, hsat, hw.limits] at hframes hle
  exact ⟨(Event.limits_eq hreal).trans hw.limits, hframes, hle⟩

omit [PcdTransceiver T E] in
/-- A block taken in covers three calls more. -/
theorem Within.taken (hw : Within s s' extra) (hL : s.handler.limits.maxFrames < u16Max)
    {b : Block} (hd : b.isDeselect = false) {a : Action} {k : ProtocolHandler}
    (ha : ProtocolHandler.receive s'.handler b = (.ok a, k)) (hextra : extra ≤ 3) :
    Within s { s' with handler := k } 0 ∧
      k.counters.frames = s'.handler.counters.frames + 1 := by
  obtain ⟨hlimits, hframes, hle⟩ := hw.receive hL hd (congrArg Prod.fst ha)
  rw [ha] at hlimits hframes
  have hcalls := hw.calls
  dsimp only at hlimits hframes
  refine ⟨⟨hlimits, hw.hwCrc, hw.fsd, ?_, ?_⟩, hframes⟩
  · show k.counters.frames ≤ _
    omega
  · show s'.calls.length ≤ 3 * k.counters.frames + 0
    omega

omit [Build] [PcdTransceiver T E] in
/-- The frames counted are within the budget, and the calls with them. -/
theorem Within.bound (hw : Within s s' extra) :
    s'.calls.length ≤ 3 * s.handler.limits.maxFrames + extra := by
  have hcalls := hw.calls
  have hframes := hw.frames
  omega

variable {s1 : Pcd (Tally T E)} {n : Nat} {r : Res (PcdError E) Block}

omit [PcdTransceiver T E] in
/-- Calls count as they are made. -/
theorem Within.called (hw : Within s s' extra) (hc : Calls s' n r s1) : Within s s1 (extra + n) := by
  have hcalls := hw.calls
  have hlength := hc.length
  refine ⟨by rw [hc.handler]; exact hw.limits, hc.hwCrc.trans hw.hwCrc, hc.fsd.trans hw.fsd,
    by rw [hc.handler]; exact hw.frames, ?_⟩
  rw [hc.handler]
  omega

omit [PcdTransceiver T E] in
/-- A block taken in pays for the calls of a recovery. -/
theorem Within.round (hw : Within s s' extra) (hL : s.handler.limits.maxFrames < u16Max)
    {b : Block} (hd : b.isDeselect = false) {a : Action} {k : ProtocolHandler}
    (ha : ProtocolHandler.receive s'.handler b = (.ok a, k))
    (hc : Calls { s' with handler := k } 3 r s1) :
    Within s s1 extra ∧ s1.handler.counters.frames = s'.handler.counters.frames + 1 := by
  obtain ⟨hlimits, hframes, hle⟩ := hw.receive hL hd (congrArg Prod.fst ha)
  rw [ha] at hlimits hframes
  have hcalls := hw.calls
  have hlength : s1.calls.length ≤ s'.calls.length + 3 := hc.length
  have hk : s1.handler = k := hc.handler
  dsimp only at hlimits hframes
  refine ⟨⟨by rw [hk]; exact hlimits, hc.hwCrc.trans hw.hwCrc, hc.fsd.trans hw.fsd, ?_, ?_⟩, ?_⟩ <;>
    rw [hk] <;> omega

omit [PcdTransceiver T E] in
/-- The block that a call brings is the one in the last answer. -/
theorem last_of_calls (hcrc : s'.hwCrc = s.hwCrc) (hfsd : s'.fsd = s.fsd) {b : Block}
    (hc : Calls s' n (.ok b) s1) : Last s s1 b := by
  obtain ⟨pre, last, hpre, hrec⟩ := hc.answer b rfl
  refine ⟨pre, last, hpre, ?_⟩
  rw [← received_congr hcrc hfsd]
  exact hrec

end Steps

/-- An S(DESELECT) is accepted with a reply, or fails the frame budget. -/
theorem receive_deselect (h : ProtocolHandler) {b : Block} (hd : b.isDeselect = true) :
    (receive h b).1 = .ok (.reply (h.buildSblock .deselect)) ∨ ∃ e, (receive h b).1 = .err e := by
  simp only [Block.isDeselect, Bool.and_eq_true, decide_eq_true_eq] at hd
  by_cases hf : h.FrameOk
  · left
    rw [show receive h b = _ from Received.eq (.deselect hf hd.1 hd.2)]
  · right
    rw [show receive h b = _ from Received.eq (.frames hf)]
    exact ⟨_, rfl⟩

/-- Whoever accepts an S(DESELECT) answers it. -/
theorem eq_reply_of_deselect {h k : ProtocolHandler} {b : Block} {a : Action}
    (hd : b.isDeselect = true) (hr : receive h b = (.ok a, k)) :
    a = .reply (h.buildSblock .deselect) := by
  rcases receive_deselect h hd with h | ⟨e, h⟩ <;> rw [hr] at h <;> cases h
  rfl

/-- A block that moves the chain on is no S(DESELECT). -/
theorem not_isDeselect_of_chaining {h k : ProtocolHandler} {b : Block} {a : Action}
    (hr : receive h b = (.ok a, k)) (ha : a = .chainingAck ∨ a = .chainingRetransmit) :
    b.isDeselect = false := by
  cases hd : b.isDeselect with
  | false => rfl
  | true =>
    obtain rfl := eq_reply_of_deselect hd hr
    rcases ha with ha | ha <;> cases ha

omit [Build] in
/-- An S-Block without payload is short enough for any frame. -/
theorem short_buildSblock (h : ProtocolHandler) (subtype : SBlockSubtype) :
    (h.buildSblock subtype).bytes.length + 2 ≤ 256 := by
  have h1 := h.length_buildSblock subtype
  have h2 := h.prologueLen_le
  omega

/-- No call is forgotten. -/
theorem collectResponse_grows (fuel : Nat) : ∀ (block : Block) (s : Pcd (Tally T E)),
    s.calls <+: ((collectResponse fuel block).run s).2.calls := by
  induction fuel with
  | zero => intro block s; exact List.prefix_rfl
  | succ fuel ih =>
    intro block s
    refine Act.run_bind_state (P := fun s' : Pcd (Tally T E) => s.calls <+: s'.calls)
      List.prefix_rfl ?_
    intro a s1 h1
    cases a with
    | reply reply =>
      refine Act.run_bind_state (P := fun s' : Pcd (Tally T E) => s.calls <+: s'.calls) ?_ ?_
      · exact h1.trans (calls_transceiveWithRecovery reply true s1).grows
      · intro b s2 h2
        exact h2.trans (ih b s2)
    | _ => exact h1

/-- The send loop only adds to the calls. -/
theorem sendLoop_grows (apdu : List UInt8) (maxInf fuel offset : Nat) (last : Option Block)
    (s : Pcd (Tally T E)) :
    s.calls <+: ((sendLoop apdu maxInf fuel offset last).run s).2.calls :=
  sendLoop_state (P := fun s' : Pcd (Tally T E) => s.calls <+: s'.calls)
    (fun block s' h => h.trans (calls_transceiveBlock block s').grows) (fun _ _ h => h) apdu maxInf
    fuel offset last s List.prefix_rfl

omit [PcdTransceiver T E] in
/-- An S(DESELECT) that is answered is no last answer. -/
theorem not_noDeselectBefore {s s' s'' : Pcd (Tally T E)} {block : Block} (hlast : Last s s' block)
    (hd : block.isDeselect = true) (hgrows : s'.calls <+: s''.calls)
    (hlt : s'.calls.length < s''.calls.length) : ¬ NoDeselectBefore s s''.calls := by
  intro hno
  obtain ⟨pre, last, hcalls, hrec⟩ := hlast
  obtain ⟨post, hpost⟩ := hgrows
  refine hno pre last post ?_ ?_ ⟨block, hrec, hd⟩
  · rw [← hpost, hcalls]; simp
  · rintro rfl
    rw [← hpost, List.append_nil] at hlt
    exact Nat.lt_irrefl _ hlt

/-- The reply to an S(DESELECT) is a call, after which that answer is no longer the last. -/
theorem not_noDeselectBefore_reply {s s' : Pcd (Tally T E)} {block : Block} {k : ProtocolHandler}
    {fuel : Nat} (hlast : Last s s' block) (hd : block.isDeselect = true) :
    ¬ NoDeselectBefore s ((do
      let b ← transceiveWithRecovery (s'.handler.buildSblock .deselect) true
      collectResponse fuel b : Act (Pcd (Tally T E)) (PcdError E) ChainVec).run
        { s' with handler := k }).2.calls := by
  generalize hs1 : ({ s' with handler := k } : Pcd (Tally T E)) = s1
  generalize hreply : s'.handler.buildSblock .deselect = reply
  have hcalls1 : s1.calls = s'.calls := by rw [← hs1]; rfl
  have hshort : reply.bytes.length + 2 ≤ 256 := by
    rw [← hreply]
    exact short_buildSblock s'.handler .deselect
  have hlt := calls_lt (s := s1) (frameFor_of_fits s1.hwCrc hshort) true
  have hgrows := (calls_transceiveWithRecovery reply true s1).grows
  rw [hcalls1] at hlt hgrows
  have hmore : ((transceiveWithRecovery reply true).run s1).2.calls <+: _ := Act.run_bind_state
    (m := transceiveWithRecovery reply true) (f := fun block => collectResponse fuel block) (s := s1)
    (P := fun t => ((transceiveWithRecovery reply true).run s1).2.calls <+: t.calls) List.prefix_rfl
    (fun b t ht => ht.trans (collectResponse_grows fuel b t))
  exact not_noDeselectBefore hlast hd (hgrows.trans hmore)
    (Nat.lt_of_lt_of_le hlt hmore.length_le)

/-- What an operation of the session `s` comes to: it ends, within the frame budget.  The limit is
    that of `s`; no operation within an exchange changes it. -/
structure Bounded {α : Type} (s : Pcd (Tally T E)) (out : Res (PcdError E) α × Pcd (Tally T E)) :
    Prop where
  returns : out.1.Returns
  calls : out.2.calls.length ≤ 3 * s.handler.limits.maxFrames + 1

/-- **The loop that collects the response** ends within the frame budget.  A round that goes on has
    counted a frame; an S(DESELECT), which would take the count back, is the last answer by
    assumption. -/
theorem collectResponse_within {s : Pcd (Tally T E)} (hL : s.handler.limits.maxFrames < u16Max)
    (fuel : Nat) : ∀ {s' : Pcd (Tally T E)} {block : Block}, Within s s' 1 → Last s s' block →
    s.handler.limits.maxFrames < fuel + s'.handler.counters.frames →
    NoDeselectBefore s ((collectResponse fuel block).run s').2.calls →
    Bounded s ((collectResponse fuel block).run s') := by
  induction fuel with
  | zero =>
    intro s' block hw _ hfuel _
    have := hw.frames
    omega
  | succ fuel ih =>
    intro s' block hw hlast hfuel hno
    have hround := collectResponse_round (E := E) fuel block s'
    generalize (collectResponse (fuel + 1) block).run s' = out at hround hno ⊢
    cases hround with
    | complete hr => exact ⟨trivial, hw.bound⟩
    | acknowledged hr ha => exact ⟨trivial, hw.bound⟩
    | refused hr => exact ⟨trivial, hw.bound⟩
    | @reply reply k hr =>
      cases hd : block.isDeselect with
      | true =>
        -- the reply to it is a call, after which this answer is no longer the last
        exfalso
        have hreply := eq_reply_of_deselect hd hr
        cases hreply
        exact not_noDeselectBefore_reply hlast hd hno
      | false =>
        -- one frame more is counted, which pays for the calls of the recovery
        obtain ⟨-, hfr, hle⟩ := hw.receive hL hd (congrArg Prod.fst hr)
        rcases hcall : (transceiveWithRecovery reply true).run { s' with handler := k } with ⟨r, s1⟩
        have hc := calls_of_recovery hcall
        obtain ⟨hw1, hfr1⟩ := hw.round hL hd hr hc
        rw [Act.run_bind, hcall] at hno ⊢
        cases r with
        | ok b =>
          have hcrc : ({ s' with handler := k } : Pcd (Tally T E)).hwCrc = s.hwCrc := hw.hwCrc
          exact ih hw1 (last_of_calls hcrc hw.fsd hc) (by omega) hno
        | err e => exact ⟨trivial, hw1.bound⟩
        | panic => exact hc.returns.elim
        | outOfFuel => exact hc.returns.elim

/-- **The loop that sends the command** ends within the frame budget, and what it leaves for the
    other loop is the last answer. -/
theorem sendLoop_within {s : Pcd (Tally T E)} (hL : s.handler.limits.maxFrames < u16Max)
    (apdu : List UInt8) (maxInf fuel : Nat) : ∀ {s' : Pcd (Tally T E)} {offset : Nat},
    Within s s' 0 → offset < apdu.length →
    s.handler.limits.maxFrames < fuel + s'.handler.counters.frames →
    Bounded s ((sendLoop apdu maxInf fuel offset none).run s') ∧
    ∀ b, ((sendLoop apdu maxInf fuel offset none).run s').1 = .ok (some b) →
      Within s ((sendLoop apdu maxInf fuel offset none).run s').2 1 ∧
      Last s ((sendLoop apdu maxInf fuel offset none).run s').2 b := by
  induction fuel with
  | zero =>
    intro s' offset hw _ hfuel
    have := hw.frames
    omega
  | succ fuel ih =>
    intro s' offset hw hoff hfuel
    have hround := sendLoop_round (E := E) maxInf fuel s' hoff
    generalize (sendLoop apdu maxInf (fuel + 1) offset none).run s' = out at hround ⊢
    cases hround with
    | unbuilt e => exact ⟨⟨trivial, Nat.le_trans hw.bound (Nat.le_succ _)⟩, by simp⟩
    | failed hcall => exact ⟨⟨trivial, (hw.called (calls_of_run hcall)).bound⟩, by simp⟩
    | refused e hcall => exact ⟨⟨trivial, (hw.called (calls_of_run hcall)).bound⟩, by simp⟩
    | last hcall =>
      have hw1 : Within s _ 1 := hw.called (calls_of_run hcall)
      refine ⟨⟨trivial, hw1.bound⟩, ?_⟩
      intro b hb
      cases hb
      exact ⟨hw1, last_of_calls hw.hwCrc hw.fsd (calls_of_run hcall)⟩
    | more hcall hr ha hnext =>
      -- whichever chunk is next, one frame more is counted and one call more was made
      have hc := calls_of_run hcall
      have hw1 : Within s _ 1 := hw.called hc
      obtain ⟨hw2, hfr⟩ := hw1.taken hL (not_isDeselect_of_chaining hr ha) hr (by omega)
      rw [hc.handler] at hfr
      refine ih hw2 hnext ?_
      dsimp only
      omega

/-- A session whose calls are counted from now on. -/
def tallied {T E : Type} [PcdTransceiver T E] (s : Pcd T) : Pcd (Tally T E) :=
  { s with transceiver := { inner := s.transceiver } }

/-- **A reader is never kept busy past its frame budget**, where no answer but the last one of the
    exchange is an S(DESELECT). -/
theorem exchange_bounded (s : Pcd T) (apdu : List UInt8) (fuel : Nat)
    (hL : s.handler.limits.maxFrames < u16Max) (hfuel : s.handler.limits.maxFrames < fuel)
    (hno : NoDeselectBefore (tallied s) ((exchange fuel apdu).run (tallied s)).2.calls) :
    ((exchange fuel apdu).run (tallied s)).1.Returns ∧
      ((exchange fuel apdu).run (tallied s)).2.calls.length ≤
        3 * (s.handler.limits.maxFrames + 1) + 1 := by
  let s0 : Pcd (Tally T E) := { tallied s with handler := s.handler.beginExchange }
  have hw0 : Within s0 s0 0 := ⟨rfl, rfl, rfl, Nat.zero_le _, Nat.zero_le _⟩
  suffices hbounded : Bounded s0 ((exchange fuel apdu).run (tallied s)) by
    have hcalls : _ ≤ 3 * s.handler.limits.maxFrames + 1 := hbounded.calls
    exact ⟨hbounded.returns, by omega⟩
  by_cases hinf : s.maxInf = 0
  · rw [run_exchange_zero fuel apdu (tallied s) hinf]
    exact ⟨trivial, Nat.zero_le _⟩
  · have hexchange : (exchange fuel apdu).run (tallied s) = (do
        let lastResp ← sendLoop apdu s.maxInf fuel 0 none
        let first ← lift (Res.okOr .other lastResp)
        collectResponse fuel first).run s0 := run_exchange fuel apdu (tallied s) hinf
    rw [hexchange, Act.run_bind] at hno ⊢
    by_cases hlen : 0 < apdu.length
    · obtain ⟨hsent, hok⟩ := sendLoop_within (s := s0) hL apdu s.maxInf fuel hw0 hlen
        (by show s.handler.limits.maxFrames < fuel + 0; omega)
      rcases hrun : (sendLoop apdu s.maxInf fuel 0 none).run s0 with ⟨r, s1⟩
      rw [hrun] at hsent hok hno
      cases r with
      | err e => exact ⟨trivial, hsent.calls⟩
      | panic => exact hsent.returns.elim
      | outOfFuel => exact hsent.returns.elim
      | ok last =>
        cases last with
        | none => exact ⟨trivial, hsent.calls⟩
        | some first =>
          obtain ⟨hw1, hlast1⟩ := hok first rfl
          have hfuel1 : s0.handler.limits.maxFrames < fuel + s1.handler.counters.frames :=
            Nat.lt_add_right _ hfuel
          exact collectResponse_within hL fuel hw1 hlast1 hfuel1 hno
    · rw [sendLoop_done (by omega)]
      exact ⟨trivial, Nat.zero_le _⟩

/-! ### A card that answers with blocks of every kind

  `NoDeselectBefore` quantifies over the ways to split the log; on a log at hand it is checked answer
  by answer. -/

/-- The answer is a well-formed S(DESELECT), as a test. -/
def deselects (s : Pcd (Tally T E)) (answer : Except E FrameVec) : Bool :=
  match s.received answer with
  | .ok b => b.isDeselect
  | _ => false

omit [PcdTransceiver T E] in
/-- An answer that is an S(DESELECT) deselects. -/
theorem deselects_of_answersDeselect {s : Pcd (Tally T E)} {answer : Except E FrameVec}
    (h : s.AnswersDeselect answer) : s.deselects answer = true := by
  obtain ⟨b, hb, hd⟩ := h
  rw [deselects, hb]
  exact hd

omit [PcdTransceiver T E] in
/-- Every answer that has one after it is looked at. -/
theorem noDeselectBefore_of_all {s : Pcd (Tally T E)} {log : List (Frame × Except E FrameVec)}
    (h : log.dropLast.all (fun e => !s.deselects e.2) = true) : NoDeselectBefore s log := by
  intro pre e post hlog hpost hanswer
  have hmem : e ∈ log.dropLast := by
    rw [hlog, List.dropLast_append_of_ne_nil (by simp), List.dropLast_cons_of_ne_nil hpost]
    simp
  have hfalse := List.all_eq_true.mp h e hmem
  rw [deselects_of_answersDeselect hanswer] at hfalse
  cases hfalse

/-- A card that asks for the first chunk of a command again, acknowledges it, asks for more time, and
    chains its response.  It sends each block of the response twice; once a frame of its is noise, and
    once there is nothing in it.  In the end it deselects itself. -/
def mixedAnswers : List FrameVec :=
  [[0xb2], [0xa2], [0xf2, 0x01], [0x13, 0x61], [0x13, 0x61], [0x0f], [], [0x12, 0x62], [0x12, 0x62],
    [0xf2, 0x02], [0xc2]]

/-- A session with it, with a budget of eight frames. -/
def mixedSession : Pcd Scripted :=
  (new ⟨mixedAnswers⟩ (Ats.new .fsc16 0 {} 0) .fsd64 none true).setLimits
    { Limits.default with maxFrames := 8, frames_le := by decide }

/-- The command, which takes two blocks. -/
def mixedCommand : List UInt8 := List.replicate 20 0xb0

omit [Build] in
/-- Eleven calls, and the S(DESELECT) is one frame too many. -/
theorem exchange_bounded_sample : let : Build := Build.heap
    (((exchange 9 mixedCommand).run (tallied mixedSession)).1 =
        .err (.protocol (.limitExceeded .frames)) ∧
      ((exchange 9 mixedCommand).run (tallied mixedSession)).2.calls.map (·.2) =
        mixedAnswers.map .ok) ∧
    ((exchange 9 mixedCommand).run (tallied mixedSession)).1.Returns ∧
      ((exchange 9 mixedCommand).run (tallied mixedSession)).2.calls.length ≤ 3 * (8 + 1) + 1 := by
  have hrun : let : Build := Build.heap
      ((exchange 9 mixedCommand).run (tallied mixedSession)).1 =
          .err (.protocol (.limitExceeded .frames)) ∧
        ((exchange 9 mixedCommand).run (tallied mixedSession)).2.calls.map (·.2) =
          mixedAnswers.map .ok := by decide +kernel
  have hlast : let : Build := Build.heap
      ((exchange 9 mixedCommand).run (tallied mixedSession)).2.calls.dropLast.all
        (fun e => !(tallied mixedSession).deselects e.2) = true := by decide +kernel
  have hmax : (@mixedSession Build.heap).handler.limits.maxFrames = 8 := rfl
  have hbound := @exchange_bounded Scripted Unit Build.heap _ (@mixedSession Build.heap) mixedCommand 9
    (by rw [hmax]; decide) (by rw [hmax]; decide)
    (@noDeselectBefore_of_all Scripted Unit Build.heap _ _ hlast)
  rw [hmax] at hbound
  exact ⟨hrun, hbound⟩

/-! ## The hole

  An S(DESELECT) in the place of a response is answered like any other, and `reset` takes the
  counters back.  A card that goes on with it keeps the loop going, one frame each way. -/

/-- A card that answers whatever it gets with an S(DESELECT). -/
structure Deselecting where

/-- Whatever it is sent, it answers S(DESELECT). -/
instance : PcdTransceiver Deselecting Unit where
  transceive t _ := (.ok [0xC2], t)
  tryEnableHwCrc t := (.ok (), t)

/-- A session with such a card: default limits, no CID, CRC in hardware. -/
def floodSession : Pcd Deselecting := new {} (Ats.new .fsc32 0 {} 0) .fsd64 none true

/-- The block it answers with. -/
def floodBlock : Block :=
  { pcb := { flags := 0xC2, blockType := .sBlock, blockNumber := 0, chaining := false,
             rSubtype := none, sSubtype := some .deselect } }

/-- The reader replies to an S(DESELECT), and its handler is as it was before: the frame that was
    counted is forgotten with the rest. -/
theorem receive_floodBlock : receive floodSession.handler floodBlock =
    (.ok (.reply (floodSession.handler.buildSblock .deselect)), floodSession.handler) :=
  Received.eq (.deselect (show 1 ≤ 512 by decide) rfl rfl)

/-- Whatever is sent, the answer is the same. -/
theorem transceiveBlock_flood {block : Block} (h : block.bytes.length + 2 ≤ 256) :
    (transceiveBlock block).run floodSession =
      ((.ok floodBlock, floodSession) : Res (PcdError Unit) Block × _) := by
  have hrec : floodSession.received (.ok (floodBlock.raw true) : Except Unit FrameVec) =
      .ok floodBlock.wire :=
    received_raw ⟨by decide, by decide⟩ (show floodBlock.bytes.length + 2 ≤ 64 by decide) (by decide)
  have hraw : floodBlock.raw true = [0xC2] ∧ floodBlock.wire = floodBlock := by decide
  rw [hraw.1, hraw.2] at hrec
  have hrun := run_transceiveBlock (T := Deselecting) (E := Unit) (s := floodSession)
    (frameFor_of_fits floodSession.hwCrc h)
  exact hrun.trans (Prod.ext hrec rfl)

/-- Each S(DESELECT) is answered, and restores the budget it used. -/
theorem collectResponse_flood (fuel : Nat) :
    (collectResponse fuel floodBlock).run floodSession =
      ((.outOfFuel, floodSession) : Res (PcdError Unit) ChainVec × _) := by
  induction fuel with
  | zero => rfl
  | succ fuel ih =>
    rw [collectResponse, Act.run_bind, run_onHandler_receive, receive_floodBlock]
    dsimp only [Res.mapErr_ok]
    rw [transceiveWithRecovery, Act.run_bind, Act.run_bind,
      Act.run_attempt_ok (transceiveBlock_flood (short_buildSblock _ _))]
    exact ih

/-- So the exchange is still collecting its response when any fuel is used up. -/
theorem exchange_flood (fuel : Nat) : (exchange fuel [0x00]).run floodSession =
    ((.outOfFuel, floodSession) : Res (PcdError Unit) ChainVec × _) := by
  have hbegin : ({ floodSession with handler := floodSession.handler.beginExchange } :
      Pcd Deselecting) = floodSession := rfl
  have hinf : floodSession.maxInf = 29 := rfl
  have hchunk : (floodSession.handler.iblockOf (chunkAt [0x00] 29 0) false).bytes.length + 2 ≤
      256 := by
    show ((Block.new (((Pcb.new .iBlock).withBlockNumber 0).withChaining false)).withPayload
      [0x00]).bytes.length + 2 ≤ 256
    decide
  rw [run_exchange fuel [0x00] floodSession (by rw [hinf]; decide), hbegin, hinf, Act.run_bind]
  cases fuel with
  | zero => rfl
  | succ fuel =>
    rw [run_sendLoop_last fuel none floodSession (by simp) (by simp) (by simp), Act.run_bind,
      transceiveBlock_flood hchunk]
    exact collectResponse_flood (fuel + 1)

omit [Build] in
/-- **A card that answers S(DESELECT) keeps the reader busy for ever.** -/
theorem exchange_flood_never_returns : ¬ ∃ fuel,
    ((@exchange Deselecting Unit Build.heap _ fuel [0x00]).run
      (@floodSession Build.heap)).1.Returns := by
  let : Build := Build.heap
  rintro ⟨fuel, hret⟩
  rw [exchange_flood] at hret
  exact hret

end Iso14443.Pcd
