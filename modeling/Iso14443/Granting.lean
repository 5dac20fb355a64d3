/-
  The reader with a card, and with the same card that asks for more time, side by side.

  Two sessions run the same operation: `x` on the card itself, with a log of its calls, and `y` on the
  card behind `Iso14443.Extending`.  The log says what the card answers, and so which requests of the
  plan come before which block.

  1. **The answers** — `script` lists the blocks of a log, each with the requests before it; `Placed`
     says that requests only come before answers that carry a block, and `Quiet` that none comes before
     an R-Block.

  2. **The relation** — `Ready` between two calls, `Holds` with an answer to come and requests before
     it.  Both are `Beside`: the same card underneath, as many answers made, the same frame sizes,
     handlers that are `Lifted`, and the rest of the script within the limits.

  3. **The calls** — a call that brings a block brings it to the other session too, behind the requests
     (`call_ok`); a call that brings none brings none (`call_err`).  So it is with the retries
     (`retry_ok`) and with the recovery around them (`recovery_ok`).
-/
import Iso14443.Extending

namespace Iso14443

open ProtocolHandler

namespace Pcd

variable {T E : Type} [Build] [PcdTransceiver T E]

/-! ## The answers and the requests before them

  The plan counts all answers of the card, the script only those that carry a block. -/

/-- The answers that carry a block, each with the requests planned before it; the first one is in
    place `i`. -/
def script (s : Pcd T) (plan : Nat → List Block) :
    Nat → List (Frame × Except E FrameVec) → List (List Block × Block)
  | _, [] => []
  | i, e :: log =>
    match s.received e.2 with
    | .ok b => (plan i, b) :: script s plan (i + 1) log
    | _ => script s plan (i + 1) log

/-- Requests are only planned before answers that carry a block. -/
def Placed (s : Pcd T) (plan : Nat → List Block) (log : List (Frame × Except E FrameVec)) : Prop :=
  ∀ i e, log[i]? = some e → plan i ≠ [] → ∃ b, s.received e.2 = .ok b

/-- Frame sizes from the tables and a handler of the reader's role, as `Pcd::new` sets them.  So a
    frame is 16 bytes at least, which is room for an S(WTX). -/
structure IsSet (s : Pcd T) : Prop where
  fsc : ∃ fsci : Fsci, s.fsc = fsci.fsc
  fsd : ∃ fsdi : Fsdi, s.fsd = fsdi.fsd
  role : s.handler.role = .pcd

/-- No request in the place of an R-Block. -/
def Quiet (script : List (List Block × Block)) : Prop :=
  ∀ p ∈ script, p.1 ≠ [] → p.2.blockType ≠ .rBlock

/-- Quietness is looked up in each place. -/
instance (script : List (List Block × Block)) : Decidable (Quiet script) :=
  inferInstanceAs (Decidable (∀ p ∈ script, p.1 ≠ [] → p.2.blockType ≠ .rBlock))

/-- The block the reader gets first: a request, or the answer. -/
def first (requests : List Block) (answer : Block) : Block :=
  match requests with
  | [] => answer
  | w :: _ => w.wire

/-- What the card holds back while the first request stands. -/
def heldBack (requests : List Block) (answer : Except E FrameVec) :
    Option (Block × List Block × Except E FrameVec) :=
  match requests with
  | [] => none
  | w :: ws => some (w, ws, answer)

/-- The session with the card that asks for more time, from the same start. -/
def extended (s : Pcd T) (plan : Nat → List Block) : Pcd (Extending T E) :=
  { s with transceiver := { inner := s.transceiver, hwCrc := s.hwCrc, plan } }

/-- The two sessions, on the way: `x` without requests, `y` with.  The card behind `y` is the one
    behind `x`, at the same point of its answers; the handlers differ by what was spent (`c`), and
    what is still to come (`ahead`) is within the limits. -/
structure Beside (s : Pcd T) (plan : Nat → List Block) (x : Pcd (Tally T E))
    (y : Pcd (Extending T E)) (pending : Option (Block × List Block × Except E FrameVec))
    (c : Spent) (ahead : List (List Block × Block)) : Prop where
  card : y.transceiver =
    { inner := x.transceiver.inner, hwCrc := s.hwCrc, plan, made := x.calls.length, pending }
  hwCrc : x.hwCrc = s.hwCrc
  hwCrc' : y.hwCrc = s.hwCrc
  fsc : x.fsc = s.fsc
  fsc' : y.fsc = s.fsc
  fsd : x.fsd = s.fsd
  fsd' : y.fsd = s.fsd
  lifted : Lifted x.handler y.handler c
  within : WithinLimits x.handler c ahead

/-- What the rest of the log brings. -/
def upcoming (s : Pcd T) (plan : Nat → List Block) (log : List (Frame × Except E FrameVec))
    (x : Pcd (Tally T E)) : List (List Block × Block) :=
  script s plan x.calls.length (log.drop x.calls.length)

/-- Between two calls of the inner card. -/
def Ready (s : Pcd T) (plan : Nat → List Block) (log : List (Frame × Except E FrameVec))
    (x : Pcd (Tally T E)) (y : Pcd (Extending T E)) (c : Spent) : Prop :=
  Beside s plan x y none c (upcoming s plan log x)

/-- The inner card has given the answer with the block `b`, and the requests `ws` come first. -/
def Holds (s : Pcd T) (plan : Nat → List Block) (log : List (Frame × Except E FrameVec))
    (x : Pcd (Tally T E)) (y : Pcd (Extending T E)) (ws : List Block) (b : Block) (c : Spent) :
    Prop :=
  (∀ w ∈ ws, IsRequest w) ∧ ∃ answer, s.received answer = .ok b ∧
    Beside s plan x y (heldBack ws answer) c ((ws, b) :: upcoming s plan log x)

section Calls

variable {s : Pcd T} {plan : Nat → List Block} {log : List (Frame × Except E FrameVec)}
  {x x' : Pcd (Tally T E)} {y : Pcd (Extending T E)} {c : Spent}

omit [Build] [PcdTransceiver T E] in
/-- The last call of `x'`, found in the log. -/
theorem drop_calls {e : Frame × Except E FrameVec} (hcalls : x'.calls = x.calls ++ [e])
    (hlog : x'.calls <+: log) : log.drop x.calls.length = e :: log.drop x'.calls.length ∧
      log[x.calls.length]? = some e ∧ x'.calls.length = x.calls.length + 1 := by
  obtain ⟨rest, rfl⟩ := hlog
  have hlen : x'.calls.length = x.calls.length + 1 := by rw [hcalls]; simp
  refine ⟨?_, ?_, hlen⟩
  · rw [List.drop_left, hcalls, List.append_assoc, List.drop_left]
    rfl
  · rw [hcalls, List.append_assoc, List.getElem?_append_right (Nat.le_refl _), Nat.sub_self]
    rfl

omit [PcdTransceiver T E] in
/-- A request that stands is read off the air. -/
theorem received_request (hs : s.IsSet) {w : Block} (hw : IsRequest w) :
    s.received (.ok (w.raw s.hwCrc) : Except E FrameVec) = .ok w.wire := by
  obtain ⟨fsdi, hfsd⟩ := hs.fsd
  have hmin := fsdi.fsd_bounds
  have hlen := hw.length_le
  exact received_raw hw.wellFormed (by omega) (by omega)

omit [PcdTransceiver T E] in
/-- **What the card gives out next** is the block that comes first. -/
theorem received_next (hs : s.IsSet) (t : Extending T E) (ht : t.hwCrc = s.hwCrc)
    {ws : List Block} (hws : ∀ w ∈ ws, IsRequest w) {answer : Except E FrameVec} {b : Block}
    (hb : s.received answer = .ok b) : s.received (t.next ws answer).1 = .ok (first ws b) ∧
      (t.next ws answer).2 = { t with pending := heldBack ws answer } := by
  cases ws with
  | nil => exact ⟨hb, rfl⟩
  | cons w ws =>
    refine ⟨?_, rfl⟩
    show s.received (.ok (w.raw t.hwCrc)) = _
    rw [ht]
    exact received_request hs (hws w (List.mem_cons_self))

/-- The card behind the requests, once the inner card has made another answer. -/
def answered (s : Pcd T) (plan : Nat → List Block) (x : Pcd (Tally T E)) (inner : T) :
    Extending T E :=
  { inner, hwCrc := s.hwCrc, plan, made := x.calls.length + 1 }

/-- The session without requests, once `entry` is in its log. -/
def logged (x : Pcd (Tally T E)) (inner : T) (entry : Frame × Except E FrameVec) : Pcd (Tally T E) :=
  x.withTransceiver { inner, log := x.calls ++ [entry] }

/-- **A call of the inner card**, in both sessions: the answer goes into the log of the one, and the
    other one gets what the plan puts first. -/
theorem Ready.call (h : Ready s plan log x y c) {block : Block} {frame : Frame}
    (hframe : frameFor x.hwCrc block = .ok frame) : ∃ answer inner,
    (transceiveBlock block).run x = (s.received answer, logged x inner (frame, answer)) ∧
      (transceiveBlock block).run y =
        (s.received ((answered s plan x inner).next (plan x.calls.length) answer).1,
          y.withTransceiver ((answered s plan x inner).next (plan x.calls.length) answer).2) := by
  have hframe' : frameFor y.hwCrc block = .ok frame := by rw [h.hwCrc', ← h.hwCrc]; exact hframe
  rcases hans : PcdTransceiver.transceive x.transceiver.inner frame with ⟨answer, inner⟩
  have hxt : PcdTransceiver.transceive x.transceiver frame =
      (answer, { inner, log := x.calls ++ [(frame, answer)] }) := transceive_tally hans
  have hyt : PcdTransceiver.transceive y.transceiver frame =
      (answered s plan x inner).next (plan x.calls.length) answer := by
    rw [h.card]
    exact Extending.transceive_idle rfl hans
  refine ⟨answer, inner, ?_, ?_⟩
  · rw [run_transceiveBlock hframe, hxt, received_congr h.hwCrc h.fsd]
    rfl
  · rw [run_transceiveBlock hframe', hyt, received_congr h.hwCrc' h.fsd']

omit [PcdTransceiver T E] in
/-- After that call the two are side by side again, with `pending` before the answer. -/
theorem Ready.logged (h : Ready s plan log x y c) (inner : T) (entry : Frame × Except E FrameVec)
    {pending : Option (Block × List Block × Except E FrameVec)} {ahead : List (List Block × Block)}
    (hup : upcoming s plan log x = ahead) : Beside s plan (Pcd.logged x inner entry)
      (y.withTransceiver ⟨inner, s.hwCrc, plan, x.calls.length + 1, pending⟩) pending c ahead := by
  have hlen : (Pcd.logged x inner entry).calls.length = x.calls.length + 1 := List.length_append
  have hwithin := h.within
  rw [hup] at hwithin
  refine ⟨?_, h.hwCrc, h.hwCrc', h.fsc, h.fsc', h.fsd, h.fsd', h.lifted, hwithin⟩
  show Extending.mk _ _ _ _ _ = _
  rw [hlen]
  rfl

/-- A call that ends in an answer has found a frame for the block. -/
theorem frame_of_ok {s s' : Pcd T} {block b : Block}
    (hrun : (transceiveBlock block : Act (Pcd T) (PcdError E) Block).run s = (.ok b, s')) :
    ∃ frame, frameFor s.hwCrc block = .ok frame := by
  by_contra hnone
  obtain ⟨e, he⟩ := run_transceiveBlock_err (T := T) (E := E) (not_exists.mp hnone)
  rw [he] at hrun
  cases hrun

/-- **A call that brings a block** brings it to the other session too, behind the requests. -/
theorem call_ok (hs : s.IsSet) (hplan : ∀ i, ∀ w ∈ plan i, IsRequest w)
    (h : Ready s plan log x y c) {block b : Block}
    (hrun : (transceiveBlock block).run x = (.ok b, x')) (hlog : x'.calls <+: log) :
    ∃ ws y', (transceiveBlock block).run y = (.ok (first ws b), y') ∧
      Holds s plan log x' y' ws b c ∧
      ∃ e, x'.calls = x.calls ++ [e] ∧ ws = plan x.calls.length ∧ s.received e.2 = .ok b := by
  obtain ⟨frame, hframe⟩ := frame_of_ok hrun
  obtain ⟨answer, inner, hx, hy⟩ := h.call hframe
  obtain ⟨hb, rfl⟩ := Prod.mk.inj (hx.symm.trans hrun)
  obtain ⟨hfirst, hnext⟩ :=
    received_next hs (answered s plan x inner) rfl (hplan x.calls.length) hb
  rw [hfirst, hnext] at hy
  have hup : upcoming s plan log x = (plan x.calls.length, b) ::
      upcoming s plan log (logged x inner (frame, answer)) := by
    obtain ⟨hdrop, -, hlen⟩ := drop_calls (x := x) (e := (frame, answer)) rfl hlog
    rw [upcoming, hdrop, script, hb, upcoming, hlen]
  exact ⟨plan x.calls.length, _, hy, ⟨hplan _, answer, hb, h.logged inner _ hup⟩, (frame, answer),
    rfl, rfl, hb⟩

/-- A call that brings no block brings none to the other session.  No request is planned there, so
    both are at the same call afterwards. -/
theorem call_err (hplaced : Placed s plan log) (h : Ready s plan log x y c) {block : Block}
    {e : PcdError E} (hrun : (transceiveBlock block).run x = (.err e, x'))
    (hlog : x'.calls <+: log) : ∃ e' y', (transceiveBlock block).run y = (.err e', y') ∧
      Ready s plan log x' y' c := by
  by_cases hex : ∃ frame, frameFor x.hwCrc block = .ok frame
  · obtain ⟨frame, hframe⟩ := hex
    obtain ⟨answer, inner, hx, hy⟩ := h.call hframe
    obtain ⟨he, rfl⟩ := Prod.mk.inj (hx.symm.trans hrun)
    obtain ⟨hdrop, hget, hlen⟩ := drop_calls (x := x) (e := (frame, answer)) rfl hlog
    -- nothing is planned before an answer that carries no block
    have hnone : plan x.calls.length = [] := by
      by_contra hne
      obtain ⟨b, hb⟩ := hplaced _ _ hget hne
      rw [he] at hb
      cases hb
    have hup : upcoming s plan log x = upcoming s plan log (logged x inner (frame, answer)) := by
      rw [upcoming, hdrop, script, he, upcoming, hlen]
    rw [hnone] at hy
    exact ⟨e, _, hy.trans (congrArg (·, _) he), h.logged inner _ hup⟩
  · -- no frame, no call
    obtain ⟨e1, he1⟩ := run_transceiveBlock_err (T := Tally T E) (E := E) (not_exists.mp hex)
    rw [he1] at hrun
    obtain ⟨-, rfl⟩ := Prod.mk.inj hrun
    have hex' : ∀ frame, frameFor y.hwCrc block ≠ .ok frame := by
      rw [h.hwCrc', ← h.hwCrc]
      exact not_exists.mp hex
    obtain ⟨e2, he2⟩ := run_transceiveBlock_err (T := Extending T E) (E := E) hex'
    exact ⟨_, y, he2, h⟩

/-- **The retries** bring the same block, or the request before it: a request is an answer too, and
    stops the retries where the block itself would have. -/
theorem retry_ok (hs : s.IsSet) (hplan : ∀ i, ∀ w ∈ plan i, IsRequest w)
    (hplaced : Placed s plan log) (receivingChain : Bool) (n : Nat) :
    ∀ {x y}, Ready s plan log x y c → ∀ {b : Block},
    (retry receivingChain n).run x = (.ok b, x') → x'.calls <+: log →
    ∃ ws y', (retry receivingChain n).run y = (.ok (first ws b), y') ∧
      Holds s plan log x' y' ws b c := by
  induction n with
  | zero =>
    intro x y _ b hrun _
    cases hrun
  | succ n ih =>
    intro x y h b hrun hlog
    have hblock : (if receivingChain then y.handler.buildRack else y.handler.buildRnak) =
        if receivingChain then x.handler.buildRack else x.handler.buildRnak := by
      rw [h.lifted.buildRack, h.lifted.buildRnak]
    simp only [retry, Act.run_get_bind] at hrun ⊢
    rw [hblock]
    generalize (if receivingChain = true then x.handler.buildRack else x.handler.buildRnak) = block
      at hrun ⊢
    have hcall := calls_transceiveBlock block x
    generalize hx1 : (transceiveBlock block).run x = p at hcall
    obtain ⟨r, x1⟩ := p
    cases r with
    | ok b1 =>
      -- the retry brings the block, here and there
      rw [Act.run_bind_ok (Act.run_attempt_ok hx1)] at hrun
      cases hrun
      obtain ⟨ws, y1, hy1, hh, -⟩ := call_ok hs hplan h hx1 hlog
      exact ⟨ws, y1, by rw [Act.run_bind_ok (Act.run_attempt_ok hy1)]; rfl, hh⟩
    | err e =>
      -- it brings none, here and there, and the next one is tried
      rw [Act.run_bind_ok (Act.run_attempt_err hx1)] at hrun
      have hgrow : x1.calls <+: x'.calls := by
        have hg := (calls_retry receivingChain n x1).grows
        rw [hrun] at hg
        exact hg
      obtain ⟨e', y1, hy1, hr⟩ := call_err hplaced h hx1 (hgrow.trans hlog)
      obtain ⟨ws, y2, hy2, hh⟩ := ih hr hrun hlog
      refine ⟨ws, y2, ?_, hh⟩
      rw [Act.run_bind_ok (Act.run_attempt_err hy1)]
      exact hy2
    | panic => exact hcall.returns.elim
    | outOfFuel => exact hcall.returns.elim

/-- **With recovery** as well. -/
theorem recovery_ok (hs : s.IsSet) (hplan : ∀ i, ∀ w ∈ plan i, IsRequest w)
    (hplaced : Placed s plan log) (h : Ready s plan log x y c) {block b : Block}
    {receivingChain : Bool}
    (hrun : (transceiveWithRecovery block receivingChain).run x = (.ok b, x'))
    (hlog : x'.calls <+: log) :
    ∃ ws y', (transceiveWithRecovery block receivingChain).run y = (.ok (first ws b), y') ∧
      Holds s plan log x' y' ws b c := by
  have hcall := calls_transceiveBlock block x
  simp only [transceiveWithRecovery] at hrun ⊢
  generalize hx1 : (transceiveBlock block).run x = p at hcall
  obtain ⟨r, x1⟩ := p
  cases r with
  | ok b1 =>
    rw [Act.run_bind_ok (Act.run_attempt_ok hx1)] at hrun
    cases hrun
    obtain ⟨ws, y1, hy1, hh, -⟩ := call_ok hs hplan h hx1 hlog
    exact ⟨ws, y1, by rw [Act.run_bind_ok (Act.run_attempt_ok hy1)]; rfl, hh⟩
  | err e =>
    rw [Act.run_bind_ok (Act.run_attempt_err hx1)] at hrun
    have hgrow : x1.calls <+: x'.calls := by
      have hg := (calls_retry receivingChain maxRetries x1).grows
      rw [hrun] at hg
      exact hg
    obtain ⟨e', y1, hy1, hr⟩ := call_err hplaced h hx1 (hgrow.trans hlog)
    obtain ⟨ws, y2, hy2, hh⟩ := retry_ok hs hplan hplaced receivingChain maxRetries hr hrun hlog
    exact ⟨ws, y2, by rw [Act.run_bind_ok (Act.run_attempt_err hy1)]; exact hy2, hh⟩
  | panic => exact hcall.returns.elim
  | outOfFuel => exact hcall.returns.elim

end Calls

end Pcd

end Iso14443
