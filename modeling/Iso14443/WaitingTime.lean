/-
  Waiting-time extensions (`Pcd::exchange`, `ProtocolHandler::check_wtx`).

  Two runs are compared: an exchange with some card, and the same exchange with the same card asking
  for more time before some of its answers (`Iso14443.Extending`, `Iso14443.Granting`).

  1. **The receive loop** grants every request.  A request costs one round of `collect_response`, so
     the requests before one answer are taken off one by one (`drain_one`, `drain`), and after them
     the loop is where it would be without them (`collectResponse_extended`).

  2. **The send loop** has no case for a request: an S(WTX) in the place of an R-Block falls under its
     last arm and ends the exchange.  `Sends` says both halves of this for a stretch of the log: with
     no request before an R-Block the loop brings the same block, and with one it ends.  Its three
     lemmas follow the rounds: the last chunk, a chunk with nothing before its R-Block, and a chunk
     with a request there.

  3. **The crux** — the two loops share one log.  The condition speaks of all of it, and each loop
     decides its own part: a response that comes in has no R-Block (`collectResponse_noRblock`), so
     what comes before an R-Block comes before one of the send loop (`quiet_append_iff`).

  4. **The exchange** — `exchange_extended`: exactly when the requests do not show.
-/
import Iso14443.Granting

namespace Iso14443

open ProtocolHandler

namespace Pcd

variable {T E : Type} [Build] [PcdTransceiver T E]

section Calls

variable {s : Pcd T} {plan : Nat → List Block} {log : List (Frame × Except E FrameVec)}
  {x x' : Pcd (Tally T E)} {y : Pcd (Extending T E)} {c : Spent}

/-! ## The receive loop

  Every request is one more round of the loop, which brings the next request, or the answer. -/

omit [PcdTransceiver T E] in
/-- The card takes the reader's answer to a request for one. -/
theorem acknowledges_response (hwCrc : Bool) (h : ProtocolHandler) {w : Block} (hw : IsRequest w) :
    acknowledges hwCrc (.standard ((h.buildWtxResponse w.wire).raw hwCrc)) w = true := by
  have hlen := hw.response_fits h
  have hread := Block.readBlock_raw hwCrc (h.wellFormed_buildWtxResponse w.wire) (by omega)
  have hwtx : (h.buildWtxResponse w.wire).isWtx = true := by
    cases hcid : h.cid <;> simp [buildWtxResponse, addCid, hcid] <;> rfl
  refine (acknowledges_of_read hread).trans ?_
  exact Bool.and_eq_true_iff.mpr ⟨hwtx, decide_eq_true rfl⟩

/-- The session with requests once its handler is at `k`, and `ws` are left before the answer. -/
def granted (s : Pcd T) (plan : Nat → List Block) (x : Pcd (Tally T E)) (y : Pcd (Extending T E))
    (k : ProtocolHandler) (ws : List Block) (answer : Except E FrameVec) : Pcd (Extending T E) :=
  { y with
    handler := k
    transceiver := ⟨x.transceiver.inner, s.hwCrc, plan, x.calls.length, heldBack ws answer⟩ }

/-- The card is content with the answer to its request, and gives out what comes next. -/
theorem Beside.run_response (hs : s.IsSet) {w : Block} {ws : List Block}
    {answer : Except E FrameVec} {b : Block} {ahead : List (List Block × Block)}
    (hbes : Beside s plan x y (heldBack (w :: ws) answer) c ahead)
    (hws : ∀ v ∈ w :: ws, IsRequest v) (hb : s.received answer = .ok b) (k : ProtocolHandler) :
    (transceiveBlock (y.handler.buildWtxResponse w.wire)).run { y with handler := k } =
      (.ok (first ws b), granted s plan x y k ws answer) := by
  have hw : IsRequest w := hws w List.mem_cons_self
  let t : Extending T E :=
    ⟨x.transceiver.inner, s.hwCrc, plan, x.calls.length, some (w, ws, answer)⟩
  have hcall : PcdTransceiver.transceive t
      (.standard ((y.handler.buildWtxResponse w.wire).raw y.hwCrc)) = t.next ws answer := by
    rw [hbes.hwCrc']
    exact Extending.transceive_acknowledged rfl (acknowledges_response _ _ hw)
  obtain ⟨hfirst, hnext⟩ :=
    received_next hs t rfl (fun v hv => hws v (List.mem_cons_of_mem _ hv)) hb
  let y' : Pcd (Extending T E) := { y with handler := k }
  have hframe := frameFor_of_fits y'.hwCrc (hw.response_fits y.handler)
  have hread : y'.received (t.next ws answer).1 = .ok (first ws b) :=
    (received_congr hbes.hwCrc' hbes.fsd' _).trans hfirst
  have hcard : y'.transceiver = t := hbes.card
  show (transceiveBlock (y.handler.buildWtxResponse w.wire)).run y' = _
  rw [run_transceiveBlock hframe, hcard, hcall, hread, hnext]
  rfl

/-- **One request granted**: the round costs a frame and brings the next block. -/
theorem drain_one (hs : s.IsSet) {w : Block} {ws : List Block} {b : Block}
    (h : Holds s plan log x y (w :: ws) b c) :
    ∃ y', (∀ fuel, (collectResponse (fuel + 1) (first (w :: ws) b)).run y =
        (collectResponse fuel (first ws b)).run y') ∧
      Holds s plan log x y' ws b (c.ask 1) := by
  obtain ⟨hws, answer, hb, hbes⟩ := h
  obtain ⟨hin, hrest⟩ := hbes.within
  obtain ⟨k, hk, hlift⟩ :=
    hbes.lifted.request (hws w List.mem_cons_self) (Spent.Within.of_ask hin)
  have hcall := hbes.run_response hs hws hb k
  refine ⟨granted s plan x y k ws answer, ?_, fun v hv => hws v (List.mem_cons_of_mem _ hv), answer,
    hb, ?_⟩
  · intro fuel
    show (collectResponse (fuel + 1) w.wire).run y = _
    rw [run_collectResponse hk]
    dsimp only
    rw [transceiveWithRecovery, Act.run_bind, Act.run_bind_ok (Act.run_attempt_ok hcall)]
    rfl
  · refine ⟨rfl, hbes.hwCrc, hbes.hwCrc', hbes.fsc, hbes.fsc', hbes.fsd, hbes.fsd', hlift, ?_, ?_⟩
    · rw [← Spent.ask_succ]
      exact hin
    · rw [← Spent.ask_succ]
      exact hrest

/-- **The requests before one answer**, granted one by one. -/
theorem drain (hs : s.IsSet) (ws : List Block) : ∀ {y c} {b : Block},
    Holds s plan log x y ws b c →
    ∃ y', (∀ fuel, (collectResponse (fuel + ws.length) (first ws b)).run y =
        (collectResponse fuel b).run y') ∧
      Holds s plan log x y' [] b (c.ask ws.length) := by
  induction ws with
  | nil =>
    intro y c b h
    exact ⟨y, fun _ => rfl, h⟩
  | cons w ws ih =>
    intro y c b h
    obtain ⟨y1, hy1, h1⟩ := drain_one hs h
    obtain ⟨y2, hy2, h2⟩ := ih h1
    refine ⟨y2, ?_, ?_⟩
    · intro fuel
      rw [List.length_cons, ← Nat.add_assoc, hy1, hy2]
    · rw [List.length_cons, Spent.ask_succ]
      exact h2

omit [PcdTransceiver T E] in
/-- **The answer itself**, once no request is left before it, is taken in by both. -/
theorem Holds.receive {b : Block} {a : Action} {k : ProtocolHandler}
    (h : Holds s plan log x y [] b c) (hr : receive x.handler b = (.ok a, k)) :
    ∃ k', ProtocolHandler.receive y.handler b = (.ok a, k') ∧
      Ready s plan log { x with handler := k } { y with handler := k' } (c.after x.handler b) := by
  obtain ⟨-, answer, -, hbes⟩ := h
  obtain ⟨hin, hrest⟩ := hbes.within
  obtain ⟨k', hk', hlift⟩ := hbes.lifted.receive hr hin
  rw [hr] at hrest
  exact ⟨k', hk', hbes.card, hbes.hwCrc, hbes.hwCrc', hbes.fsc, hbes.fsc', hbes.fsd, hbes.fsd', hlift,
    hrest⟩

/-- **The receive loop does not show the requests.** Those before one answer are taken off first
    (`drain`); then both loops make one round, and the induction on the fuel goes on. -/
theorem collectResponse_extended (hs : s.IsSet) (hplan : ∀ i, ∀ w ∈ plan i, IsRequest w)
    (hplaced : Placed s plan log) (fuel : Nat) : ∀ {x y c ws} {b : Block} {data : ChainVec},
    Holds s plan log x y ws b c →
    (collectResponse fuel b).run x = (.ok data, x') → x'.calls <+: log →
    ∃ n y', (∀ fuel', n ≤ fuel' → (collectResponse fuel' (first ws b)).run y = (.ok data, y')) ∧
      y'.handler.blockNumber = x'.handler.blockNumber := by
  induction fuel with
  | zero =>
    intro x y c ws b data _ hrun _
    cases hrun
  | succ fuel ih =>
    intro x y c ws b data h hrun hlog
    obtain ⟨y1, hy1, h1⟩ := drain hs ws h
    have hround := collectResponse_round (E := E) fuel b x
    rw [hrun] at hround
    generalize hout : ((Res.ok data, x') : Res (PcdError E) ChainVec × Pcd (Tally T E)) = out at hround
    cases hround with
    | complete hr =>
      cases hout
      obtain ⟨k', hk', hready⟩ := h1.receive hr
      refine ⟨1 + ws.length, { y1 with handler := k' }, ?_, hready.lifted.blockNumber⟩
      intro fuel' hle
      obtain ⟨m, rfl⟩ := Nat.exists_eq_add_of_le hle
      rw [show 1 + ws.length + m = m + 1 + ws.length by omega, hy1, run_collectResponse hk']
      rfl
    | reply hr =>
      -- the reply goes out on both sides, and the next block comes in
      obtain ⟨k', hk', hready⟩ := h1.receive hr
      obtain ⟨b2, x2, hx2, hrest⟩ := Act.run_bind_eq_ok.mp hout.symm
      have hgrow : x2.calls <+: x'.calls := by
        have hg := collectResponse_grows fuel b2 x2
        rw [hrest] at hg
        exact hg
      obtain ⟨ws2, y2, hy2, h2⟩ := recovery_ok hs hplan hplaced hready hx2 (hgrow.trans hlog)
      obtain ⟨n, y3, hy3, hnum⟩ := ih h2 hrest hlog
      refine ⟨n + 1 + ws.length, y3, ?_, hnum⟩
      intro fuel' hle
      obtain ⟨m, rfl⟩ := Nat.exists_eq_add_of_le hle
      rw [show n + 1 + ws.length + m = n + m + 1 + ws.length by omega, hy1,
        run_collectResponse hk']
      dsimp only
      rw [Act.run_bind_ok hy2]
      exact hy3 (n + m) (Nat.le_add_right n m)
    | acknowledged hr ha => cases hout
    | refused hr => cases hout

/-! ## The send loop

  The last chunk of a command brings the first block of the response, and that goes to the receive
  loop, requests and all.  Only what comes before an R-Block is the send loop's own business. -/

omit [PcdTransceiver T E] in
/-- An R-Block is what the send loop goes on after. -/
theorem isRblock_of_next {h k : ProtocolHandler} {b : Block} {a : Action} {maxInf offset o : Nat}
    (hr : receive h b = (.ok a, k)) (ha : nextOffset maxInf offset a = some o) :
    b.blockType = .rBlock := by
  have hrec := processReceived_received h b
  rw [show (processReceived b).run h = _ from hr] at hrec
  cases hrec with
  | release _ ht _ => exact ht
  | repeatLast _ ht _ _ => exact ht
  | _ => cases ha

/-- What the send loop of `y` makes of the requests, where the one of `x` brings `b` in the end: they
    do not show where none is in the place of an R-Block, and end the exchange where one is. -/
def Sends (s : Pcd T) (plan : Nat → List Block) (log : List (Frame × Except E FrameVec))
    (apdu : List UInt8) (maxInf fuel offset : Nat) (x x' : Pcd (Tally T E))
    (y : Pcd (Extending T E)) (b : Block) : Prop :=
  ∃ seg, x'.calls = x.calls ++ seg ∧
    (Quiet (script s plan x.calls.length seg) → ∃ ws y' c',
      (∀ fuel', fuel ≤ fuel' →
        (sendLoop apdu maxInf fuel' offset none).run y = (.ok (some (first ws b)), y')) ∧
      Holds s plan log x' y' ws b c') ∧
    (¬ Quiet (script s plan x.calls.length seg) →
      ∀ fuel' v, ((sendLoop apdu maxInf fuel' offset none).run y).1 ≠ .ok v)

section Sends

variable {apdu : List UInt8} {maxInf offset fuel : Nat} {b resp : Block}

/-- The last chunk: what it brings is left to the receive loop. -/
theorem sends_last (hs : s.IsSet) (hplan : ∀ i, ∀ w ∈ plan i, IsRequest w) (hmax : maxInf ≤ 256)
    (h : Ready s plan log x y c) (hoff : offset < apdu.length) (hend : apdu.length ≤ offset + maxInf)
    (hrun : (sendLoop apdu maxInf (fuel + 1) offset none).run x = (.ok (some b), x'))
    (hlog : x'.calls <+: log) (hnr : b.blockType ≠ .rBlock) :
    Sends s plan log apdu maxInf (fuel + 1) offset x x' y b := by
  rw [run_sendLoop_last fuel none x hoff hend hmax] at hrun
  obtain ⟨b', x1, hx1, hrun⟩ := Act.run_bind_eq_ok.mp hrun
  cases hrun
  obtain ⟨ws, y1, hy1, hh, e, hcalls, hws, he⟩ := call_ok hs hplan h hx1 hlog
  rw [← h.lifted.iblockOf] at hy1
  refine ⟨[e], hcalls, ?_, ?_⟩
  · intro _
    refine ⟨ws, y1, c, ?_, hh⟩
    intro fuel' hle
    obtain ⟨m, rfl⟩ := Nat.exists_eq_add_of_le hle
    rw [show fuel + 1 + m = fuel + m + 1 by omega, run_sendLoop_last _ none y hoff hend hmax,
      Act.run_bind_ok hy1]
    rfl
  · intro hquiet
    refine absurd ?_ hquiet
    rw [script, he, script, ← hws]
    intro p hp _
    rw [List.mem_singleton.mp hp]
    exact hnr

variable {x1 : Pcd (Tally T E)} {y1 : Pcd (Extending T E)} {a : Action} {k k' : ProtocolHandler}
  {next : Nat} {e : Frame × Except E FrameVec}

/-- Another chunk to come, and no request before the answer: both loops go on.  The handler that has
    counted more accepts the same R-Block. -/
theorem sends_next (hmax : maxInf ≤ 256) (hoff : offset < apdu.length)
    (hmore : offset + maxInf < apdu.length) (hcalls : x1.calls = x.calls ++ [e])
    (hscript : ∀ seg, script s plan x.calls.length (e :: seg) =
      ([], resp) :: script s plan x1.calls.length seg)
    (hy1 : (transceiveBlock (y.handler.iblockOf (chunkAt apdu maxInf offset) true)).run y =
      (.ok resp, y1))
    (hk' : receive y1.handler resp = (.ok a, k')) (hnext : nextOffset maxInf offset a = some next)
    (h : Sends s plan log apdu maxInf fuel next { x1 with handler := k } x'
      { y1 with handler := k' } b) :
    Sends s plan log apdu maxInf (fuel + 1) offset x x' y b := by
  obtain ⟨seg, hseg, hyes, hno⟩ := h
  have hquiet : Quiet (script s plan x.calls.length (e :: seg)) ↔
      Quiet (script s plan x1.calls.length seg) := by
    rw [hscript]
    simp [Quiet]
  refine ⟨e :: seg, ?_, ?_, ?_⟩
  · rw [hseg]
    show x1.calls ++ seg = _
    rw [hcalls, List.append_assoc]
    rfl
  · intro hq
    obtain ⟨ws, y2, c', hy2, hh2⟩ := hyes (hquiet.mp hq)
    refine ⟨ws, y2, c', ?_, hh2⟩
    intro fuel' hle
    obtain ⟨m, rfl⟩ := Nat.exists_eq_add_of_le hle
    rw [show fuel + 1 + m = fuel + m + 1 by omega, run_sendLoop_round _ hmore hmax hy1 hk', hnext]
    exact hy2 (fuel + m) (Nat.le_add_right _ _)
  · intro hq fuel' v
    cases fuel' with
    | zero => rw [sendLoop, if_pos hoff]; simp
    | succ m =>
      rw [run_sendLoop_round _ hmore hmax hy1 hk', hnext]
      exact hno (fun h => hq (hquiet.mpr h)) m v

/-- A request in the place of the R-Block. -/
theorem sends_requested (hmax : maxInf ≤ 256) (hoff : offset < apdu.length)
    (hmore : offset + maxInf < apdu.length) (hcalls : x1.calls = x.calls ++ [e])
    (hgrow : x1.calls <+: x'.calls) {w : Block} {ws : List Block}
    (hscript : ∀ seg, script s plan x.calls.length (e :: seg) =
      (w :: ws, resp) :: script s plan x1.calls.length seg) (hrb : resp.blockType = .rBlock)
    (hy1 : (transceiveBlock (y.handler.iblockOf (chunkAt apdu maxInf offset) true)).run y =
      (.ok w.wire, y1)) (hh : Holds s plan log x1 y1 (w :: ws) resp c) :
    Sends s plan log apdu maxInf (fuel + 1) offset x x' y b := by
  obtain ⟨rest, hrest⟩ := hgrow
  refine ⟨e :: rest, by rw [← hrest, hcalls, List.append_assoc]; rfl, ?_, ?_⟩
  · intro hq
    rw [hscript] at hq
    exact absurd hrb (hq _ List.mem_cons_self (by simp))
  · intro _ fuel' v
    obtain ⟨hwr, answer, -, hbes⟩ := hh
    obtain ⟨hin, -⟩ := hbes.within
    obtain ⟨k', hk', -⟩ := hbes.lifted.request (hwr w List.mem_cons_self) (Spent.Within.of_ask hin)
    cases fuel' with
    | zero => rw [sendLoop, if_pos hoff]; simp
    | succ m =>
      rw [run_sendLoop_round _ hmore hmax hy1 hk']
      simp [nextOffset]

end Sends

/-- **The send loop**: the requests do not show where none is in the place of an R-Block, and end
    the exchange where one is. -/
theorem sendLoop_extended (hs : s.IsSet) (hplan : ∀ i, ∀ w ∈ plan i, IsRequest w)
    {apdu : List UInt8} {maxInf : Nat} (hmax : maxInf ≤ 256) (fuel : Nat) :
    ∀ {x y c offset} {b : Block}, Ready s plan log x y c → offset < apdu.length →
    (sendLoop apdu maxInf fuel offset none).run x = (.ok (some b), x') → x'.calls <+: log →
    b.blockType ≠ .rBlock → Sends s plan log apdu maxInf fuel offset x x' y b := by
  induction fuel with
  | zero =>
    intro x y c offset b _ hoff hrun _ _
    rw [sendLoop, if_pos hoff] at hrun
    cases hrun
  | succ fuel ih =>
    intro x y c offset b h hoff hrun hlog hnr
    by_cases hend : apdu.length ≤ offset + maxInf
    · exact sends_last hs hplan hmax h hoff hend hrun hlog hnr
    · have hmore : offset + maxInf < apdu.length := Nat.lt_of_not_le hend
      -- one round without requests, and the block it brings
      obtain ⟨resp, x1, a, k, next, hx1, hr, hnext, hrun⟩ := sendLoop_round_ok hmore hmax hrun
      have hoff' : next < apdu.length := by
        cases a <;> simp only [nextOffset, Option.some.injEq, reduceCtorEq] at hnext <;> omega
      have hgrow : x1.calls <+: x'.calls := by
        have hg := sendLoop_grows apdu maxInf fuel next none
          ({ x1 with handler := k } : Pcd (Tally T E))
        rw [hrun] at hg
        exact hg
      obtain ⟨ws, y1, hy1, hh, e, hcalls, hws, he⟩ := call_ok hs hplan h hx1 (hgrow.trans hlog)
      rw [← h.lifted.iblockOf] at hy1
      have hscript : ∀ seg, script s plan x.calls.length (e :: seg) =
          (ws, resp) :: script s plan x1.calls.length seg := by
        intro seg
        rw [script, he, hws, hcalls]
        simp
      cases ws with
      | nil =>
        -- no request before the R-Block: both go on
        obtain ⟨k', hk', hready⟩ := hh.receive hr
        exact sends_next hmax hoff hmore hcalls hscript hy1 hk' hnext
          (ih hready hoff' hrun hlog hnr)
      | cons w ws =>
        -- one before it: the loop with requests ends here
        exact sends_requested hmax hoff hmore hcalls hgrow hscript (isRblock_of_next hr hnext) hy1 hh

/-! ## The exchange

  The log of the exchange is the log of the one loop and then of the other. -/

omit [PcdTransceiver T E] in
/-- A block of the script was received in some call. -/
theorem mem_script {s : Pcd T} {plan : Nat → List Block} {p : List Block × Block} :
    ∀ {log : List (Frame × Except E FrameVec)} {i : Nat}, p ∈ script s plan i log →
    ∃ e ∈ log, s.received e.2 = .ok p.2 := by
  intro log
  induction log with
  | nil => intro i hp; cases hp
  | cons e log ih =>
    intro i hp
    rw [script] at hp
    split at hp
    · rename_i b hb
      rcases List.mem_cons.mp hp with rfl | hp
      · exact ⟨e, List.mem_cons_self, hb⟩
      · obtain ⟨e', he', hb'⟩ := ih hp
        exact ⟨e', List.mem_cons_of_mem _ he', hb'⟩
    · obtain ⟨e', he', hb'⟩ := ih hp
      exact ⟨e', List.mem_cons_of_mem _ he', hb'⟩

omit [PcdTransceiver T E] in
/-- The script of two logs one after the other, with the places counted on. -/
theorem script_append (s : Pcd T) (plan : Nat → List Block)
    (log log' : List (Frame × Except E FrameVec)) (i : Nat) :
    script s plan i (log ++ log') = script s plan i log ++ script s plan (i + log.length) log' := by
  induction log generalizing i with
  | nil => rfl
  | cons e log ih =>
    rw [List.cons_append, script, script, List.length_cons, show i + (log.length + 1) =
      i + 1 + log.length by omega]
    split
    · rw [ih, List.cons_append]
    · rw [ih]

omit [PcdTransceiver T E] in
/-- Where the rest of the log has no R-Block, its first part decides. -/
theorem quiet_append_iff {s : Pcd T} {plan : Nat → List Block}
    {log rest : List (Frame × Except E FrameVec)} {i : Nat}
    (hrest : ∀ e ∈ rest, ∀ b, s.received e.2 = .ok b → b.blockType ≠ .rBlock) :
    Quiet (script s plan i (log ++ rest)) ↔ Quiet (script s plan i log) := by
  rw [script_append]
  constructor
  · intro h p hp
    exact h p (List.mem_append_left _ hp)
  · intro h p hp hne
    rcases List.mem_append.mp hp with hp | hp
    · exact h p hp hne
    · obtain ⟨e, he, hb⟩ := mem_script hp
      exact hrest e he p.2 hb

/-- The send loop reads its answers as before. -/
theorem sendLoop_received (apdu : List UInt8) (maxInf fuel offset : Nat) (last : Option Block)
    (x : Pcd (Tally T E)) (answer : Except E FrameVec) :
    ((sendLoop apdu maxInf fuel offset last).run x).2.received answer = x.received answer := by
  have h := sendLoop_state (P := fun x' : Pcd (Tally T E) => x'.hwCrc = x.hwCrc ∧ x'.fsd = x.fsd)
    (fun block x' h => ⟨(calls_transceiveBlock block x').hwCrc.trans h.1,
      (calls_transceiveBlock block x').fsd.trans h.2⟩) (fun _ _ h => h) apdu maxInf fuel offset last
    x ⟨rfl, rfl⟩
  exact received_congr h.1 h.2 answer

/-- The send loop leaves the role as it is. -/
theorem sendLoop_role (apdu : List UInt8) (maxInf fuel offset : Nat) (last : Option Block)
    (x : Pcd (Tally T E)) :
    ((sendLoop apdu maxInf fuel offset last).run x).2.handler.role = x.handler.role := by
  refine sendLoop_state (P := fun x' : Pcd (Tally T E) => x'.handler.role = x.handler.role)
    ?_ ?_ apdu maxInf fuel offset last x rfl
  · intro block x' hx'
    rw [(calls_transceiveBlock block x').handler]
    exact hx'
  · intro b x' hx'
    exact (Event.role_eq (real_event x'.handler b)).trans hx'

/-- **The answers to a call with recovery**: the ones before the last carry no block. -/
theorem recovery_answers {reply b : Block} {receivingChain : Bool}
    (hrun : (transceiveWithRecovery reply receivingChain).run x = (.ok b, x')) :
    x'.handler = x.handler ∧ (∀ answer : Except E FrameVec, x'.received answer = x.received answer) ∧
      ∃ seg, x'.calls = x.calls ++ seg ∧
        ∀ e ∈ seg, ∀ b', x.received e.2 = .ok b' → b' = b := by
  have hcalls := calls_of_recovery hrun
  obtain ⟨failed, hfailed, last, hlog, hlast⟩ := hcalls.attempts
  refine ⟨hcalls.handler, received_congr hcalls.hwCrc hcalls.fsd, failed ++ [last], ?_, ?_⟩
  · rw [hlog, List.append_assoc]
  · intro e he b' hb'
    rcases List.mem_append.mp he with he | he
    · exact absurd hb' (hfailed e he b')
    · obtain rfl := List.mem_singleton.mp he
      exact Res.ok.inj (hb'.symm.trans hlast)

/-- **No R-Block while a response is collected**: it would end the exchange.  So in a log of an
    exchange that succeeds the R-Blocks are those that answer the command. -/
theorem collectResponse_noRblock (fuel : Nat) : ∀ {x : Pcd (Tally T E)} {b : Block}
    {data : ChainVec}, x.handler.role = .pcd →
    (collectResponse fuel b).run x = (.ok data, x') → b.blockType ≠ .rBlock ∧
    ∃ seg, x'.calls = x.calls ++ seg ∧
      ∀ e ∈ seg, ∀ b', x.received e.2 = .ok b' → b'.blockType ≠ .rBlock := by
  induction fuel with
  | zero =>
    intro x b data _ hrun
    cases hrun
  | succ fuel ih =>
    intro x b data hrole hrun
    have hround := collectResponse_round (E := E) fuel b x
    rw [hrun] at hround
    generalize hout : ((Res.ok data, x') : Res (PcdError E) ChainVec × Pcd (Tally T E)) = out at hround
    -- of the endings on an R-Block, a reader has the two that do not go on here
    have hnr : ∀ {a k}, receive x.handler b = (.ok a, k) →
        a ≠ .chainingAck ∧ a ≠ .chainingRetransmit → b.blockType ≠ .rBlock := by
      intro a k hr ha ht
      rcases receive_rblock hrole ht hr with h | h
      · exact ha.1 h
      · exact ha.2 h
    cases hround with
    | complete hr =>
      cases hout
      exact ⟨hnr hr (by simp), [], by rw [List.append_nil]; rfl, by simp⟩
    | @reply reply k hr =>
      have hrole' : k.role = .pcd := by
        have hk := Event.role_eq (real_event x.handler b)
        rw [Run.event_after, Run.event_before, hr] at hk
        exact hk.trans hrole
      obtain ⟨b2, x2, hx2, hrest⟩ := Act.run_bind_eq_ok.mp hout.symm
      obtain ⟨hhandler, hcongr, seg, hseg, hall⟩ := recovery_answers hx2
      obtain ⟨hb2, seg', hseg', hno⟩ := ih (by rw [hhandler]; exact hrole') hrest
      refine ⟨hnr hr (by simp), seg ++ seg', ?_, ?_⟩
      · rw [hseg', hseg, List.append_assoc]
        rfl
      · intro e he b' hb'
        rcases List.mem_append.mp he with he | he
        · rw [hall e he b' hb']
          exact hb2
        · exact hno e he b' ((hcongr e.2).trans hb')
    | acknowledged hr ha => cases hout
    | refused hr => cases hout

/-- **The send loop decides**: what comes in after it has no R-Block. -/
theorem quiet_log_iff (plan : Nat → List Block) (hrole : x.handler.role = .pcd) (hcrc : x.hwCrc = s.hwCrc)
    (hfsd : x.fsd = s.fsd) {apdu : List UInt8} {maxInf fuel offset : Nat}
    {x1 : Pcd (Tally T E)} {b : Block} {data : ChainVec}
    (hsend : (sendLoop apdu maxInf fuel offset none).run x = (.ok (some b), x1))
    (hcollect : (collectResponse fuel b).run x1 = (.ok data, x')) :
    b.blockType ≠ .rBlock ∧ ∀ {seg}, x1.calls = seg →
      (Quiet (script s plan 0 x'.calls) ↔ Quiet (script s plan 0 seg)) := by
  have hrole1 : x1.handler.role = .pcd := by
    have hkeep := sendLoop_role apdu maxInf fuel offset none x
    rw [hsend] at hkeep
    exact hkeep.trans hrole
  obtain ⟨hnr, seg', hseg', hno⟩ := collectResponse_noRblock fuel hrole1 hcollect
  refine ⟨hnr, ?_⟩
  rintro seg rfl
  rw [hseg']
  refine quiet_append_iff fun e he b' hb' => hno e he b' ?_
  have hread := sendLoop_received apdu maxInf fuel offset none x e.2
  rw [hsend] at hread
  exact (hread.trans (received_congr hcrc hfsd e.2)).trans hb'

end Calls

/-- **Waiting-time extensions do not show exactly where none is asked for in the place of an
    R-Block.**  An exchange that succeeds with some card succeeds with the same response, and the
    same block number after it, when the card asks for more time before its answers, as long as the
    limits allow it; the exception is a request before the R-Block that answers a chained command
    block. -/
theorem exchange_extended (s : Pcd T) (hs : s.IsSet) (plan : Nat → List Block) (apdu : List UInt8)
    {fuel : Nat} {r : ChainVec} {x' : Pcd (Tally T E)}
    (hok : (exchange fuel apdu).run (tallied s) = (.ok r, x'))
    (hplan : ∀ i, ∀ w ∈ plan i, IsRequest w) (hplaced : Placed s plan x'.calls)
    (hlim : WithinLimits s.handler.beginExchange {} (script s plan 0 x'.calls)) :
    (∃ (fuel' : Nat) (y' : Pcd (Extending T E)),
      (exchange fuel' apdu).run (extended s plan) = (.ok r, y') ∧
      y'.handler.blockNumber = x'.handler.blockNumber) ↔ Quiet (script s plan 0 x'.calls) := by
  obtain ⟨fsci, hfsc⟩ := hs.fsc
  have hbounds := fsci.fsc_bounds
  have hinf : s.maxInf ≠ 0 ∧ s.maxInf ≤ 256 := by
    unfold maxInf
    split <;> omega
  let x0 : Pcd (Tally T E) := { tallied s with handler := s.handler.beginExchange }
  let y0 : Pcd (Extending T E) := { extended s plan with handler := s.handler.beginExchange }
  have hready : Ready s plan x'.calls x0 y0 {} :=
    ⟨rfl, rfl, rfl, rfl, rfl, rfl, rfl, ⟨rfl, rfl, rfl, rfl, rfl, rfl, Nat.le_refl _, Nat.le_refl _,
      Nat.le_refl _⟩, hlim⟩
  -- the exchange is a send loop and a receive loop
  obtain ⟨b, x1, hsend, hcollect⟩ := (exchange_ok_iff (s := tallied s) hinf.1).mp hok
  have hsend : (sendLoop apdu s.maxInf fuel 0 none).run x0 = (.ok (some b), x1) := hsend
  have hne : 0 < apdu.length := by
    by_contra hempty
    rw [sendLoop_done (by omega)] at hsend
    cases hsend
  have hgrow : x1.calls <+: x'.calls := by
    have hg := collectResponse_grows fuel b x1
    rw [hcollect] at hg
    exact hg
  obtain ⟨hnr, hquiet⟩ :=
    quiet_log_iff (s := s) (x := x0) plan hs.role rfl rfl hsend hcollect
  obtain ⟨seg, hseg, hyes, hfail⟩ :=
    sendLoop_extended hs hplan hinf.2 fuel hready hne hsend hgrow hnr
  rw [hquiet hseg]
  constructor
  · -- a request before an R-Block is the end of the send loop
    rintro ⟨fuel', y', hy', -⟩
    obtain ⟨v, y1, hy1, -⟩ := (exchange_ok_iff (s := extended s plan) hinf.1).mp hy'
    by_contra hq
    exact hfail hq fuel' _ (congrArg Prod.fst hy1)
  · -- without one, both loops bring what they bring without requests
    intro hq
    obtain ⟨ws, y1, c, hy1, hholds⟩ := hyes hq
    obtain ⟨n, y2, hy2, hnum⟩ :=
      collectResponse_extended hs hplan hplaced fuel hholds hcollect List.prefix_rfl
    exact ⟨max fuel n, y2, (exchange_ok_iff (s := extended s plan) hinf.1).mpr
      ⟨first ws b, y1, hy1 _ (Nat.le_max_left _ _), hy2 _ (Nat.le_max_right _ _)⟩, hnum⟩

/-! ## A chained command, with and without a request

  The same exchange twice, with the request in one place and in the other. -/

/-- A session with a card of FSC 16 that acknowledges the first chunk of a command, and answers the
    second one. -/
def chainedSession : Pcd Scripted :=
  new ⟨[[0xA2], [0x03, 0x42]]⟩ (Ats.new .fsc16 0 {} 0) .fsd64 none true

/-- A command of two chunks: 13 bytes fit. -/
def chainedApdu : List UInt8 := List.replicate 14 0x5A

/-- One request, before the answer in one place. -/
def askAt (place : Nat) (i : Nat) : List Block := if i = place then [wtxBlock 0x05] else []

omit [Build] in
/-- It is a request that a card may make. -/
theorem isRequest_askAt (place : Nat) : ∀ i, ∀ w ∈ askAt place i, IsRequest w := by
  intro i w hw
  unfold askAt at hw
  split at hw
  · rw [List.mem_singleton.mp hw]
    exact ⟨⟨by decide, by decide⟩, by decide, by decide⟩
  · cases hw

omit [Build] in
/-- Both answers carry a block, so a request may come before either. -/
theorem placed_askAt (place : Nat) : let : Build := Build.heap
    Placed chainedSession (askAt place)
      ((exchange 4 chainedApdu).run (tallied chainedSession)).2.calls := by
  intro _ i e he _
  have hall : ∀ e ∈ ((@exchange _ _ Build.heap _ 4 chainedApdu).run
      (tallied (@chainedSession Build.heap))).2.calls,
      (@received _ _ Build.heap (@chainedSession Build.heap) e.2).isOk = true := by decide +kernel
  have h := hall e (List.mem_of_getElem? he)
  generalize chainedSession.received e.2 = r at h ⊢
  cases r with
  | ok b => exact ⟨b, rfl⟩
  | _ => cases h

/-- The session without requests, and with one before the answer in one place. -/
def chainedTallied : Pcd (Tally Scripted Unit) := tallied chainedSession

/-- The session with one request, before the answer in one place. -/
def chainedExtended (place : Nat) : Pcd (Extending Scripted Unit) :=
  extended chainedSession (askAt place)

omit [Build] in
/-- A request before the response does not show. -/
theorem exchange_extended_sample : let : Build := Build.heap
    ∃ fuel' y', (exchange fuel' chainedApdu).run (chainedExtended 1) = (.ok [0x42], y') ∧
      y'.handler.blockNumber =
        ((exchange 4 chainedApdu).run chainedTallied).2.handler.blockNumber := by
  intro _
  have hok : ((exchange 4 chainedApdu).run chainedTallied).1 = .ok [0x42] := rfl
  refine (exchange_extended chainedSession ⟨⟨.fsc16, rfl⟩, ⟨.fsd64, rfl⟩, rfl⟩ (askAt 1) chainedApdu
    (Prod.ext hok rfl) (isRequest_askAt 1) (placed_askAt 1) ?_).mpr ?_
  · decide +kernel
  · decide +kernel

omit [Build] in
/-- **A request before the R-Block of a chained command ends the exchange**, whatever the limits. -/
theorem exchange_extended_fails : let : Build := Build.heap
    ((exchange 4 chainedApdu).run chainedTallied).1 = .ok [0x42] ∧
    (∀ i, ∀ w ∈ askAt 0 i, IsRequest w) ∧
    Placed chainedSession (askAt 0) ((exchange 4 chainedApdu).run chainedTallied).2.calls ∧
    WithinLimits chainedSession.handler.beginExchange {}
      (script chainedSession (askAt 0) 0 ((exchange 4 chainedApdu).run chainedTallied).2.calls) ∧
    ∀ fuel r, ((exchange fuel chainedApdu).run (chainedExtended 0)).1 ≠ .ok r := by
  intro _
  refine ⟨rfl, isRequest_askAt 0, placed_askAt 0, by decide +kernel, ?_⟩
  intro fuel r
  cases fuel with
  | zero =>
    have hrun : ((exchange 0 chainedApdu).run (chainedExtended 0)).1 = .outOfFuel := rfl
    rw [hrun]
    simp
  | succ fuel =>
    -- the first answer is the request, for which the send loop has no case
    have hrun : ((exchange (fuel + 1) chainedApdu).run (chainedExtended 0)).1 =
      .err (.protocol .other) := rfl
    rw [hrun]
    simp

end Pcd

end Iso14443
