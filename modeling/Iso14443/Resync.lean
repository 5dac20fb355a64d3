/-
  Back in step.

  Whatever a link has lost, and whatever became of the exchanges, reader and card are still in
  their session (`Iso14443.Lasting`).  But the block number of the card and what it has of a
  command may be those of an exchange the reader gave up: the next commands are refused, taken for
  repeated ones, or handed over with the rest of an older one before them.  This file bounds how
  long that lasts.

  **The measure** is `lag`: how many commands of one I-Block, over a link that loses nothing, it
  takes at most until the card is in `receive_command`, with nothing left of an older command, no
  counter of an older exchange, and the number the reader expects.  It is read off the call the
  card waits in and its handler, and is six at the worst.

  **One probe** (`Probing`: a reader about to send one, and what the limits have to allow) does one
  of three things to a card that is off, and each of them brings it closer:

  1. `Probing.refused`   the card fails on it, and its call starts over;
  2. `Probing.repeated`  the card takes it for a block it has already seen, and answers an R(ACK),
                         which makes the reader go on to the next number;
  3. `Probing.taken`     the card takes it for new, and hands over what it has.

  The one way this could go on without end is a card that refuses for the same reason again;
  `Probing.not_fresh` rules it out: a call that has counted nothing has a retransmission left.

  `exchange_lag` puts the three together, and `exchanges_resync` runs it: after six probes every
  exchange is delivered, as on the first day.
-/
import Iso14443.Lasting
import Iso14443.Loopback

namespace Iso14443

open ProtocolHandler

/-! ## How far the card is off

  The worst case has four parts: the call of an old response or command, its counters, what it has
  of an older command, and the number. -/

/-- How many commands of one I-Block it takes at most until a card in this call, with handler `h`, is
    in `receive_command` with nothing left of an older command or of its counters, and expects the
    block number `n` of the reader. -/
def lag (call : Option PiccCall) (h : ProtocolHandler) (n : Fin 2) : Nat :=
  match call with
  | some (.sendResponse ..) => if h.blockNumber = n then 4 else 3
  | _ =>
    if h.blockNumber = n then
      if h.chain ≠ [] then 6
      else if h.counters.frames = 0 ∧ h.counters.retransmissions = 0 then 2 else 3
    else if h.chain ≠ [] then 5
    else if h.counters.frames = 0 then 0 else 1

variable {call : Option PiccCall} {h : ProtocolHandler} {n : Fin 2}

/-- Six probes are enough, wherever the two sides stand. -/
theorem lag_le_six (call : Option PiccCall) (h : ProtocolHandler) (n : Fin 2) : lag call h n ≤ 6 := by
  unfold lag
  repeat' split
  all_goals omega

/-- With nothing of a command, it takes four. -/
theorem lag_le_four (hchain : h.chain = []) : lag call h n ≤ 4 := by
  unfold lag
  simp only [hchain, ne_eq, not_true, if_false]
  repeat' split
  all_goals omega

/-- A card that has just called `receive_command`. -/
theorem lag_listen (h : ProtocolHandler) (n : Fin 2) :
    lag (some .receiveCommand) h.beginExchange n = if h.blockNumber = n then 2 else 0 := by
  have hfresh : h.beginExchange.counters.frames = 0 ∧ h.beginExchange.counters.retransmissions = 0 :=
    ⟨rfl, rfl⟩
  have hchain : h.beginExchange.chain = [] := rfl
  simp only [lag, hchain, hfresh, ne_eq, not_true, if_false, and_self, if_true]
  rfl

/-- A card that takes the next command for an older one. -/
theorem lag_same (hn : h.blockNumber = n) : lag (some .receiveCommand) h n =
    if h.chain ≠ [] then 6
    else if h.counters.frames = 0 ∧ h.counters.retransmissions = 0 then 2 else 3 := if_pos hn

/-- A card that takes it for a new one. -/
theorem lag_other (hn : h.blockNumber ≠ n) : lag (some .receiveCommand) h n =
    if h.chain ≠ [] then 5 else if h.counters.frames = 0 then 0 else 1 := if_neg hn

/-- A card in the middle of a response. -/
theorem lag_sendResponse {data : List UInt8} {inf stop : Nat} {iblock : Block} (h : ProtocolHandler)
    (n : Fin 2) : lag (some (.sendResponse data inf stop iblock)) h n =
      if h.blockNumber = n then 4 else 3 := rfl

/-- No lag is what a delivered exchange starts from. -/
theorem lag_eq_zero (hcall : call = some .receiveCommand ∨ ∃ data inf stop iblock,
    call = some (.sendResponse data inf stop iblock)) : lag call h n = 0 ↔
      call = some .receiveCommand ∧ h.blockNumber ≠ n ∧ h.chain = [] ∧ h.counters.frames = 0 := by
  rcases hcall with rfl | ⟨data, inf, stop, iblock, rfl⟩
  · simp only [lag, true_and]
    repeat' split
    all_goals simp_all
  · rw [lag_sendResponse]
    split <;> simp

/-! ## A command of one I-Block

  Each probe is one frame each way, and finds the card in one of its two calls.  The cases are
  those of the card's handler: refused, repeated, new. -/

/-- **A probe**: a command of one I-Block whose response is one I-Block, whatever commands came before
    it, and which both sides have the limits for. -/
structure Setting.Probes [Build] (g : Setting) (respond : List ChainVec → List UInt8)
    (apdu : List UInt8) : Prop where
  admits : ∀ handed, g.Admits (apdu, respond (handed ++ [apdu]))
  command : apdu.length ≤ g.commandInf
  response : ∀ handed, (respond (handed ++ [apdu])).length ≤ g.responseInf
  again : 1 ≤ g.cardLimits.maxRetransmissions

/-- Both sides may count a frame. -/
theorem Setting.Admits.one_le_maxFrames [Build] {g : Setting} {p : List UInt8 × List UInt8}
    (h : g.Admits p) : 1 ≤ g.limits.maxFrames ∧ 1 ≤ g.cardLimits.maxFrames := by
  have hframes := h.frames
  have hcard := h.cardFrames
  have hcommand : 1 ≤ g.commandBlocks p.1 := Nat.succ_pos _
  have hresponse : 1 ≤ g.responseBlocks p.2 := Nat.succ_pos _
  omega

namespace Reader

open Pcd

/-- How far the card is off. -/
def lag (s : Reader) : Nat :=
  Iso14443.lag s.card.session.call s.card.session.picc.handler s.handler.blockNumber

variable {respond : List ChainVec → List UInt8} {s : Reader} {w : Wire} {apdu : List UInt8}

/-- The lag, read off the card that the link keeps. -/
theorem Linked.lag_eq (h : Linked respond s w) :
    s.lag = Iso14443.lag (some w.peer.call) w.peer.handler s.handler.blockNumber := by
  rw [lag, h.shows.call, h.shows.handler]

/-- The I-Block of a probe. -/
def probe (s : Reader) (apdu : List UInt8) : Block := s.handler.iblockOf apdu false

/-- A probe is one I-Block without chaining, under the reader's number. -/
theorem blockType_probe (s : Reader) (apdu : List UInt8) : (s.probe apdu).blockType = .iBlock ∧
    (s.probe apdu).blockNumber = s.handler.blockNumber ∧ (s.probe apdu).isChaining = false ∧
      (s.probe apdu).payload = apdu := by
  simp only [probe, iblockOf, addCid]
  split <;> exact ⟨rfl, rfl, rfl, rfl⟩

variable [Build]

/-- **An exchange of one I-Block over a link that loses nothing**: the card takes its step, and what it
    answers is where the response starts. -/
theorem run_exchange_probe (h : Linked respond s w) (hfates : w.fates = []) (hne : apdu ≠ [])
    (hone : apdu.length ≤ s.maxInf) (fuel : Nat) :
    let s₀ : Reader := { s with handler := s.handler.beginExchange }
    let w' : Wire := ⟨(w.peer.step respond s.fsd (s.probe apdu)).2, []⟩
    match (w.peer.step respond s.fsd (s.probe apdu)).1 with
    | none => ∃ t e, (exchange (fuel + 1) apdu).run s = (.err e, s₀.withTransceiver t) ∧
        Linked respond (s₀.withTransceiver t) w'
    | some a => ∃ t, (exchange (fuel + 1) apdu).run s =
          (collectResponse (fuel + 1) a.wire).run (s₀.withTransceiver t) ∧
        Linked respond (s₀.withTransceiver t) w' := by
  intro s₀ w'
  have hbegin : Linked respond s₀ w := h.withHandler h.role
  have hpos : 0 < apdu.length := List.length_pos_iff.mpr hne
  have hmax : s₀.maxInf = s.maxInf := rfl
  have hend : apdu.length ≤ 0 + s₀.maxInf := by omega
  -- the probe is the one chunk of its command
  have hchunk : s₀.commandChunk apdu 0 = s.probe apdu := by
    rw [commandChunk, decide_eq_false (Nat.not_lt.mpr hend), chunkAt, List.drop_zero,
      List.take_of_length_le (hmax ▸ hone)]
    rfl
  have hcall : w.call respond s₀.fsd (s₀.commandChunk apdu 0) =
      ((w.peer.step respond s.fsd (s.probe apdu)).1, w') := by
    rw [hchunk, Wire.call_delivered respond s₀.fsd _ (by simp [hfates]), hfates]
    rfl
  rw [run_exchange (fuel + 1) apdu s h.maxInf_bounds.1]
  -- the card is silent, or answers
  cases hstep : (w.peer.step respond s.fsd (s.probe apdu)).1 with
  | none =>
    obtain ⟨t, e, hrun, hl⟩ := sendLoop_silent hbegin hpos
      (by rw [hcall]; exact hstep) fuel none
    rw [hcall] at hl
    exact ⟨t, e, Act.run_bind_err hrun _, hl⟩
  | some a =>
    obtain ⟨t, hrun, hl, -⟩ := sendLoop_last hbegin hpos hend
      (by rw [hcall]; exact hstep) fuel none
    rw [hcall] at hl
    refine ⟨t, ?_, hl⟩
    rw [hmax] at hrun
    rw [Act.run_bind_ok hrun, Act.run_bind, run_lift, Res.okOr_some, Res.mapErr_ok]

/-- The card says nothing: the reader keeps its number. -/
theorem lag_silent (h : Linked respond s w) (hfates : w.fates = []) (hne : apdu ≠ [])
    (hone : apdu.length ≤ s.maxInf) {p : Peer}
    (hstep : w.peer.step respond s.fsd (s.probe apdu) = (none, p)) (fuel : Nat) :
    lag ((exchange (fuel + 1) apdu).run s).2 =
      Iso14443.lag (some p.call) p.handler s.handler.blockNumber := by
  have hrun := run_exchange_probe h hfates hne hone fuel
  rw [hstep] at hrun
  obtain ⟨t, e, hrun, hl⟩ := hrun
  rw [hrun]
  exact hl.lag_eq

/-- The card takes the command for an older one: its R(ACK) makes the reader go on to the next
    number. -/
theorem lag_rack (h : Linked respond s w) (hfates : w.fates = []) (hne : apdu ≠ [])
    (hone : apdu.length ≤ s.maxInf) (hframes : 1 ≤ s.handler.limits.maxFrames) {rack : Block}
    {p : Peer} (hstep : w.peer.step respond s.fsd (s.probe apdu) = (some rack, p))
    (hrack : rack.IsRack s.handler.blockNumber) (fuel : Nat) :
    lag ((exchange (fuel + 1) apdu).run s).2 =
      Iso14443.lag (some p.call) p.handler (1 - s.handler.blockNumber) := by
  have hrun := run_exchange_probe h hfates hne hone fuel
  rw [hstep] at hrun
  obtain ⟨t, hrun, hl⟩ := hrun
  have hack := receive_ack (h := s.handler.beginExchange) h.role hrack
  rw [if_pos (frameOk_of_le hframes), ← receive_wire] at hack
  rw [hrun, run_collectResponse hack]
  exact (hl.withHandler (k := s.handler.beginExchange.counted.advanced) h.role).lag_eq

/-- The card hands the command over, and its response comes in.  Both sides are in step after that,
    whatever was lost before. -/
theorem lag_complete (h : Linked respond s w) (hfates : w.fates = []) (hne : apdu ≠ [])
    (hone : apdu.length ≤ s.maxInf) {p : Peer} {resp : List UInt8}
    (hadmits : s.setting.Admits (apdu, resp)) (hresp : resp.length ≤ s.setting.responseInf)
    (hnumber : p.handler.blockNumber = s.handler.blockNumber)
    (hstep : w.peer.step respond s.fsd (s.probe apdu) = p.sendChunk resp s.setting.responseInf 0)
    (fuel : Nat) : lag ((exchange (fuel + 1) apdu).run s).2 = 0 := by
  have hrun := run_exchange_probe h hfates hne hone fuel
  have hmore : ¬ 0 + s.setting.responseInf < resp.length := by omega
  rw [hstep, Peer.sendChunk] at hrun
  simp only [if_neg hmore] at hrun
  obtain ⟨t, hrun, hl⟩ := hrun
  obtain ⟨ht, hn, hc, hp⟩ := Peer.blockType_chunk p.handler resp s.setting.responseInf 0
  have hpayload : (Peer.chunk p.handler resp s.setting.responseInf 0).payload = resp := by
    rw [hp, chunkAt, List.drop_zero, List.take_of_length_le hresp]
  have hframes : 1 ≤ s.handler.limits.maxFrames := hadmits.one_le_maxFrames.1
  have hr : receive s.handler.beginExchange (Peer.chunk p.handler resp s.setting.responseInf 0) =
      (.ok (.complete ([] ++ (Peer.chunk p.handler resp s.setting.responseInf 0).payload)),
        s.handler.beginExchange.counted.advanced.dropChain) := by
    -- the answer carries the number of the reader, so it is no old one
    have hrep : ¬ s.handler.beginExchange.repeatsLastIblock
        (Peer.chunk p.handler resp s.setting.responseInf 0) := by
      have hrole : s.handler.beginExchange.role = .pcd := h.role
      have hsame : s.handler.beginExchange.blockNumber = s.handler.blockNumber := rfl
      simp only [repeatsLastIblock, hrole, hn, hnumber, hsame]
      simp
    refine Received.eq (.complete (frameOk_of_le hframes) ht hrep ?_ ?_ ?_)
    · rw [hpayload]
      exact Nat.le_trans (by simp [beginExchange]) hadmits.responseLen
    · rw [hpayload]
      simpa [beginExchange] using hadmits.responseFits
    · rw [hc, decide_eq_false hmore]
      simp
  rw [← receive_wire] at hr
  rw [hrun, run_collectResponse hr]
  have hlag := (hl.withHandler (k := s.handler.beginExchange.counted.advanced.dropChain) h.role).lag_eq
  refine hlag.trans ((lag_listen _ _).trans (if_neg ?_))
  show ¬ p.handler.blockNumber = 1 - s.handler.blockNumber
  rw [hnumber]
  exact ne_one_sub _

/-- The card answers with a response, whatever it is. -/
theorem lag_answer (h : Linked respond s w) (hfates : w.fates = []) (hne : apdu ≠ [])
    (hone : apdu.length ≤ s.maxInf) {p : Peer} {resp : List UInt8} {inf : Nat}
    (hchain : p.handler.chain = [])
    (hstep : w.peer.step respond s.fsd (s.probe apdu) = p.sendChunk resp inf 0) (fuel : Nat) :
    lag ((exchange (fuel + 1) apdu).run s).2 ≤ 4 := by
  have hrun := run_exchange_probe h hfates hne hone fuel
  rw [hstep] at hrun
  obtain ⟨t, hrun, hl⟩ := hrun
  obtain ⟨hplain, hlast⟩ := Peer.plain_sendChunk p resp inf 0
  have hblock : (Peer.chunk p.handler resp inf 0).wire.Plain := plain_chunk _ _ _ _
  obtain ⟨w', hstays, hempty⟩ := collectResponse_stays (fuel + 1) hl hplain (by simp [hlast]) hblock
  rw [hrun, hstays.linked.lag_eq]
  exact lag_le_four (hempty (Peer.sendChunk_chain hchain _ _ _))

/-- A reader about to send a probe, over a link that loses nothing: a command of one I-Block whose
    response is one I-Block, and limits that admit both. -/
structure Probing (respond : List ChainVec → List UInt8) (s : Reader) (w : Wire)
    (apdu : List UInt8) : Prop where
  linked : Linked respond s w
  fates : w.fates = []
  probes : s.setting.Probes respond apdu

/-- The reader `s'` has a card that is closer than that of `s`, or in step. -/
def Closer (s s' : Reader) : Prop := lag s' < s.lag ∨ lag s' = 0

/-- A probe is not empty. -/
theorem Probing.ne_nil (h : Probing respond s w apdu) : apdu ≠ [] := (h.probes.admits []).command

/-- A probe is one chunk. -/
theorem Probing.one (h : Probing respond s w apdu) : apdu.length ≤ s.maxInf := h.probes.command

/-- The card takes a probe for a repeat where it has the number of the reader. -/
theorem Probing.repeats (h : Probing respond s w apdu) :
    w.peer.handler.repeatsLastIblock (s.probe apdu) =
      decide (s.handler.blockNumber = w.peer.handler.blockNumber) := by
  have hrep := Peer.repeats_picc h.linked.sound.role (s.probe apdu)
  rwa [(s.blockType_probe apdu).2.1] at hrep

/-- The card says nothing. -/
theorem Probing.silent (h : Probing respond s w apdu) {p : Peer}
    (hstep : w.peer.step respond s.fsd (s.probe apdu) = (none, p)) (fuel : Nat) :
    lag ((exchange (fuel + 1) apdu).run s).2 =
      Iso14443.lag (some p.call) p.handler s.handler.blockNumber :=
  lag_silent h.linked h.fates h.ne_nil h.one hstep fuel

/-- **A call that has counted nothing has an R(ACK) left**: it cannot refuse a repeat. -/
theorem Probing.not_fresh (h : Probing respond s w apdu)
    (hsame : w.peer.handler.blockNumber = s.handler.blockNumber) {e : TypeAError}
    {k : ProtocolHandler} (hr : receive w.peer.handler (s.probe apdu) = (.err e, k)) :
    ¬ (w.peer.handler.counters.frames = 0 ∧ w.peer.handler.counters.retransmissions = 0) := by
  rintro ⟨hframes, hagain⟩
  have hlimits : w.peer.handler.limits = s.setting.cardLimits := by rw [h.linked.setting_eq]
  have hcardFrames := (h.probes.admits []).one_le_maxFrames.2
  have hf : w.peer.handler.FrameOk :=
    frameOk_of_le (by rw [hframes, hlimits]; exact hcardFrames)
  have hg : w.peer.handler.AgainOk :=
    againOk_of_le (by rw [hagain, hlimits]; exact h.probes.again)
  have hr' : receive w.peer.handler (s.probe apdu) = _ := Received.eq (.repeated hf
    (s.blockType_probe apdu).1 (by rw [h.repeats, hsame]; simp) hg)
  rw [hr] at hr'
  cases hr'

/-- **The card refuses the probe**: its call starts over, with nothing left of an older command. -/
theorem Probing.refused (h : Probing respond s w apdu) {e : TypeAError} {k : ProtocolHandler}
    (hr : receive w.peer.handler (s.probe apdu) = (.err e, k))
    (hk : k.blockNumber = w.peer.handler.blockNumber) (fuel : Nat) :
    Closer s ((exchange (fuel + 1) apdu).run s).2 := by
  have hlisten : Iso14443.lag (some (Peer.listen { w.peer with handler := k }).call)
      (Peer.listen { w.peer with handler := k }).handler s.handler.blockNumber =
        if k.blockNumber = s.handler.blockNumber then 2 else 0 := lag_listen k _
  rw [Closer, h.silent (Peer.step_err hr), hlisten, h.linked.lag_eq]
  by_cases hsame : k.blockNumber = s.handler.blockNumber
  · rw [if_pos hsame]
    apply Or.inl
    rw [hk] at hsame
    rcases h.linked.sound.calls with hcall | ⟨data, inf, stop, iblock, hcall⟩
    · rw [hcall, lag_same hsame]
      by_cases hchain : w.peer.handler.chain = []
      · rw [if_neg (not_not_intro hchain), if_neg (h.not_fresh hsame hr)]
        decide
      · rw [if_pos hchain]
        decide
    · rw [hcall, lag_sendResponse, if_pos hsame]
      decide
  · exact Or.inr (if_neg hsame)

/-- **The card takes it for an older one**, which makes the reader go on to the next number.  The
    exchange fails, but the next probe carries the other number, which the card expects. -/
theorem Probing.repeated (h : Probing respond s w apdu)
    (hold : w.peer.handler.repeatsLastIblock (s.probe apdu) = true)
    (hr : receive w.peer.handler (s.probe apdu) =
      (.ok (.reply w.peer.handler.buildRack), w.peer.handler.counted.again)) (fuel : Nat) :
    Closer s ((exchange (fuel + 1) apdu).run s).2 := by
  have hsame : w.peer.handler.blockNumber = s.handler.blockNumber :=
    (of_decide_eq_true (h.repeats ▸ hold)).symm
  have hother : w.peer.handler.counted.again.blockNumber ≠ 1 - s.handler.blockNumber := by
    show w.peer.handler.blockNumber ≠ _
    rw [hsame]
    exact ne_one_sub _
  have hframes := (h.probes.admits []).one_le_maxFrames.1
  rw [Closer, lag_rack h.linked h.fates h.ne_nil h.one hframes
    (Peer.step_rack h.linked.sound.calls hr) (hsame ▸ isRack_buildRack _) fuel, h.linked.lag_eq]
  apply Or.inl
  rcases h.linked.sound.calls with hcall | ⟨data, inf, stop, iblock, hcall⟩
  · have hkept : w.peer.handler.counted.again.chain = w.peer.handler.chain := rfl
    rw [hcall, lag_same hsame, lag_other hother, hkept]
    by_cases hchain : w.peer.handler.chain = []
    · rw [if_neg (not_not_intro hchain), if_neg (not_not_intro hchain)]
      repeat' split
      all_goals decide
    · rw [if_pos hchain, if_pos hchain]
      decide
  · rw [hcall, lag_sendResponse, lag_sendResponse, if_pos hsame, if_neg hother]
    decide

/-- **The card takes it for a new one**, and hands over what it has.  If that is the probe alone,
    its response comes in; if something was left of an older command, it is gone now. -/
theorem Probing.taken (h : Probing respond s w apdu)
    (hnew : w.peer.handler.repeatsLastIblock (s.probe apdu) = false)
    (hr : receive w.peer.handler (s.probe apdu) =
      (.ok (.complete (w.peer.handler.chain ++ (s.probe apdu).payload)),
        w.peer.handler.counted.advanced.dropChain)) (fuel : Nat) :
    Closer s ((exchange (fuel + 1) apdu).run s).2 := by
  have hother : w.peer.handler.blockNumber ≠ s.handler.blockNumber :=
    fun hsame => of_decide_eq_false (h.repeats ▸ hnew) hsame.symm
  have hnumber : (1 : Fin 2) - w.peer.handler.blockNumber = s.handler.blockNumber :=
    one_sub_of_ne hother
  have hpay : (s.probe apdu).payload = apdu := (s.blockType_probe apdu).2.2.2
  rcases h.linked.sound.calls with hcall | ⟨data, inf, stop, iblock, hcall⟩
  · have hstep : w.peer.step respond s.fsd (s.probe apdu) = _ := Peer.step_complete hcall hr
    have hinf : Peer.maxInf s.fsd w.peer.handler.counted.advanced.dropChain =
        s.setting.responseInf := h.linked.responseInf_setting
    rw [hinf] at hstep
    by_cases hchain : w.peer.handler.chain = []
    · rw [hchain, List.nil_append, hpay] at hstep
      exact Or.inr (lag_complete h.linked h.fates h.ne_nil h.one (h.probes.admits _)
        (h.probes.response _) hnumber hstep fuel)
    · -- the card hands over more than the command, and says whatever it says
      have hle := lag_answer h.linked h.fates h.ne_nil h.one rfl hstep fuel
      rw [Closer, h.linked.lag_eq, hcall, lag_other hother, if_pos hchain]
      exact Or.inl (Nat.lt_succ_of_le hle)
  · have hlisten : Iso14443.lag (some (Peer.listen
        { w.peer with handler := w.peer.handler.counted.advanced.dropChain }).call)
        (Peer.listen { w.peer with handler := w.peer.handler.counted.advanced.dropChain }).handler
          s.handler.blockNumber = _ := lag_listen _ _
    rw [Closer, h.silent (Peer.step_swallow hcall hr), hlisten, h.linked.lag_eq, hcall,
      lag_sendResponse, if_neg hother]
    apply Or.inl
    split <;> decide

/-- **A probe brings the card closer.** -/
theorem exchange_lag (h : Probing respond s w apdu) (fuel : Nat) :
    Closer s ((exchange (fuel + 1) apdu).run s).2 := by
  obtain ⟨ht, -, hc, -⟩ := s.blockType_probe apdu
  rcases receive_iblock w.peer.handler ht with ⟨e, k, hr, hk⟩ | ⟨hold, hr⟩ | ⟨-, hmore, -⟩ |
    ⟨hnew, -, hr⟩
  · exact h.refused hr hk fuel
  · exact h.repeated hold hr fuel
  · -- a probe is one I-Block
    rw [hc] at hmore
    cases hmore
  · exact h.taken hnew hr fuel

/-! ## Runs

  Six probes, and then exchanges of any kind. -/

omit [Build] in
/-- Reader and card are in step where there is no lag, and the card has counted no frame. -/
theorem Linked.inStep (h : Linked respond s w) (hlag : s.lag = 0) :
    s.InStep ∧ s.card.session.picc.handler.counters.frames = 0 := by
  have hcalls : s.card.session.call = some .receiveCommand ∨ ∃ data inf stop iblock,
      s.card.session.call = some (.sendResponse data inf stop iblock) := by
    rw [h.shows.call]
    rcases h.sound.calls with hcall | ⟨data, inf, stop, iblock, hcall⟩
    · exact Or.inl (congrArg some hcall)
    · exact Or.inr ⟨data, inf, stop, iblock, congrArg some hcall⟩
  obtain ⟨hcall, hn, hchain, hframes⟩ := (lag_eq_zero hcalls).mp hlag
  exact ⟨⟨hcall, hchain, (one_sub_of_ne hn ▸ one_sub_one_sub _).symm⟩, hframes⟩

/-- **Exchanges from no lag on are delivered**, whatever the application answers, over a link that
    loses nothing. -/
theorem exchanging_delivers {g : Setting} {fuel : Nat} (hfuel : g.limits.maxFrames < fuel)
    (apdus : List (List UInt8)) : ∀ {s : Reader} {w : Wire}, Lossless respond s w →
    s.setting = g →
    (∀ apdu ∈ apdus, ∀ handed, g.Admits (apdu, respond (handed ++ [apdu]))) →
    ∀ e ∈ Run.trace (exchanging fuel) s apdus,
      Looped e (e.input, respond (e.before.card.handed ++ [e.input])) := by
  induction apdus with
  | nil =>
    intro s w _ _ _ e he
    cases he
  | cons apdu apdus ih =>
    rintro s w h rfl hadmits
    have hadmit := hadmits apdu (List.mem_cons_self ..) s.card.handed
    have hblocks := hadmit.frames
    have hcommand : 1 ≤ s.setting.commandBlocks apdu := Nat.succ_pos _
    have hresponse : 1 ≤ s.setting.responseBlocks (respond (s.card.handed ++ [apdu])) :=
      Nat.succ_pos _
    dsimp only at hblocks
    obtain ⟨w', hnext, hsetting, hlooped⟩ :=
      h.exchange hadmit rfl (by omega : _ ≤ fuel) (by omega)
    rw [Run.trace_cons]
    intro e he
    rcases List.mem_cons.mp he with rfl | he
    · exact hlooped
    · exact ih hnext hsetting (fun a ha => hadmits a (List.mem_cons_of_mem _ ha)) e he

/-- **Back in step.**  `connect` has brought reader and card together, and any exchanges have been
    tried since, over a link that lost any frames and answers: the card may be in the middle of a
    response, or have the beginning of a command that was given up, and the block numbers may be
    anything.  The limits are those that admit what is sent, and the card may send a block again
    once.  Once the link loses nothing any more, six commands of one I-Block with responses of one
    I-Block bring them in step, and from then on every exchange of every sequence is delivered: the
    card is handed exactly the command, and `exchange` returns exactly the response. -/
theorem exchanges_resync {card : Card} {fates : List Fate} {fsdi : Fsdi} {cid : Cid} {s : Reader}
    {ats : Ats} {t : Tally Link Unit} (limits : Limits) {fuel : Nat}
    (before probes apdus : List (List UInt8))
    (hcall : card.session.call = some .waitForRats)
    (hconnect : (connect fsdi cid).run (⟨⟨card, fates⟩, []⟩ : Tally Link Unit) = (.ok (s, ats), t))
    (hfuel : limits.maxFrames < fuel)
    (hreliable : (Run.after (exchanging fuel) (s.setLimits limits) before).transceiver.inner.fates =
      [])
    (hprobes : ∀ apdu ∈ probes, (setting (s.setLimits limits)).Probes card.respond apdu)
    (hsix : 6 ≤ probes.length)
    (hadmits : ∀ apdu ∈ apdus, ∀ handed,
      (setting (s.setLimits limits)).Admits (apdu, card.respond (handed ++ [apdu]))) :
    let s' := Run.after (exchanging fuel) (s.setLimits limits) (before ++ probes)
    s'.InStep ∧ ∀ e ∈ Run.trace (exchanging fuel) s' apdus,
      Looped e (e.input, card.respond (e.before.card.handed ++ [e.input])) := by
  intro s'
  obtain ⟨-, cardCid, h⟩ := connect_linked hcall hconnect
  have hl := h.withHandler (k := s.handler.setLimits limits) h.role
  obtain ⟨w, hbefore⟩ := exchanging_stays fuel before hl (Peer.plain_fresh _ _ _)
  have hfates : w.fates = [] := hbefore.linked.fates.symm.trans hreliable
  obtain ⟨fuel, rfl⟩ : ∃ k, fuel = k + 1 := ⟨fuel - 1, by omega⟩
  -- every probe brings the card closer
  let Reached : Reader → Prop := fun r => ∃ w, Linked card.respond r w ∧ w.peer.Plain ∧
    w.fates = [] ∧ r.setting = setting (s.setLimits limits)
  have hcloser : ∀ r apdu, Reached r → (setting (s.setLimits limits)).Probes card.respond apdu →
      Reached (exchanging (fuel + 1) r apdu).2 ∧ (lag (exchanging (fuel + 1) r apdu).2 < lag r ∨
        lag (exchanging (fuel + 1) r apdu).2 = 0) := by
    rintro r apdu ⟨w, hl, hplain, hfates, hsetting⟩ hprobe
    obtain ⟨w', hstays⟩ := exchange_stays (fuel + 1) apdu hl hplain
    obtain ⟨k, hk⟩ := hstays.fates
    rw [hfates, List.drop_nil] at hk
    exact ⟨⟨w', hstays.linked, hstays.plain, hk, hstays.setting.trans hsetting⟩,
      exchange_lag ⟨hl, hfates, hsetting ▸ hprobe⟩ fuel⟩
  obtain ⟨⟨w', hl', -, hfates', hsetting⟩, hlag⟩ := Run.settles hcloser
    ⟨w, hbefore.linked, hbefore.plain, hfates, hbefore.setting⟩ hprobes
    (Nat.le_trans (lag_le_six _ _ _) hsix)
  rw [← Run.after_append] at hl' hsetting hlag
  obtain ⟨hstep, hframes⟩ := hl'.inStep hlag
  exact ⟨hstep, exchanging_delivers hfuel apdus ⟨hl', hstep, hfates', hframes⟩ hsetting hadmits⟩

omit [Build] in
/-- The first chunk of a command arrives, and the answer to it is lost: the card keeps it, and would
    put it before the next command.  It is over after six commands of a byte. -/
theorem exchanges_resync_sample : let : Build := Build.heap
    let s' := Run.after (exchanging 513) ((echoReader [.answerLost]).setLimits Limits.default)
      ([twoChunks] ++ List.replicate 6 [7])
    s'.InStep ∧ ∀ e ∈ Run.trace (exchanging 513) s' [twoChunks, [8]],
      Looped e (e.input, answering id (e.before.card.handed ++ [e.input])) := by
  intro _
  have hlast : ∀ (handed : List ChainVec) apdu, answering id (handed ++ [apdu]) = apdu := by
    intro handed apdu
    rw [answering, List.getLastD_concat]
    rfl
  refine exchanges_resync Limits.default [twoChunks] _ [twoChunks, [8]] rfl
    (connect_echoReader [.answerLost]) (by decide) (by decide +kernel) ?_ (by simp) ?_
  · intro apdu hapdu
    obtain rfl := List.eq_of_mem_replicate hapdu
    refine ⟨fun handed => ?_, by decide, fun handed => ?_, by decide⟩
    · rw [show echoCard.respond = answering id from rfl, hlast]
      exact ⟨by decide, by decide, by decide, by decide, by decide, by decide, by decide⟩
    · rw [show echoCard.respond = answering id from rfl, hlast]
      decide
  · intro apdu hapdu handed
    rw [show echoCard.respond = answering id from rfl, hlast]
    rcases List.mem_pair.mp hapdu with rfl | rfl
    · exact ⟨by decide, by decide, by decide, by decide, by decide, by decide, by decide⟩
    · exact ⟨by decide, by decide, by decide, by decide, by decide, by decide, by decide⟩

end Reader

end Iso14443
