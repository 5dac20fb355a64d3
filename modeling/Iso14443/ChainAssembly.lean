/-
  Exactly-once assembly of a chain (`process_iblock`, `process_rblock`, `process_sblock`).

  A peer sends payloads as I-Blocks, and between two of them it may repeat the last one, ask for
  time, or (to a card) check presence.  The chain that comes out is the payloads in order, whatever
  stands between them.

  1. **The stream of the peer.**  A `Turn` is an I-Block with what follows it before the next one;
     `Turns` are a list of them with the right numbers, all but the last one chained.  Both roles
     are covered by one definition: `Role.expects` is the number a handler at number `n` waits for.
  2. **The limits.**  `Budget` adds up what the stream costs, over the whole of it and turn by
     turn, as the counters do.
  3. **The invariant** (`Phase`) is the whole state of the handler between two blocks: the number,
     the chain, and the four counters, each as a function of the stream so far.  With all of it
     known every check of the code can be decided, and one block does one of three things: a filler
     is answered and changes nothing but counters (`Phase.filler`), a chained I-Block is taken in
     (`Phase.takeIn`), the last one hands the chain out (`Phase.complete`).
  4. **The run** goes over the turns, and inside a turn over its stretch (`Phase.rest`);
     `Assembled` says what came of each block, so that also the replies to repeats and checks are
     accounted for.

  The one assumption about the build is that the chain buffer can hold the whole chain, for without
  `alloc` it has 1024 bytes whatever `max_chain_len` says; `longTurns` is a chain that is within
  the limits and not within the buffer.
-/
import Iso14443.ProtocolRun

namespace Iso14443

open Run

/-! ## The stream of the peer

  What a peer that keeps to the rules may send.  A filler is a block that is answered and moves
  nothing: an S(WTX) in range, and to a card also a presence check. -/

/-- The number the peer's next I-Block carries while a handler of this role is at number `n`. -/
def Role.expects (role : Role) (n : Fin 2) : Fin 2 :=
  match role with
  | .pcd => n
  | .picc => 1 - n

/-- A presence check: R(NAK) with a number that is not the current one, sent to a card. -/
def Block.isPresence (role : Role) (n : Fin 2) (b : Block) : Bool :=
  role = .picc && b.blockType = .rBlock && b.pcb.rSubtype = some .nak && b.blockNumber ≠ n

/-- A valid S(WTX) request. -/
def Block.isValidWtx (b : Block) : Bool := b.isWtx && ProtocolHandler.validWtx b.payload

/-- A block that may stand anywhere, while the handler is at number `n`. -/
def Block.isFiller (role : Role) (n : Fin 2) (b : Block) : Bool :=
  b.isValidWtx || b.isPresence role n

/-- One I-Block and what the peer sends before the next one. -/
structure Turn where
  block : Block
  rest : List Block

/-- The blocks of a list of turns, in order. -/
def sent (turns : List Turn) : List Block := turns.flatMap fun t => t.block :: t.rest

/-- The payloads of a list of turns, in order. -/
def payloads (turns : List Turn) : List UInt8 := turns.flatMap fun t => t.block.payload

/-- No turn, no block. -/
@[simp] theorem sent_nil : sent [] = [] := rfl

/-- A turn sends its I-Block and then the rest of its stretch. -/
@[simp] theorem sent_cons (t : Turn) (ts : List Turn) :
    sent (t :: ts) = t.block :: (t.rest ++ sent ts) := rfl

/-- No turn, no payload. -/
@[simp] theorem payloads_nil : payloads [] = [] := rfl

/-- A turn brings the payload of its I-Block, once. -/
@[simp] theorem payloads_cons (t : Turn) (ts : List Turn) :
    payloads (t :: ts) = t.block.payload ++ payloads ts := rfl

/-- The turns of a peer whose handler is at number `n`: I-Blocks with alternating numbers, all but
    the last one chained, each followed by repeats of itself and fillers. -/
def Turns (role : Role) : Fin 2 → List Turn → Prop
  | _, [] => False
  | n, t :: ts => t.block.blockType = .iBlock ∧ t.block.blockNumber = role.expects n ∧
      t.block.isChaining = !ts.isEmpty ∧
      (∀ x ∈ t.rest, x = t.block ∨ x.isFiller role (1 - n) = true) ∧
      (ts = [] ∨ Turns role (1 - n) ts)

/-- The whole stream, with `lead` before the first I-Block, stays within the limits.  Repeats
    and S(WTX) are bounded per turn, as their counters start over with every I-Block that is
    taken in. -/
structure Budget (L : Limits) (lead : List Block) (turns : List Turn) : Prop where
  frames : (lead ++ sent turns).length ≤ L.maxFrames
  totalWtx : (lead ++ sent turns).countP Block.isWtx ≤ L.maxTotalWtx
  leadWtx : lead.countP Block.isWtx ≤ L.maxConsecutiveWtx
  wtx : ∀ t ∈ turns, t.rest.countP Block.isWtx ≤ L.maxConsecutiveWtx
  repeats : ∀ t ∈ turns, t.rest.count t.block ≤ L.maxRetransmissions
  chain : (payloads turns).length ≤ L.maxChainLen

/-- The number after `k` toggles. -/
def toggled (n : Fin 2) (k : Nat) : Fin 2 := (fun m => 1 - m)^[k] n

/-- No toggle leaves the number. -/
@[simp] theorem toggled_zero (n : Fin 2) : toggled n 0 = n := rfl

/-- The first of several toggles is the next number. -/
@[simp] theorem toggled_succ (n : Fin 2) (k : Nat) : toggled n (k + 1) = toggled (1 - n) k := rfl

namespace ProtocolHandler

/-- In either role, a repeat is an I-Block that does not carry the expected number. -/
theorem repeatsLastIblock_iff (h : ProtocolHandler) (b : Block) :
    h.repeatsLastIblock b = true ↔ b.blockNumber ≠ h.role.expects h.blockNumber := by
  have hfin : ∀ m n : Fin 2, m = n ↔ m ≠ 1 - n := by decide
  cases hrole : h.role with
  | pcd => simp [repeatsLastIblock, hrole, Role.expects]
  | picc =>
    simp only [repeatsLastIblock, hrole, Role.expects, decide_eq_true_eq]
    exact hfin _ _

/-! ## The invariant

  All of the handler is known in a `Phase`, so a block that comes in has one ending, and it is
  known which. -/

/-- The handler between two blocks: at number `n`, with this chain, after `f` frames, `w` S(WTX) in
    all, `c` of them in a row, and `r` retransmissions in a row. -/
structure Phase (L : Limits) (role : Role) (n : Fin 2) (chain : List UInt8) (f w c r : Nat)
    (h : ProtocolHandler) : Prop where
  limits : h.limits = L
  role : h.role = role
  number : h.blockNumber = n
  chain : h.chain = chain
  frames : h.counters.frames = f
  totalWtx : h.counters.totalWtx = w
  consecutiveWtx : h.counters.consecutiveWtx = c
  retransmissions : h.counters.retransmissions = r

section Steps

variable [Build] {L : Limits} {role : Role} {n : Fin 2} {chain : List UInt8} {f w c r : Nat}
  {h : ProtocolHandler} {x : Block}

omit [Build] in
/-- A frame within the budget passes the frame limit and is counted. -/
theorem Phase.frameOk (hp : Phase L role n chain f w c r h) (hf : f + 1 ≤ L.maxFrames) :
    h.FrameOk ∧ saturatingIncr u16Max h.counters.frames = f + 1 := by
  have hL := L.frames_le
  have hsat : saturatingIncr u16Max h.counters.frames = f + 1 := by
    rw [hp.frames]; exact saturatingIncr_of_lt (by omega)
  refine ⟨?_, hsat⟩
  show saturatingIncr u16Max h.counters.frames ≤ h.limits.maxFrames
  rw [hsat, hp.limits]
  exact hf

/-- A repeat of the I-Block taken in last: the same R(ACK) once more. -/
theorem Phase.again (hp : Phase L role n chain f w c r h) (hf : f + 1 ≤ L.maxFrames)
    (hr : r + 1 ≤ L.maxRetransmissions) (ht : x.blockType = .iBlock)
    (hx : x.blockNumber = role.expects (1 - n)) :
    (receive h x).1 = .ok (.reply h.buildRack) ∧
      Phase L role n chain (f + 1) w c (r + 1) (receive h x).2 := by
  obtain ⟨hfok, hfr⟩ := hp.frameOk hf
  have hL := L.retransmissions_le
  have hrep : h.repeatsLastIblock x = true := by
    have hne : ∀ (role : Role) (n : Fin 2), role.expects (1 - n) ≠ role.expects n := by
      intro role; cases role <;> decide
    rw [repeatsLastIblock_iff, hp.role, hp.number, hx]
    exact hne role n
  have hre : saturatingIncr u8Max h.counters.retransmissions = r + 1 := by
    rw [hp.retransmissions]; exact saturatingIncr_of_lt (by omega)
  have hok : h.AgainOk := by
    show saturatingIncr u8Max h.counters.retransmissions ≤ h.limits.maxRetransmissions
    rw [hre, hp.limits]; exact hr
  have heq : receive h x = _ := Received.eq (.repeated hfok ht hrep hok)
  rw [heq]
  exact ⟨rfl, hp.limits, hp.role, hp.number, hp.chain, hfr, hp.totalWtx, hp.consecutiveWtx, hre⟩

/-- A valid S(WTX): granted. -/
theorem Phase.wtx (hp : Phase L role n chain f w c r h) (hf : f + 1 ≤ L.maxFrames)
    (hw : w + 1 ≤ L.maxTotalWtx) (hc : c + 1 ≤ L.maxConsecutiveWtx) (hx : x.isValidWtx = true) :
    (receive h x).1 = .ok (.reply (h.buildWtxResponse x)) ∧
      Phase L role n chain (f + 1) (w + 1) (c + 1) r (receive h x).2 := by
  obtain ⟨hfok, hfr⟩ := hp.frameOk hf
  have hL1 := L.totalWtx_le
  have hL2 := L.consecutiveWtx_le
  simp only [Block.isValidWtx, Block.isWtx, Bool.and_eq_true, decide_eq_true_eq] at hx
  have hct : saturatingIncr u8Max h.counters.consecutiveWtx = c + 1 := by
    rw [hp.consecutiveWtx]; exact saturatingIncr_of_lt (by omega)
  have hwt : saturatingIncr u16Max h.counters.totalWtx = w + 1 := by
    rw [hp.totalWtx]; exact saturatingIncr_of_lt (by omega)
  have hrun : h.RunOk := by
    show saturatingIncr u8Max h.counters.consecutiveWtx ≤ h.limits.maxConsecutiveWtx
    rw [hct, hp.limits]; exact hc
  have htot : h.TotalOk := by
    show saturatingIncr u16Max h.counters.totalWtx ≤ h.limits.maxTotalWtx
    rw [hwt, hp.limits]; exact hw
  have heq : receive h x = _ := Received.eq (.wtx hfok hx.1.1 hx.1.2 hx.2 hrun htot)
  rw [heq]
  exact ⟨rfl, hp.limits, hp.role, hp.number, hp.chain, hfr, hwt, hct, hp.retransmissions⟩

/-- A presence check: an R(ACK). -/
theorem Phase.presence (hp : Phase L role n chain f w c r h) (hf : f + 1 ≤ L.maxFrames)
    (hx : x.isPresence role n = true) :
    (receive h x).1 = .ok (.reply h.buildRack) ∧
      Phase L role n chain (f + 1) w c r (receive h x).2 := by
  obtain ⟨hfok, hfr⟩ := hp.frameOk hf
  simp only [Block.isPresence, Bool.and_eq_true, decide_eq_true_eq] at hx
  obtain ⟨⟨⟨rfl, ht⟩, hs⟩, hn⟩ := hx
  have hm : h.rMeaning x = .presence := by
    simp [rMeaning, hp.role, hs, hp.number, hn]
  have heq : receive h x = _ := Received.eq (.presence hfok ht hm)
  rw [heq]
  exact ⟨rfl, hp.limits, hp.role, hp.number, hp.chain, hfr, hp.totalWtx, hp.consecutiveWtx,
    hp.retransmissions⟩

/-- The next I-Block of a chain: its payload is taken in and acknowledged with the new number. -/
theorem Phase.takeIn (hp : Phase L role n chain f w c r h) (hf : f + 1 ≤ L.maxFrames)
    (ht : x.blockType = .iBlock) (hx : x.blockNumber = role.expects n)
    (hl : chain.length + x.payload.length ≤ L.maxChainLen)
    (hb : Fits chainCap (chain.length + x.payload.length)) :
    if x.isChaining then
      (receive h x).1 = .ok (.reply (receive h x).2.buildRack) ∧
        Phase L role (1 - n) (chain ++ x.payload) (f + 1) w 0 0 (receive h x).2
    else
      (receive h x).1 = .ok (.complete (chain ++ x.payload)) ∧
        Phase L role (1 - n) [] (f + 1) w 0 0 (receive h x).2 := by
  obtain ⟨hfok, hfr⟩ := hp.frameOk hf
  have hrep : ¬ h.repeatsLastIblock x = true := by
    rw [repeatsLastIblock_iff, hp.role, hp.number]
    exact fun hne => hne hx
  have hl' : h.chain.length + x.payload.length ≤ h.limits.maxChainLen := by
    rw [hp.chain, hp.limits]; exact hl
  have hb' : Fits chainCap (h.chain.length + x.payload.length) := by
    rw [hp.chain]; exact hb
  have hnum : 1 - h.blockNumber = 1 - n := by rw [hp.number]
  by_cases hc : x.isChaining = true
  · have heq : receive h x = _ := Received.eq (.chained hfok ht hrep hl' hb' hc)
    rw [if_pos hc, heq]
    refine ⟨rfl, hp.limits, hp.role, hnum, ?_, hfr, hp.totalWtx, rfl, rfl⟩
    show h.chain ++ x.payload = _
    rw [hp.chain]
  · have heq : receive h x = _ := Received.eq (.complete hfok ht hrep hl' hb' hc)
    rw [if_neg hc, heq]
    refine ⟨?_, hp.limits, hp.role, hnum, rfl, hfr, hp.totalWtx, rfl, rfl⟩
    rw [hp.chain]

end Steps

/-! ## A stretch of repeats and fillers

  Between two I-Blocks that are taken in.  The number and the chain stay, and the counters go up by
  what the stretch has of each kind; the two run counters were set back at its start. -/

section Rest

variable [Build] {L : Limits} {role : Role} {n : Fin 2} {chain : List UInt8} {f w c r : Nat}
  {h : ProtocolHandler}

omit [Build] in
/-- A filler that is no S(WTX) is a presence check. -/
theorem filler_cases {x : Block} (hx : x.isFiller role n = true) :
    x.isValidWtx = true ∧ x.isWtx = true ∨ x.isPresence role n = true ∧ x.isWtx = false := by
  simp only [Block.isFiller, Bool.or_eq_true] at hx
  rcases hx with hx | hx
  · left
    refine ⟨hx, ?_⟩
    simp only [Block.isValidWtx, Bool.and_eq_true] at hx
    exact hx.1
  · right
    refine ⟨hx, ?_⟩
    simp only [Block.isPresence, Bool.and_eq_true, decide_eq_true_eq] at hx
    simp [Block.isWtx, hx.1.1.2]

/-- **One step of a stretch**: it is answered with a reply, and leaves chain and number alone. -/
theorem Phase.rest_step (hp : Phase L role n chain f w c r h) {b x : Block}
    (hb : b.blockType = .iBlock) (hbn : b.blockNumber = role.expects (1 - n))
    (hx : x = b ∨ x.isFiller role n = true) (hf : f + 1 ≤ L.maxFrames)
    (hw : w + (if x.isWtx then 1 else 0) ≤ L.maxTotalWtx)
    (hc : c + (if x.isWtx then 1 else 0) ≤ L.maxConsecutiveWtx)
    (hr : r + (if x = b then 1 else 0) ≤ L.maxRetransmissions) :
    (∃ reply, (receive h x).1 = .ok (.reply reply) ∧ (x = b → reply.IsRack n)) ∧
      Phase L role n chain (f + 1) (w + if x.isWtx then 1 else 0) (c + if x.isWtx then 1 else 0)
        (r + if x = b then 1 else 0) (receive h x).2 := by
  have hbw : b.isWtx = false := by simp [Block.isWtx, hb]
  by_cases hxb : x = b
  · subst hxb
    simp only [if_true, hbw, Bool.false_eq_true, if_false, Nat.add_zero] at hr ⊢
    obtain ⟨hout, hph⟩ := hp.again hf hr hb hbn
    exact ⟨⟨_, hout, fun _ => hp.number ▸ isRack_buildRack h⟩, hph⟩
  · simp only [hxb, if_false, Nat.add_zero]
    have hfill := hx.resolve_left hxb
    rcases filler_cases hfill with ⟨hv, hwtx⟩ | ⟨hpres, hwtx⟩
    · simp only [hwtx, if_true] at hw hc ⊢
      obtain ⟨hout, hph⟩ := hp.wtx hf hw hc hv
      exact ⟨⟨_, hout, False.elim⟩, hph⟩
    · simp only [hwtx, Bool.false_eq_true, if_false, Nat.add_zero]
      obtain ⟨hout, hph⟩ := hp.presence hf hpres
      exact ⟨⟨_, hout, False.elim⟩, hph⟩

/-- **A whole stretch**: the invariant with everything counted. -/
theorem Phase.rest (hp : Phase L role n chain f w c r h) {b : Block} {us : List Block}
    (hb : b.blockType = .iBlock) (hbn : b.blockNumber = role.expects (1 - n))
    (hus : ∀ x ∈ us, x = b ∨ x.isFiller role n = true) (hf : f + us.length ≤ L.maxFrames)
    (hw : w + us.countP Block.isWtx ≤ L.maxTotalWtx)
    (hc : c + us.countP Block.isWtx ≤ L.maxConsecutiveWtx)
    (hr : r + us.count b ≤ L.maxRetransmissions) :
    Phase L role n chain (f + us.length) (w + us.countP Block.isWtx) (c + us.countP Block.isWtx)
      (r + us.count b) (after receive h us) := by
  induction us using List.reverseRecOn with
  | nil => exact hp
  | append_singleton us x ih =>
    have hone : [x].count b = if x = b then 1 else 0 := by
      by_cases hxb : x = b <;> simp [hxb]
    rw [List.countP_append, List.countP_singleton] at hw hc ⊢
    rw [List.count_append, hone] at hr ⊢
    rw [List.length_append, List.length_singleton] at hf ⊢
    have hph := ih (fun y hy => hus y (by simp [hy])) (by omega) (by omega) (by omega) (by omega)
    obtain ⟨-, hstep⟩ := hph.rest_step hb hbn (hus x (by simp)) (by omega) (by omega) (by omega)
      (by omega)
    rw [after_concat]
    simpa only [Nat.add_assoc] using hstep

/-- What a stretch does at each of its blocks: a reply, to a repeat an R(ACK) with the current
    number, and chain and number as they are. -/
def Quiet (h : ProtocolHandler) (n : Fin 2) (chain : List UInt8) (b : Block) (us : List Block) :
    Prop :=
  ∀ u x v, us = u ++ x :: v →
    (∃ reply, (receive (after receive h u) x).1 = .ok (.reply reply) ∧
      (x = b → reply.IsRack n)) ∧
    (receive (after receive h u) x).2.chain = chain ∧
    (receive (after receive h u) x).2.blockNumber = n

/-- The blocks of a stretch after its I-Block are quiet: the invariant holds before each of them. -/
theorem Phase.quiet (hp : Phase L role n chain f w c r h) {b : Block} {us : List Block}
    (hb : b.blockType = .iBlock) (hbn : b.blockNumber = role.expects (1 - n))
    (hus : ∀ x ∈ us, x = b ∨ x.isFiller role n = true) (hf : f + us.length ≤ L.maxFrames)
    (hw : w + us.countP Block.isWtx ≤ L.maxTotalWtx)
    (hc : c + us.countP Block.isWtx ≤ L.maxConsecutiveWtx)
    (hr : r + us.count b ≤ L.maxRetransmissions) : Quiet h n chain b us := by
  rintro u x v rfl
  rw [List.countP_append, List.countP_cons] at hw hc
  rw [List.length_append, List.length_cons] at hf
  rw [List.count_append, List.count_cons] at hr
  have hbeq : (if (x == b) = true then 1 else 0) = if x = b then 1 else 0 := by simp
  rw [hbeq] at hr
  have hph : Phase L role n chain (f + u.length) _ _ _ (after receive h u) :=
    hp.rest hb hbn (fun y hy => hus y (by simp [hy])) (by omega) (by omega) (by omega) (by omega)
  obtain ⟨hout, hstep⟩ := hph.rest_step hb hbn (hus x (by simp)) (by omega) (by omega) (by omega)
    (by omega)
  exact ⟨hout, hstep.chain, hstep.number⟩

/-- In a quiet stretch every block is answered, and none completes the chain. -/
theorem Quiet.trace {b : Block} {us : List Block} (hq : Quiet h n chain b us) :
    ∀ e ∈ trace receive h us, ∃ reply, e.output = .ok (.reply reply) := by
  intro e he
  obtain ⟨l, r, htrace⟩ := List.append_of_mem he
  obtain ⟨u, v, rfl, -, heq⟩ := trace_eq_append htrace
  obtain ⟨⟨reply, hout, -⟩, -⟩ := hq u e.input v rfl
  exact ⟨reply, by rw [heq]; exact hout⟩

end Rest

/-! ## The run

  The turns one after the other: a lead of fillers, then for each turn its I-Block and its
  stretch. -/

/-- The payload an event hands out. -/
def Event.completed (e : Event) : Option ChainVec :=
  match e.output with
  | .ok (.complete data) => some data
  | _ => none

/-- What a stream of turns does to a handler: it hands out the chains `out`, each payload once, and
    nothing that comes between two I-Blocks changes the chain or the number. -/
structure Assembled [Build] (h : ProtocolHandler) (out : List ChainVec) (lead : List Block)
    (turns : List Turn) : Prop where
  accepted : ∀ e ∈ trace receive h (lead ++ sent turns), Event.accepted e = true
  once : (trace receive h (lead ++ sent turns)).filterMap Event.completed = out
  /-- Before the first I-Block nothing changes. -/
  before : ∀ u x v, lead = u ++ x :: v →
    (receive (after receive h u) x).2.chain = (after receive h u).chain ∧
    (receive (after receive h u) x).2.blockNumber = (after receive h u).blockNumber
  /-- Each I-Block, and every block of the stretch after it. -/
  turn : ∀ pre t post, turns = pre ++ t :: post →
    let s := receive (after receive h (lead ++ sent pre)) t.block
    (t.block.isChaining = true →
      ∃ reply, s.1 = .ok (.reply reply) ∧ reply.IsRack s.2.blockNumber) ∧
    Quiet s.2 s.2.blockNumber s.2.chain t.block t.rest
  number : (after receive h (lead ++ sent turns)).blockNumber = toggled h.blockNumber turns.length

section Runs

variable [Build] {L : Limits} {role : Role}

/-- Where only replies are given, nothing is handed out. -/
theorem completed_of_replies {h : ProtocolHandler} {us : List Block}
    (hall : ∀ e ∈ trace receive h us, ∃ reply, e.output = .ok (.reply reply)) :
    (trace receive h us).filterMap Event.completed = [] ∧
      ∀ e ∈ trace receive h us, Event.accepted e = true := by
  constructor
  · rw [List.filterMap_eq_nil_iff]
    intro e he
    obtain ⟨reply, hout⟩ := hall e he
    simp [Event.completed, hout]
  · intro e he
    obtain ⟨reply, hout⟩ := hall e he
    simp [Event.accepted, hout, Res.isOk]

/-- Nothing assembles to nothing. -/
theorem Assembled.nil (h : ProtocolHandler) : Assembled h [] [] [] where
  accepted := by simp
  once := rfl
  before := by simp
  turn := by simp
  number := rfl

/-- One turn in front of others.  The run of the whole stream is that of the turn, followed by that
    of the rest from where the turn ends. -/
theorem Assembled.cons {h : ProtocolHandler} {t : Turn} {ts : List Turn} {out : List ChainVec}
    (hacc : Event.accepted (event receive h t.block) = true)
    (hack : t.block.isChaining = true → ∃ reply, (receive h t.block).1 = .ok (.reply reply) ∧
      reply.IsRack (receive h t.block).2.blockNumber)
    (hnum : (receive h t.block).2.blockNumber = 1 - h.blockNumber)
    (hq : Quiet (receive h t.block).2 (receive h t.block).2.blockNumber
      (receive h t.block).2.chain t.block t.rest)
    (hkeep : (after receive (receive h t.block).2 t.rest).blockNumber =
      (receive h t.block).2.blockNumber)
    (htail : Assembled (after receive (receive h t.block).2 t.rest) out [] ts) :
    Assembled h ((Event.completed (event receive h t.block)).toList ++ out) [] (t :: ts) := by
  obtain ⟨hnone, hrest⟩ := completed_of_replies hq.trace
  -- the run of a turn: its I-Block, its stretch, and the turns after it
  have htrace : trace receive h ([] ++ sent (t :: ts)) = event receive h t.block ::
      (trace receive (receive h t.block).2 t.rest ++
        trace receive (after receive (receive h t.block).2 t.rest) (sent ts)) := by
    rw [List.nil_append, sent_cons, trace_cons, trace_append]
  -- accepted, handed out once, turn by turn, and the number at the end
  refine ⟨?_, ?_, by simp, ?_, ?_⟩
  · rw [htrace]
    intro e he
    rcases List.mem_cons.mp he with rfl | he
    · exact hacc
    · rcases List.mem_append.mp he with he | he
      · exact hrest e he
      · exact htail.accepted e he
  · rw [htrace, List.filterMap_cons, List.filterMap_append, hnone, List.nil_append]
    have honce : List.filterMap Event.completed
        (trace receive (after receive (receive h t.block).2 t.rest) (sent ts)) = out := htail.once
    rw [honce]
    cases Event.completed (event receive h t.block) <;> rfl
  · intro pre t' post heq
    cases pre with
    | nil =>
      obtain ⟨rfl, rfl⟩ := List.cons.inj heq
      exact ⟨hack, hq⟩
    | cons t'' pre =>
      obtain ⟨rfl, hts⟩ := List.cons.inj heq
      have hst := htail.turn pre t' post hts
      have hafter : after receive h ([] ++ sent (t :: pre)) =
          after receive (after receive (receive h t.block).2 t.rest) ([] ++ sent pre) := by
        rw [List.nil_append, sent_cons, after_cons, after_append, List.nil_append]
      simpa only [hafter] using hst
  · have hlast := htail.number
    rw [List.nil_append] at hlast
    rw [List.nil_append, sent_cons, after_cons, after_append, hlast, hkeep, hnum, List.length_cons,
      toggled_succ]

/-- **The turns, one after the other**, by induction on them.  The invariant is `Phase`, which says
    how much of each budget is used; the I-Block of a turn is taken in by `takeIn`, and its stretch
    changes nothing. -/
theorem assembled_turns (turns : List Turn) : ∀ {n : Fin 2} {chain : List UInt8} {f w c r : Nat}
    {h : ProtocolHandler}, Turns role n turns → Phase L role n chain f w c r h →
    f + (sent turns).length ≤ L.maxFrames →
    w + (sent turns).countP Block.isWtx ≤ L.maxTotalWtx →
    (∀ t ∈ turns, t.rest.countP Block.isWtx ≤ L.maxConsecutiveWtx) →
    (∀ t ∈ turns, t.rest.count t.block ≤ L.maxRetransmissions) →
    chain.length + (payloads turns).length ≤ L.maxChainLen →
    Fits chainCap (chain.length + (payloads turns).length) →
    Assembled h [chain ++ payloads turns] [] turns := by
  induction turns with
  | nil => intro n chain f w c r h hturns; exact hturns.elim
  | cons t ts ih =>
    rintro n chain f w c r h ⟨ht, hn, hch, hrest, hts⟩ hp hf hw hc hr hl hb
    have hbw : t.block.isWtx = false := by simp [Block.isWtx, ht]
    simp only [sent_cons, List.length_cons, List.length_append, List.countP_cons, hbw,
      Bool.false_eq_true, if_false, List.countP_append, payloads_cons] at hf hw hl hb
    have hnn : t.block.blockNumber = role.expects (1 - (1 - n)) := by
      rw [one_sub_one_sub]; exact hn
    have hct := hc t (by simp)
    have hrt := hr t (by simp)
    have hin := hp.takeIn (by omega) ht hn (by omega) (hb.mono (by omega))
    -- whatever the chain is now, the stretch leaves it alone
    have hafter : ∀ {chain'}, Phase L role (1 - n) chain' (f + 1) w 0 0 (receive h t.block).2 →
        Quiet (receive h t.block).2 (receive h t.block).2.blockNumber
          (receive h t.block).2.chain t.block t.rest ∧
        Phase L role (1 - n) chain' (f + 1 + t.rest.length) (w + t.rest.countP Block.isWtx)
          (0 + t.rest.countP Block.isWtx) (0 + t.rest.count t.block)
          (after receive (receive h t.block).2 t.rest) := by
      intro chain' hp1
      rw [hp1.number, hp1.chain]
      exact ⟨hp1.quiet ht hnn hrest (by omega) (by omega) (by omega) (by omega),
        hp1.rest ht hnn hrest (by omega) (by omega) (by omega) (by omega)⟩
    by_cases hlast : ts = []
    · subst hlast
      rw [if_neg (by simp [hch])] at hin
      obtain ⟨hout, hp1⟩ := hin
      obtain ⟨hq, hp2⟩ := hafter hp1
      have hcons := Assembled.cons (by rw [Event.accepted, event_output, hout]; rfl)
        (fun h => absurd h (by simp [hch])) (by rw [hp1.number, hp.number]) hq
        (by rw [hp2.number, hp1.number]) (Assembled.nil _)
      simpa [Event.completed, hout] using hcons
    · rw [if_pos (by simp [hch, hlast])] at hin
      obtain ⟨hout, hp1⟩ := hin
      obtain ⟨hq, hp2⟩ := hafter hp1
      have htail := ih (hts.resolve_left hlast) hp2 (by omega) (by omega)
        (fun t ht => hc t (by simp [ht])) (fun t ht => hr t (by simp [ht]))
        (by rw [List.length_append]; omega)
        (hb.mono (by rw [List.length_append]; omega))
      have hcons := Assembled.cons (by rw [Event.accepted, event_output, hout]; rfl)
        (fun _ => ⟨_, hout, isRack_buildRack _⟩) (by rw [hp1.number, hp.number]) hq
        (by rw [hp2.number, hp1.number]) htail
      simpa [Event.completed, hout] using hcons

/-- **Exactly-once assembly.**  Within the limits, and where the chain buffer can hold the whole
    chain, the payloads come out once and in order. -/
theorem assembled_once (h : ProtocolHandler) (lead : List Block) (turns : List Turn)
    (hturns : Turns h.role h.blockNumber turns)
    (hlead : ∀ x ∈ lead, x.isFiller h.role h.blockNumber = true)
    (hbudget : Budget h.limits lead turns) (hfits : Fits chainCap (payloads turns).length) :
    Assembled h.beginExchange [payloads turns] lead turns := by
  obtain ⟨hf, hw, hlw, hc, hr, hl⟩ := hbudget
  rw [List.length_append] at hf
  rw [List.countP_append] at hw
  have hp0 : Phase h.limits h.role h.blockNumber [] 0 0 0 0 h.beginExchange :=
    ⟨rfl, rfl, rfl, rfl, rfl, rfl, rfl, rfl⟩
  -- the lead is a stretch of fillers; take a block no filler is for the one it could repeat
  let b := iblock (h.role.expects (1 - h.blockNumber)) [] false
  have hb : b.blockType = .iBlock := rfl
  have hcount : lead.count b = 0 := by
    rw [List.count_eq_zero]
    intro hmem
    rcases filler_cases (hlead b hmem) with ⟨-, hx⟩ | ⟨hx, -⟩
    · simp [Block.isWtx, hb] at hx
    · simp [Block.isPresence, hb] at hx
  have hus : ∀ x ∈ lead, x = b ∨ x.isFiller h.role h.blockNumber = true :=
    fun x hx => Or.inr (hlead x hx)
  have hq := hp0.quiet hb rfl hus (by omega) (by omega) (by omega) (by omega)
  have hp1 := hp0.rest hb rfl hus (by omega) (by omega) (by omega) (by omega)
  obtain ⟨hnone, hacc⟩ := completed_of_replies hq.trace
  have hall := assembled_turns turns hturns hp1 (by omega) (by omega) hc hr (by simpa using hl)
    (by simpa using hfits)
  obtain ⟨hacc', honce, -, hturn, hnum⟩ := hall
  refine ⟨?_, ?_, ?_, ?_, ?_⟩
  · intro e he
    rw [trace_append] at he
    rcases List.mem_append.mp he with he | he
    · exact hacc e he
    · exact hacc' e he
  · rw [trace_append, List.filterMap_append, hnone, List.nil_append]
    exact honce
  · rintro u x v rfl
    obtain ⟨-, hchain, hnumber⟩ := hq u x v rfl
    have hpu : Phase h.limits h.role h.blockNumber [] (0 + u.length) _ _ _
        (after receive h.beginExchange u) :=
      hp0.rest hb rfl (fun y hy => hus y (by simp [hy]))
        (by rw [List.length_append] at hf; omega)
        (by rw [List.countP_append] at hw; omega)
        (by rw [List.countP_append] at hlw; omega)
        (by rw [List.count_append] at hcount; omega)
    rw [hchain, hnumber, hpu.chain, hpu.number]
    exact ⟨rfl, rfl⟩
  · intro pre t post heq
    have hst := hturn pre t post heq
    rw [List.nil_append, ← after_append] at hst
    exact hst
  · rw [after_append]
    exact hnum.trans (by rw [hp1.number]; rfl)

end Runs

/-! ## What the buffer has to do with it

  Two runs within the limits: one that is assembled in either build, and one that needs `alloc`. -/

/-- Two payloads from a reader to a card, the first block sent twice, with an S(WTX) and a presence
    check in between. -/
def sampleTurns : List Turn :=
  [⟨iblock 0 [1, 2] true, [iblock 0 [1, 2] true, wtxBlock 5, rblock 1 .nak]⟩,
    ⟨iblock 1 [3] false, [iblock 1 [3] false]⟩]

/-- Both payloads are taken up once, though every block comes twice. -/
theorem assembled_once_sample :
    (Turns .picc 1 sampleTurns ∧
      Budget (@Limits.default Build.heapless) [wtxBlock 1] sampleTurns) ∧
    @Assembled Build.heapless (@new Build.heapless .picc none).beginExchange [[1, 2, 3]]
      [wtxBlock 1] sampleTurns := by
  let : Build := Build.heapless
  have hturns : Turns .picc 1 sampleTurns := by
    refine ⟨rfl, rfl, rfl, by decide, Or.inr ⟨rfl, rfl, rfl, by decide, Or.inl rfl⟩⟩
  have hbudget : Budget (@Limits.default Build.heapless) [wtxBlock 1] sampleTurns := by
    refine ⟨by decide, by decide, by decide, by decide, by decide, by decide⟩
  exact ⟨⟨hturns, hbudget⟩, assembled_once (new .picc none) _ _ hturns (by decide) hbudget
    (fits_chainCap (by decide))⟩

/-- Five I-Blocks that are longer than the fixed-size chain buffer. -/
def longTurns : List Turn :=
  [⟨iblock 0 (List.replicate 256 0) true, []⟩, ⟨iblock 1 (List.replicate 256 0) true, []⟩,
    ⟨iblock 0 (List.replicate 256 0) true, []⟩, ⟨iblock 1 (List.replicate 256 0) true, []⟩,
    ⟨iblock 0 [0] false, []⟩]

/-- Limits that allow them. -/
def longLimits : Limits := { @Limits.default Build.heapless with maxChainLen := 2000 }

/-- Without `alloc`, `max_chain_len` may promise more than the chain buffer holds. -/
theorem not_assembled_heapless : ¬ ∀ (h : ProtocolHandler) (lead : List Block) (turns : List Turn),
    Turns h.role h.blockNumber turns → (∀ x ∈ lead, x.isFiller h.role h.blockNumber = true) →
    Budget h.limits lead turns →
    @Assembled Build.heapless h.beginExchange [payloads turns] lead turns := by
  let : Build := Build.heapless
  intro hall
  have hturns : Turns .picc 1 longTurns :=
    ⟨rfl, rfl, rfl, by decide, Or.inr ⟨rfl, rfl, rfl, by decide, Or.inr ⟨rfl, rfl, rfl, by decide,
      Or.inr ⟨rfl, rfl, rfl, by decide, Or.inr ⟨rfl, rfl, rfl, by decide, Or.inl rfl⟩⟩⟩⟩⟩
  have hbudget : Budget longLimits [] longTurns :=
    ⟨by decide, by decide +kernel, by decide, by decide, by decide +kernel, by decide +kernel⟩
  have hbad := (hall (withLimits .picc none longLimits) [] longTurns hturns (by simp) hbudget).accepted
  have hlast : (trace receive (withLimits .picc none longLimits).beginExchange
      (sent longTurns)).all Event.accepted = false := by
    decide +kernel
  rw [List.nil_append] at hbad
  rw [List.all_eq_true.mpr hbad] at hlast
  cases hlast

end ProtocolHandler

end Iso14443
