/-
  Runs of a handler: `process_received` as a machine.

  `receive` is one step, a run is a `Run.trace` of it, and an event is a step with its block, its
  outcome and the handler before and after.  The work limits speak of events by kind, so the kinds
  are named here, as tests on an event:

  * `forward`   — the exchange was carried forward, by an I-Block taken in or an R(ACK) that
    releases;
  * `asksAgain` — the block asks for what was done already, and `again` — such a request was
    granted;
  * `waits`     — an S(WTX) was granted;
  * `overflow`  — an I-Block did not fit the chain buffer, `exceeds` — a work limit was passed.

  For each counter there is the lemma that says how one event moves it, whatever the block was.
  The two counters of one byte, for retransmissions and for extensions in a row, behave alike: both
  are a `RunBudget`, which grants some requests, counts what it grants and starts over on a step
  forward (`RunBudget.Step`), so what is proved of it later is proved for both.
-/
import Iso14443.Lib.Run
import Iso14443.ProtocolStep

namespace Iso14443

/-! ## Kinds of blocks

  What a peer sends, by the fields that the handler looks at. -/

namespace Block

/-- An S(WTX). -/
def isWtx (b : Block) : Bool := b.blockType = .sBlock && b.pcb.sSubtype = some .wtx

/-- An S(DESELECT). -/
def isDeselect (b : Block) : Bool := b.blockType = .sBlock && b.pcb.sSubtype = some .deselect

/-- An R(ACK) with number `n`. -/
def IsRack (n : Fin 2) (b : Block) : Prop :=
  b.blockType = .rBlock ∧ b.pcb.rSubtype = some .ack ∧ b.blockNumber = n

/-- A block that a value of the type can hold: its payload lies in a frame buffer. -/
def Held [Build] (b : Block) : Prop := Fits frameCap b.payload.length

end Block

namespace ProtocolHandler

/-- An I-Block, an R-Block and an S-Block as a reader sends them. -/
def iblock (n : Fin 2) (payload : List UInt8) (chaining : Bool) : Block :=
  (Block.new (((Pcb.new .iBlock).withBlockNumber n).withChaining chaining)).withPayload payload

/-- An R-Block with a given number, as a peer sends it. -/
def rblock (n : Fin 2) (subtype : RBlockSubtype) : Block :=
  Block.new (((Pcb.new .rBlock).withBlockNumber n).withRSubtype subtype)

/-- An S(WTX) with a given INF, as a peer sends it. -/
def wtxBlock (inf : UInt8) : Block :=
  (Block.new ((Pcb.new .sBlock).withSSubtype .wtx)).withPayload [inf]

/-- The R(ACK) this side builds acknowledges its own number. -/
theorem isRack_buildRack (h : ProtocolHandler) : h.buildRack.IsRack h.blockNumber := by
  simp only [buildRack, addCid]
  split <;> exact ⟨rfl, rfl, rfl⟩

variable [Build]

/-- `process_received` as the step of a machine. -/
def receive (h : ProtocolHandler) (b : Block) : Res TypeAError Action × ProtocolHandler :=
  (processReceived b).run h

/-- The reader of a block sees nothing but its fields. -/
theorem receive_wire (h : ProtocolHandler) (b : Block) : receive h b.wire = receive h b := rfl

/-- A block is accepted or refused. -/
theorem receive_cases (h : ProtocolHandler) (b : Block) :
    (∃ a k, receive h b = (.ok a, k)) ∨ ∃ e k, receive h b = (.err e, k) := by
  rcases (processReceived_returns h b).cases with ⟨a, ha⟩ | ⟨e, he⟩
  · exact Or.inl ⟨a, _, Prod.ext ha rfl⟩
  · exact Or.inr ⟨e, _, Prod.ext he rfl⟩

/-- One block taken from the peer. -/
abbrev Event := Run.Event ProtocolHandler Block (Res TypeAError Action)

/-! ## Kinds of events

  Tests on an event, so that "how many of them" is a count over a list. -/

/-- The block was processed without an error. -/
def Event.accepted (e : Event) : Bool := e.output.isOk

/-- An I-Block was taken in. -/
def Event.takesIn (e : Event) : Bool :=
  e.accepted && e.input.blockType = .iBlock && !e.before.repeatsLastIblock e.input

/-- The exchange was carried forward: an I-Block taken in, or an R(ACK) that releases. -/
def Event.forward (e : Event) : Bool := e.takesIn || e.output = .ok .chainingAck

/-- The block asks for what was done already: an I-Block sent again, or an R-Block that asks for
    the last block. -/
def Event.asksAgain (e : Event) : Bool :=
  (e.input.blockType = .iBlock && e.before.repeatsLastIblock e.input) ||
    (e.input.blockType = .rBlock && e.before.rMeaning e.input = .repeatLast)

/-- Such a request was granted. -/
def Event.again (e : Event) : Bool := e.accepted && e.asksAgain

/-- An S(WTX) was granted. -/
def Event.waits (e : Event) : Bool := e.accepted && e.input.isWtx

/-- An I-Block did not fit the chain buffer. -/
def Event.overflow (e : Event) : Bool := e.output = .err .bufferFull

/-- The exchange failed on a work limit. -/
def Event.exceeds (e : Event) (limit : Limit) : Bool := e.output = .err (.limitExceeded limit)

/-- The event is one of `process_received`. -/
def Event.Real : Event → Prop
  | ⟨before, input, output, after⟩ => Received before input (output, after)

/-- What happens at one call of `receive` is real. -/
theorem real_event (h : ProtocolHandler) (b : Block) : Event.Real (Run.event receive h b) :=
  processReceived_received h b

/-- What a handler does with an I-Block, in either role: it fails, acknowledges a repeated one,
    takes in a chained one, or completes the chain. -/
theorem receive_iblock (h : ProtocolHandler) {b : Block} (ht : b.blockType = .iBlock) :
    (∃ e k, receive h b = (.err e, k) ∧ k.blockNumber = h.blockNumber) ∨
    (h.repeatsLastIblock b = true ∧ receive h b = (.ok (.reply h.buildRack), h.counted.again)) ∨
    (h.repeatsLastIblock b = false ∧ b.isChaining = true ∧
      receive h b = (.ok (.reply h.advanced.buildRack), (h.counted.extended b.payload).advanced)) ∨
    (h.repeatsLastIblock b = false ∧ b.isChaining = false ∧
      receive h b = (.ok (.complete (h.chain ++ b.payload)), h.counted.advanced.dropChain)) := by
  have hrec := processReceived_received h b
  rw [receive]
  generalize (processReceived b).run h = r at hrec ⊢
  cases hrec with
  | frames => exact Or.inl ⟨_, _, rfl, rfl⟩
  | repeated _ _ hr _ => exact Or.inr (Or.inl ⟨hr, rfl⟩)
  | repeatedOut => exact Or.inl ⟨_, _, rfl, rfl⟩
  | tooLong => exact Or.inl ⟨_, _, rfl, rfl⟩
  | bufferFull => exact Or.inl ⟨_, _, rfl, rfl⟩
  | chained _ _ hr _ _ hc =>
    exact Or.inr (Or.inr (Or.inl ⟨Bool.eq_false_iff.mpr hr, hc, rfl⟩))
  | complete _ _ hr _ _ hc =>
    exact Or.inr (Or.inr (Or.inr ⟨Bool.eq_false_iff.mpr hr, Bool.eq_false_iff.mpr hc, rfl⟩))
  | release _ ht' _ => rw [ht] at ht'; cases ht'
  | repeatLast _ ht' _ _ => rw [ht] at ht'; cases ht'
  | repeatLastOut _ ht' _ _ => rw [ht] at ht'; cases ht'
  | presence _ ht' _ => rw [ht] at ht'; cases ht'
  | noSubtype _ ht' _ => rw [ht] at ht'; cases ht'
  | wtx _ ht' _ _ _ _ => rw [ht] at ht'; cases ht'
  | wtxValue _ ht' _ _ => rw [ht] at ht'; cases ht'
  | wtxRunOut _ ht' _ _ _ => rw [ht] at ht'; cases ht'
  | wtxTotalOut _ ht' _ _ _ _ => rw [ht] at ht'; cases ht'
  | deselect _ ht' _ => rw [ht] at ht'; cases ht'
  | badSubtype _ ht' _ _ => rw [ht] at ht'; cases ht'

/-! ## What one event does to each counter

  One lemma for each counter, for every ending of `process_received` at once. -/

namespace Event

variable {e : Event}

/-- Role, CID and limits never change. -/
theorem role_eq (hr : e.Real) : e.after.role = e.before.role := by
  obtain ⟨h, b, o, h'⟩ := e
  cases hr <;> rfl

/-- No step changes the CID. -/
theorem cid_eq (hr : e.Real) : e.after.cid = e.before.cid := by
  obtain ⟨h, b, o, h'⟩ := e
  cases hr <;> rfl

/-- No step changes the limits. -/
theorem limits_eq (hr : e.Real) : e.after.limits = e.before.limits := by
  obtain ⟨h, b, o, h'⟩ := e
  cases hr <;> rfl

/-- Every block is counted as a frame, and S(DESELECT) alone takes it back. -/
theorem frames_eq (hr : e.Real) (hd : e.input.isDeselect = false) :
    e.after.counters.frames = saturatingIncr u16Max e.before.counters.frames := by
  obtain ⟨h, b, o, h'⟩ := e
  cases hr with
  | deselect hf ht hs => simp [Block.isDeselect, ht, hs] at hd
  | _ => rfl

/-- An accepted block was within the frame budget. -/
theorem frames_le (hr : e.Real) (ha : e.accepted = true) :
    saturatingIncr u16Max e.before.counters.frames ≤ e.before.limits.maxFrames := by
  obtain ⟨h, b, o, h'⟩ := e
  cases hr with
  | frames hf => simp [accepted, Res.isOk] at ha
  | _ => assumption

/-- The chain grows by what an I-Block brings, and never past its limit. -/
theorem chain_cases (hr : e.Real) : e.after.chain.length ≤ e.before.chain.length ∨
    (e.takesIn = true ∧ e.after.chain = e.before.chain ++ e.input.payload ∧
      e.before.chain.length + e.input.payload.length ≤ e.before.limits.maxChainLen) := by
  obtain ⟨h, b, o, h'⟩ := e
  cases hr with
  | chained hf ht hr hl hb hc => exact Or.inr ⟨by simp [takesIn, accepted, Res.isOk, ht, hr], by simp, hl⟩
  | _ => exact Or.inl (by simp [reset])

/-- A granted S(WTX) is counted, and was within both budgets. -/
theorem totalWtx_of_waits (hr : e.Real) (hw : e.waits = true) :
    e.after.counters.totalWtx = saturatingIncr u16Max e.before.counters.totalWtx ∧
      saturatingIncr u16Max e.before.counters.totalWtx ≤ e.before.limits.maxTotalWtx := by
  obtain ⟨h, b, o, h'⟩ := e
  simp only [waits, accepted, Block.isWtx, Bool.and_eq_true, decide_eq_true_eq] at hw
  obtain ⟨hok, ht', hs'⟩ := hw
  cases hr with
  | wtx hf ht hs hv hr hw => exact ⟨rfl, hw⟩
  | _ => simp_all [Res.isOk]

/-- The total moves by at most one, and nothing but S(DESELECT) takes it back. -/
theorem totalWtx_bounds (hr : e.Real) (hd : e.input.isDeselect = false) :
    min e.before.counters.totalWtx u16Max ≤ e.after.counters.totalWtx ∧
      e.after.counters.totalWtx ≤ e.before.counters.totalWtx + 1 := by
  obtain ⟨h, b, o, h'⟩ := e
  cases hr with
  | deselect hf ht hs => simp [Block.isDeselect, ht, hs] at hd
  | _ =>
    simp [Counters.countFrame, Counters.countRetransmission, Counters.countTotalWtx,
      Counters.countConsecutiveWtx, Counters.noteProgress, saturatingIncr]
    try omega

/-- Short of a granted S(WTX) and of a failure, the total does not rise. -/
theorem totalWtx_notRaised (hr : e.Real) (hw : e.waits = false)
    (hx : ∀ limit, e.exceeds limit = false) :
    e.after.counters.totalWtx ≤ e.before.counters.totalWtx := by
  obtain ⟨h, b, o, h'⟩ := e
  simp only [waits, accepted, Block.isWtx, exceeds] at hw hx
  cases hr <;>
    simp_all [Res.isOk, Counters.countFrame, Counters.countRetransmission, Counters.noteProgress]

/-- An I-Block overflows the chain buffer only where the limit lies beyond its capacity. -/
theorem overflow_cases (hr : e.Real) (ho : e.overflow = true) : Build.alloc = false ∧
    1024 < e.before.chain.length + e.input.payload.length ∧
    e.before.chain.length + e.input.payload.length ≤ e.before.limits.maxChainLen := by
  obtain ⟨h, b, o, h'⟩ := e
  simp only [overflow] at ho
  cases hr with
  | bufferFull hf ht hr hl hb =>
    cases hal : Build.alloc with
    | false => exact ⟨rfl, by simpa [Fits, chainCap, hal] using hb, hl⟩
    | true => exact absurd (fits_chainCap_of_alloc hal) hb
  | _ => simp at ho

/-- The failures on the limits that are not counted in a run. -/
theorem exceeds_cases (hr : e.Real) {limit : Limit} (hx : e.exceeds limit = true) :
    match limit with
    | .frames => e.before.limits.maxFrames < saturatingIncr u16Max e.before.counters.frames
    | .totalWtx => e.input.isWtx = true ∧
        e.before.limits.maxTotalWtx < saturatingIncr u16Max e.before.counters.totalWtx
    | .wtxValue => e.input.isWtx = true ∧ validWtx e.input.payload = false
    | .chainLength => e.input.blockType = .iBlock ∧
        e.before.limits.maxChainLen < e.before.chain.length + e.input.payload.length
    | .frameSize => False
    | .retransmissions => True
    | .consecutiveWtx => True := by
  obtain ⟨h, b, o, h'⟩ := e
  obtain rfl : o = .err (.limitExceeded limit) := of_decide_eq_true hx
  cases hr with
  | frames hf => exact Nat.lt_of_not_le hf
  | tooLong hf ht hr hl => exact ⟨ht, hl⟩
  | wtxValue hf ht hs hv => exact ⟨by simp [Block.isWtx, ht, hs], by simpa using hv⟩
  | wtxTotalOut hf ht hs hv hr hw => exact ⟨by simp [Block.isWtx, ht, hs], Nat.lt_of_not_le hw⟩
  | repeatedOut | repeatLastOut | wtxRunOut => trivial

end Event

/-! ## The two budgets for a run of unproductive blocks

  Retransmissions and S(WTX) in a row are bounded in the same way, by counters of one byte that
  start over whenever the exchange is carried forward. -/

/-- A budget of this kind: a counter that starts over when the exchange is carried forward, with its
    limit.  Retransmissions are one, S(WTX) in a row the other. -/
structure RunBudget where
  /-- The blocks that draw on it. -/
  asks : Event → Bool
  counter : Counters → Nat
  bound : Limits → Nat
  named : Limit

/-- Repeated blocks and requests to send again. -/
def retransmissionBudget : RunBudget :=
  ⟨Event.asksAgain, Counters.retransmissions, Limits.maxRetransmissions, .retransmissions⟩

/-- S(WTX) in a row. -/
def consecutiveWtxBudget : RunBudget :=
  ⟨fun e => e.input.isWtx, Counters.consecutiveWtx, Limits.maxConsecutiveWtx, .consecutiveWtx⟩

namespace RunBudget

/-- A request that was granted. -/
def grants (B : RunBudget) (e : Event) : Bool := e.accepted && B.asks e

/-- What an event does to the budget: a request that is granted counts one up, progress takes it
    back to zero, and the request that is one too many is refused by name. -/
structure Step (B : RunBudget) (e : Event) : Prop where
  granted : B.grants e = true → e.forward = false ∧
    B.counter e.after.counters = saturatingIncr u8Max (B.counter e.before.counters) ∧
    saturatingIncr u8Max (B.counter e.before.counters) ≤ B.bound e.before.limits
  kept : B.grants e = false → e.forward = false → e.overflow = false →
    e.input.isDeselect = false → min (B.counter e.before.counters) u8Max ≤ B.counter e.after.counters
  notRaised : B.grants e = false → (∀ limit, e.exceeds limit = false) →
    B.counter e.after.counters ≤ B.counter e.before.counters
  restarts : e.forward = true → B.counter e.after.counters = 0
  refused : e.exceeds B.named = true → B.asks e = true ∧
    B.bound e.before.limits < saturatingIncr u8Max (B.counter e.before.counters)

end RunBudget

/-- The retransmission counter is a budget that one step never overdraws. -/
theorem retransmission_step {e : Event} (hr : e.Real) : retransmissionBudget.Step e := by
  obtain ⟨h, b, o, h'⟩ := e
  have hsat := le_saturatingIncr u8Max h.counters.retransmissions
  constructor <;> intro hg <;>
    simp only [RunBudget.grants, retransmissionBudget, Event.asksAgain, Event.accepted,
      Event.forward, Event.takesIn, Event.exceeds, Event.overflow] at hg ⊢ <;>
    cases hr <;>
    simp_all [Res.isOk, Counters.countFrame, Counters.countRetransmission, Counters.countTotalWtx,
      Counters.countConsecutiveWtx, Counters.noteProgress, AgainOk, Block.isDeselect]

/-- So is the counter of waiting time extensions in a row. -/
theorem consecutiveWtx_step {e : Event} (hr : e.Real) : consecutiveWtxBudget.Step e := by
  obtain ⟨h, b, o, h'⟩ := e
  have hsat := le_saturatingIncr u8Max h.counters.consecutiveWtx
  constructor <;> intro hg <;>
    simp only [RunBudget.grants, consecutiveWtxBudget, Block.isWtx, Event.accepted,
      Event.forward, Event.takesIn, Event.exceeds, Event.overflow] at hg ⊢ <;>
    cases hr <;>
    simp_all [Res.isOk, Counters.countFrame, Counters.countRetransmission, Counters.countTotalWtx,
      Counters.countConsecutiveWtx, Counters.noteProgress, RunOk, Block.isDeselect]

end ProtocolHandler

end Iso14443
