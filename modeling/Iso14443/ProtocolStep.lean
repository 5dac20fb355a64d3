/-
  What one received block does to a handler, said once.

  `processReceived` is some sixty lines of nested conditions, and every result about runs needs to
  know what they come to.  So they are taken apart here, once:

  * `Received h b r` lists the endings of `process_received`, one constructor each, with the
    conditions under which it is reached and the state it leaves.  The constructors say everything,
    the errors with the state they leave included, so that no later proof has to look at the code.
  * `processReceived_received` is the inversion: what comes out is one of these.  Invariants go by
    it, with one case for each constructor.
  * `Received.eq` is the other way: the relation is a function, so where the conditions of an
    ending are known it is the one that is reached.  Runs on given blocks go by it.

  The states are written with a few named updates (`counted`, `again`, `waited`, `advanced`,
  `extended`, `dropChain`), each with its fields as `simp` lemmas; what an R-Block means to its
  receiver is a function of the role and the two numbers (`rMeaning`).
-/
import Iso14443.Protocol

namespace Iso14443.ProtocolHandler

/-! ## Named updates

  Each is one assignment of the source, with the fields it leaves alone as `simp` lemmas. -/

/-- One more frame counted. -/
@[simps]
def counted (h : ProtocolHandler) : ProtocolHandler := { h with counters := h.counters.countFrame }

/-- One more retransmission counted. -/
@[simps]
def again (h : ProtocolHandler) : ProtocolHandler :=
  { h with counters := h.counters.countRetransmission }

/-- One more S(WTX) counted. -/
@[simps]
def waited (h : ProtocolHandler) : ProtocolHandler :=
  { h with counters := h.counters.countConsecutiveWtx.countTotalWtx }

/-- The exchange was carried forward: the number toggles, the run counters start over. -/
@[simps]
def advanced (h : ProtocolHandler) : ProtocolHandler :=
  { h with blockNumber := 1 - h.blockNumber, counters := h.counters.noteProgress }

/-- Payload taken in. -/
@[simps]
def extended (h : ProtocolHandler) (payload : List UInt8) : ProtocolHandler :=
  { h with chain := h.chain ++ payload }

/-- The chain given up, or given out. -/
@[simps]
def dropChain (h : ProtocolHandler) : ProtocolHandler := { h with chain := [] }

/-! ## What an R-Block means

  The tests of `process_rblock`, in the order of the source, as a value. -/

/-- The reading of an R-Block. -/
inductive RMeaning where
  /-- The last block arrived: go on (Rule 7 for the reader, Rules E and 13 for the card). -/
  | release
  /-- Send the last block again (Rule 6 for the reader, Rule 11 for the card). -/
  | repeatLast
  /-- Are you there? (Rule 12, the card only). -/
  | presence
  /-- No R-Block at all. -/
  | none
deriving DecidableEq, Repr

/-- The two roles read the number of an R-Block in mirrored ways. -/
def rMeaning (h : ProtocolHandler) (b : Block) : RMeaning :=
  match h.role, b.pcb.rSubtype with
  | .pcd, some .ack => if b.blockNumber = h.blockNumber then .release else .repeatLast
  | .pcd, some .nak => .repeatLast
  | .picc, some .ack => if b.blockNumber = h.blockNumber then .repeatLast else .release
  | .picc, some .nak => if b.blockNumber = h.blockNumber then .repeatLast else .presence
  | _, Option.none => .none

/-! ## The endings of `process_received`

  The conditions are those of the source, in its order; each constructor has those on the way to
  it. -/

/-- The next frame is within the frame budget. -/
def FrameOk (h : ProtocolHandler) : Prop := h.counted.counters.frames ≤ h.limits.maxFrames

/-- One more retransmission is within the budget. -/
def AgainOk (h : ProtocolHandler) : Prop :=
  h.again.counters.retransmissions ≤ h.limits.maxRetransmissions

/-- One more S(WTX) in a row is within the budget. -/
def RunOk (h : ProtocolHandler) : Prop :=
  h.waited.counters.consecutiveWtx ≤ h.limits.maxConsecutiveWtx

/-- One more S(WTX) in the exchange is within the budget. -/
def TotalOk (h : ProtocolHandler) : Prop := h.waited.counters.totalWtx ≤ h.limits.maxTotalWtx

/-- A frame is one comparison of the frame counter. -/
instance (h : ProtocolHandler) : Decidable h.FrameOk := inferInstanceAs (Decidable (_ ≤ _))

/-- A repeat is one comparison of the retransmission counter. -/
instance (h : ProtocolHandler) : Decidable h.AgainOk := inferInstanceAs (Decidable (_ ≤ _))

/-- A waiting time extension is one comparison of the count in a row. -/
instance (h : ProtocolHandler) : Decidable h.RunOk := inferInstanceAs (Decidable (_ ≤ _))

/-- It is also one comparison of the count since the chain began. -/
instance (h : ProtocolHandler) : Decidable h.TotalOk := inferInstanceAs (Decidable (_ ≤ _))

/-- The ending of `process_received` on a block, with the state it leaves.  Each constructor is one
    path through the source, with the conditions that lead there; they exclude each other, and every
    block has one of them (`processReceived_received`). -/
inductive Received [Build] (h : ProtocolHandler) (b : Block) :
    Res TypeAError Action × ProtocolHandler → Prop
  | frames (hf : ¬ h.FrameOk) : Received h b (.err (.limitExceeded .frames), h.counted.dropChain)
  | repeated (hf : h.FrameOk) (ht : b.blockType = .iBlock) (hr : h.repeatsLastIblock b)
      (ha : h.AgainOk) : Received h b (.ok (.reply h.buildRack), h.counted.again)
  | repeatedOut (hf : h.FrameOk) (ht : b.blockType = .iBlock) (hr : h.repeatsLastIblock b)
      (ha : ¬ h.AgainOk) :
      Received h b (.err (.limitExceeded .retransmissions), h.counted.again.dropChain)
  | tooLong (hf : h.FrameOk) (ht : b.blockType = .iBlock) (hr : ¬ h.repeatsLastIblock b)
      (hl : h.limits.maxChainLen < h.chain.length + b.payload.length) :
      Received h b (.err (.limitExceeded .chainLength), h.counted.dropChain)
  | bufferFull (hf : h.FrameOk) (ht : b.blockType = .iBlock) (hr : ¬ h.repeatsLastIblock b)
      (hl : h.chain.length + b.payload.length ≤ h.limits.maxChainLen)
      (hb : ¬ Fits chainCap (h.chain.length + b.payload.length)) :
      Received h b (.err .bufferFull,
        { h.counted with counters := h.counted.counters.noteProgress })
  | chained (hf : h.FrameOk) (ht : b.blockType = .iBlock) (hr : ¬ h.repeatsLastIblock b)
      (hl : h.chain.length + b.payload.length ≤ h.limits.maxChainLen)
      (hb : Fits chainCap (h.chain.length + b.payload.length)) (hc : b.isChaining) :
      Received h b (.ok (.reply h.advanced.buildRack), (h.counted.extended b.payload).advanced)
  | complete (hf : h.FrameOk) (ht : b.blockType = .iBlock) (hr : ¬ h.repeatsLastIblock b)
      (hl : h.chain.length + b.payload.length ≤ h.limits.maxChainLen)
      (hb : Fits chainCap (h.chain.length + b.payload.length)) (hc : ¬ b.isChaining) :
      Received h b (.ok (.complete (h.chain ++ b.payload)), h.counted.advanced.dropChain)
  | release (hf : h.FrameOk) (ht : b.blockType = .rBlock) (hm : h.rMeaning b = .release) :
      Received h b (.ok .chainingAck, h.counted.advanced)
  | repeatLast (hf : h.FrameOk) (ht : b.blockType = .rBlock) (hm : h.rMeaning b = .repeatLast)
      (ha : h.AgainOk) : Received h b (.ok .chainingRetransmit, h.counted.again)
  | repeatLastOut (hf : h.FrameOk) (ht : b.blockType = .rBlock) (hm : h.rMeaning b = .repeatLast)
      (ha : ¬ h.AgainOk) :
      Received h b (.err (.limitExceeded .retransmissions), h.counted.again.dropChain)
  | presence (hf : h.FrameOk) (ht : b.blockType = .rBlock) (hm : h.rMeaning b = .presence) :
      Received h b (.ok (.reply h.buildRack), h.counted)
  | noSubtype (hf : h.FrameOk) (ht : b.blockType = .rBlock) (hm : h.rMeaning b = .none) :
      Received h b (.err .invalidPcb, h.counted)
  | wtx (hf : h.FrameOk) (ht : b.blockType = .sBlock) (hs : b.pcb.sSubtype = some .wtx)
      (hv : validWtx b.payload) (hr : h.RunOk) (hw : h.TotalOk) :
      Received h b (.ok (.reply (h.buildWtxResponse b)), h.counted.waited)
  | wtxValue (hf : h.FrameOk) (ht : b.blockType = .sBlock) (hs : b.pcb.sSubtype = some .wtx)
      (hv : ¬ validWtx b.payload) :
      Received h b (.err (.limitExceeded .wtxValue), h.counted.dropChain)
  | wtxRunOut (hf : h.FrameOk) (ht : b.blockType = .sBlock) (hs : b.pcb.sSubtype = some .wtx)
      (hv : validWtx b.payload) (hr : ¬ h.RunOk) :
      Received h b (.err (.limitExceeded .consecutiveWtx),
        { h.counted.dropChain with counters := h.counted.counters.countConsecutiveWtx })
  | wtxTotalOut (hf : h.FrameOk) (ht : b.blockType = .sBlock) (hs : b.pcb.sSubtype = some .wtx)
      (hv : validWtx b.payload) (hr : h.RunOk) (hw : ¬ h.TotalOk) :
      Received h b (.err (.limitExceeded .totalWtx), h.counted.waited.dropChain)
  | deselect (hf : h.FrameOk) (ht : b.blockType = .sBlock) (hs : b.pcb.sSubtype = some .deselect) :
      Received h b (.ok (.reply (h.buildSblock .deselect)), h.counted.reset)
  | badSubtype (hf : h.FrameOk) (ht : b.blockType = .sBlock)
      (hs : b.pcb.sSubtype ≠ some .wtx) (hs' : b.pcb.sSubtype ≠ some .deselect) :
      Received h b (.err .other, h.counted)

/-- The WTXM check, spelled out. -/
theorem validWtx_iff (payload : List UInt8) : validWtx payload = true ↔
    ∃ inf : UInt8, payload = [inf] ∧ 1 ≤ inf &&& 0x3f ∧ inf &&& 0x3f ≤ 59 := by
  unfold validWtx
  split
  · simp
  · rename_i hne
    constructor
    · intro h; exact absurd h (by simp)
    · rintro ⟨inf, rfl, -⟩; exact absurd rfl (hne inf)

section Inversion

variable {h : ProtocolHandler}

/-- A limit that is passed drops the chain and names itself. -/
theorem run_failIf (past : Prop) [Decidable past] (limit : Limit) (h : ProtocolHandler) :
    (failIf past limit).run h =
      if past then (.err (.limitExceeded limit), h.dropChain) else (.ok (), h) := by
  rw [failIf, Act.run_ite]
  rfl

/-- Every block that is processed is first one frame. -/
theorem run_noteFrame (h : ProtocolHandler) : noteFrame.run h =
    if h.FrameOk then (.ok (), h.counted)
    else (.err (.limitExceeded .frames), h.counted.dropChain) := by
  have hrun : noteFrame.run h = _ :=
    run_failIf (h.counted.counters.frames > h.limits.maxFrames) .frames h.counted
  by_cases hf : h.FrameOk
  · rw [if_pos hf, hrun, if_neg (Nat.not_lt.mpr hf)]
  · rw [if_neg hf, hrun, if_pos (Nat.lt_of_not_le hf)]

/-- What being asked again costs. -/
theorem run_noteRetransmit (h : ProtocolHandler) : noteRetransmit.run h =
    if h.AgainOk then (.ok (), h.again)
    else (.err (.limitExceeded .retransmissions), h.again.dropChain) := by
  have hrun : noteRetransmit.run h = _ :=
    run_failIf (h.again.counters.retransmissions > h.limits.maxRetransmissions) .retransmissions
      h.again
  by_cases ha : h.AgainOk
  · rw [if_pos ha, hrun, if_neg (Nat.not_lt.mpr ha)]
  · rw [if_neg ha, hrun, if_pos (Nat.lt_of_not_le ha)]

/-- A payload is taken into the chain whole or not at all. -/
theorem run_extendChain [Build] (p : List UInt8) (h : ProtocolHandler) : (extendChain p).run h =
    if Fits chainCap (h.chain.length + p.length) then (.ok (), h.extended p)
    else (.err .bufferFull, h) := by
  rw [extendChain, Act.run_get_bind, Act.run_bind, Act.run_lift, tryExtend]
  by_cases hb : Fits chainCap (h.chain.length + p.length)
  · rw [if_pos hb, if_pos hb]; rfl
  · rw [if_neg hb, if_neg hb]; rfl

/-- A waiting time extension in all its endings: not a valid number, past the count in a row, past
    the total, granted. -/
theorem run_checkWtx (b : Block) (h : ProtocolHandler) : (checkWtx b).run h =
    if validWtx b.payload then
      if h.RunOk then
        if h.TotalOk then (.ok (), h.waited)
        else (.err (.limitExceeded .totalWtx), h.waited.dropChain)
      else (.err (.limitExceeded .consecutiveWtx),
        { h.dropChain with counters := h.counters.countConsecutiveWtx })
    else (.err (.limitExceeded .wtxValue), h.dropChain) := by
  rw [checkWtx]
  by_cases hv : validWtx b.payload
  · rw [if_pos hv, if_pos hv]
    simp only [Act.run_bind, Act.run_modify, Act.run_get, run_failIf]
    by_cases hr : h.RunOk
    · have hr' : ¬ h.counters.countConsecutiveWtx.consecutiveWtx > h.limits.maxConsecutiveWtx :=
        Nat.not_lt.mpr hr
      rw [if_pos hr, if_neg hr']
      by_cases hw : h.TotalOk
      · have hw' : ¬ h.counters.countConsecutiveWtx.countTotalWtx.totalWtx > h.limits.maxTotalWtx :=
          Nat.not_lt.mpr hw
        rw [if_pos hw]
        simp only [hw', if_false]
        rfl
      · have hw' : h.counters.countConsecutiveWtx.countTotalWtx.totalWtx > h.limits.maxTotalWtx :=
          Nat.lt_of_not_le hw
        rw [if_neg hw]
        simp only [hw', if_true]
        rfl
    · have hr' : h.counters.countConsecutiveWtx.consecutiveWtx > h.limits.maxConsecutiveWtx :=
        Nat.lt_of_not_le hr
      rw [if_neg hr, if_pos hr']
      rfl
  · rw [if_neg hv, if_neg hv]
    rfl

/-- An I-Block ends in one of the outcomes of `Received`. -/
theorem processIblock_received [Build] {b : Block} (hf : h.FrameOk) (ht : b.blockType = .iBlock) :
    Received h b ((processIblock b).run h.counted) := by
  by_cases hr : h.repeatsLastIblock b
  · have hr' : h.counted.repeatsLastIblock b := hr
    simp only [processIblock, Act.run_get_bind, hr', if_true]
    rw [Act.run_bind, run_noteRetransmit]
    by_cases ha : h.AgainOk
    · rw [if_pos (show h.counted.AgainOk from ha)]
      exact .repeated hf ht hr ha
    · rw [if_neg (show ¬ h.counted.AgainOk from ha)]
      exact .repeatedOut hf ht hr ha
  · have hr' : ¬ h.counted.repeatsLastIblock b := hr
    simp only [processIblock, Act.run_get_bind, hr', Bool.false_eq_true, if_false, counted_chain,
      counted_limits]
    by_cases hl : h.chain.length + b.payload.length > h.limits.maxChainLen
    · rw [if_pos hl]
      exact .tooLong hf ht hr hl
    · rw [if_neg hl]
      have hl := Nat.le_of_not_lt hl
      rw [Act.run_modify_bind, Act.run_bind, run_extendChain]
      by_cases hb : Fits chainCap (h.chain.length + b.payload.length)
      · rw [if_pos (show Fits chainCap (h.counted.chain.length + _) from hb)]
        by_cases hc : b.isChaining
        · simp only [Act.run_modify_bind, Act.run_get_bind, hc, if_true]
          exact .chained hf ht hr hl hb hc
        · simp only [Act.run_modify_bind, Act.run_get_bind, hc]
          exact .complete hf ht hr hl hb hc
      · rw [if_neg (show ¬ Fits chainCap (h.counted.chain.length + _) from hb)]
        exact .bufferFull hf ht hr hl hb

/-- So does an R-Block. -/
theorem processRblock_received [Build] {b : Block} (hf : h.FrameOk) (ht : b.blockType = .rBlock) :
    Received h b ((processRblock b).run h.counted) := by
  -- the two endings of a request to send the last block again
  have hagain : h.rMeaning b = .repeatLast → Received h b
      ((do noteRetransmit; pure Action.chainingRetransmit : Act _ TypeAError Action).run
        h.counted) := by
    intro hm
    rw [Act.run_bind, run_noteRetransmit]
    by_cases ha : h.AgainOk
    · rw [if_pos (show h.counted.AgainOk from ha)]
      exact .repeatLast hf ht hm ha
    · rw [if_neg (show ¬ h.counted.AgainOk from ha)]
      exact .repeatLastOut hf ht hm ha
  simp only [processRblock, Act.run_get_bind, counted_role, counted_blockNumber]
  cases hrole : h.role <;> cases hsub : b.pcb.rSubtype with
  | none => exact .noSubtype hf ht (by simp [rMeaning, hrole, hsub])
  | some sub =>
    by_cases hn : b.blockNumber = h.blockNumber <;> cases sub <;>
      simp only [hn, if_true, if_false]
    all_goals first
      | exact hagain (by simp [rMeaning, hrole, hsub, hn])
      | exact .release hf ht (by simp [rMeaning, hrole, hsub, hn])
      | exact .presence hf ht (by simp [rMeaning, hrole, hsub, hn])

/-- So does an S-Block. -/
theorem processSblock_received [Build] {b : Block} (hf : h.FrameOk) (ht : b.blockType = .sBlock) :
    Received h b ((processSblock b).run h.counted) := by
  simp only [processSblock]
  split
  · rename_i hs
    rw [Act.run_bind, run_checkWtx]
    by_cases hv : validWtx b.payload
    · rw [if_pos hv]
      by_cases hr : h.RunOk
      · rw [if_pos (show h.counted.RunOk from hr)]
        by_cases hw : h.TotalOk
        · rw [if_pos (show h.counted.TotalOk from hw)]
          exact .wtx hf ht hs hv hr hw
        · rw [if_neg (show ¬ h.counted.TotalOk from hw)]
          exact .wtxTotalOut hf ht hs hv hr hw
      · rw [if_neg (show ¬ h.counted.RunOk from hr)]
        exact .wtxRunOut hf ht hs hv hr
    · rw [if_neg hv]
      exact .wtxValue hf ht hs hv
  · rename_i hs
    exact .deselect hf ht hs
  · rename_i hs hs'
    exact .badSubtype hf ht hs hs'

/-- **What a received block does.** -/
theorem processReceived_received [Build] (h : ProtocolHandler) (b : Block) :
    Received h b ((processReceived b).run h) := by
  rw [processReceived, Act.run_bind, run_noteFrame]
  by_cases hf : h.FrameOk
  · rw [if_pos hf]
    simp only
    split
    · rename_i ht; exact processIblock_received hf ht
    · rename_i ht; exact processRblock_received hf ht
    · rename_i ht; exact processSblock_received hf ht
  · rw [if_neg hf]
    exact .frames hf

/-- A block is always accepted or refused: the handler does not panic. -/
theorem processReceived_returns [Build] (h : ProtocolHandler) (b : Block) :
    ((processReceived b).run h).1.Returns := by
  have hr := processReceived_received h b
  generalize (processReceived b).run h = r at hr ⊢
  cases hr <;> trivial

/-- **The endings are exclusive**: where the conditions of one are known, it is the one reached. -/
theorem Received.eq [Build] {b : Block} {r : Res TypeAError Action × ProtocolHandler}
    (hr : Received h b r) : (processReceived b).run h = r := by
  have hr' := processReceived_received h b
  generalize (processReceived b).run h = r' at hr'
  cases hr <;> cases hr' <;> first
    | rfl
    | (exfalso; first | contradiction | (simp_all; done) | omega)

end Inversion

end Iso14443.ProtocolHandler
