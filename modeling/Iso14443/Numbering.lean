/-
  The block number of a handler, over every run of its methods.

  * `Untouched`       — what a block that is refused leaves alone: the number, the role, the CID
                        and the limits.  A limit that was run past takes the chain with it.
  * `HandlerCall`     — the methods of a handler that change it, as the inputs of a machine.
  * `CallEvent.counts` — the calls the numbering rules count: an exchange completed, a chunk
                        acknowledged, or a chained I-Block that was new.
  * `number_sinceLast` — the number is the initial one, toggled once for each of them since the
                        last reset.

  The machine takes the public methods in any order; `toggle_block_number` is private and is called
  by `process_received` alone.  What one call does to the number (`CallEvent.Numbered`) is
  read off the endings of `process_received`; over a run the toggles since the last reset are then
  counted by induction, a reset starting the count over.
-/
import Iso14443.ChainAssembly

namespace Iso14443

namespace ProtocolHandler

/-! ## A refused block

  Read off the endings of `process_received` that are errors. -/

/-- What stays as it was.  A call that fails leaves all of this alone, whatever it did to the chain
    and the counters. -/
structure Untouched (h k : ProtocolHandler) : Prop where
  blockNumber : k.blockNumber = h.blockNumber
  role : k.role = h.role
  cid : k.cid = h.cid
  limits : k.limits = h.limits

/-- A block that fails leaves the handler as it was but for counters and chain, and a limit empties
    the chain. -/
theorem Received.untouched [Build] {h k : ProtocolHandler} {b : Block} {e : TypeAError}
    (hr : Received h b (.err e, k)) :
    Untouched h k ∧ ∀ limit, e = .limitExceeded limit → k.chain = [] := by
  cases hr with
  | bufferFull => exact ⟨⟨rfl, rfl, rfl, rfl⟩, by rintro _ ⟨⟩⟩
  | noSubtype => exact ⟨⟨rfl, rfl, rfl, rfl⟩, by rintro _ ⟨⟩⟩
  | badSubtype => exact ⟨⟨rfl, rfl, rfl, rfl⟩, by rintro _ ⟨⟩⟩
  | frames | repeatedOut | tooLong | repeatLastOut | wtxValue | wtxRunOut | wtxTotalOut =>
    exact ⟨⟨rfl, rfl, rfl, rfl⟩, fun _ _ => rfl⟩

/-! ## The methods as a machine

  A run of calls in any order, with what each of them returned.  Which calls count is said by what
  they returned, not by what they did to the number. -/

/-- The methods that change a handler, as the calls of a run: any caller is a sequence of these. -/
inductive HandlerCall where
  | processReceived (block : Block)
  | reset
  | beginExchange
  | noteFrame
  | setLimits (limits : Limits)

/-- What a call returned: an action of `process_received`, or nothing. -/
abbrev Returned := Res TypeAError (Option Action)

/-- A call. -/
def perform [Build] (h : ProtocolHandler) : HandlerCall → Returned × ProtocolHandler
  | .processReceived block => ((h.receive block).1 >>= fun a => .ok (some a), (h.receive block).2)
  | .reset => (.ok none, h.reset)
  | .beginExchange => (.ok none, h.beginExchange)
  | .noteFrame => ((noteFrame.run h).1 >>= fun _ => .ok none, (noteFrame.run h).2)
  | .setLimits limits => (.ok none, h.setLimits limits)

/-- One call of a run. -/
abbrev CallEvent := Run.Event ProtocolHandler HandlerCall Returned

/-- Is the block an R(ACK)? -/
def isAck (b : Block) : Bool := b.blockType = .rBlock && b.pcb.rSubtype = some .ack

/-- The calls the number counts: `process_received` returned `Complete` or `ChainingAck`, or an R(ACK)
    to an I-Block that was not taken in before. -/
def CallEvent.counts (e : CallEvent) : Bool :=
  match e.input, e.output with
  | .processReceived _, .ok (some (.complete _)) => true
  | .processReceived _, .ok (some .chainingAck) => true
  | .processReceived block, .ok (some (.reply reply)) =>
    block.blockType = .iBlock && isAck reply && !e.before.repeatsLastIblock block
  | _, _ => false

/-- The calls that start the numbering anew: `reset`, and an S(DESELECT) that was answered. -/
def CallEvent.resets (e : CallEvent) : Bool :=
  match e.input with
  | .reset => true
  | .processReceived block => e.output.isOk && block.isDeselect
  | _ => false

/-! ## One call

  The number after a call by the kind of the call, and what a failed call leaves alone. -/

/-- What one call does to the number: a reset takes it back to that of the role, a call that counts
    toggles it, and no other call changes it. -/
structure CallEvent.Numbered (e : CallEvent) : Prop where
  role : e.after.role = e.before.role
  number : e.after.blockNumber =
    if e.resets then e.before.role.initialBlockNumber
    else if e.counts then 1 - e.before.blockNumber
    else e.before.blockNumber

/-- The number moves with an action, as the rules say.  By the ending of the block: three of them
    count, one resets, and the others leave the number alone. -/
theorem Received.numbered [Build] {h k : ProtocolHandler} {b : Block} {r : Res TypeAError Action}
    (hr : Received h b (r, k)) :
    CallEvent.Numbered ⟨h, .processReceived b, r >>= fun a => .ok (some a), k⟩ := by
  cases hr with
  | repeated hf ht hr ha =>
    refine ⟨rfl, ?_⟩
    simp [CallEvent.resets, CallEvent.counts, Block.isDeselect, ht, hr]
  | chained hf ht hr hl hb hc =>
    refine ⟨rfl, ?_⟩
    have hack : isAck h.advanced.buildRack = true := by
      obtain ⟨ht, hs, -⟩ := isRack_buildRack h.advanced
      simp [isAck, ht, hs]
    simp [CallEvent.resets, CallEvent.counts, Block.isDeselect, ht, hr, hack]
  | complete hf ht hr hl hb hc =>
    refine ⟨rfl, ?_⟩
    simp [CallEvent.resets, CallEvent.counts, Block.isDeselect, ht]
  | release hf ht hm =>
    refine ⟨rfl, ?_⟩
    simp [CallEvent.resets, CallEvent.counts, Block.isDeselect, ht]
  | repeatLast hf ht hm ha =>
    refine ⟨rfl, ?_⟩
    simp [CallEvent.resets, CallEvent.counts, Block.isDeselect, ht]
  | presence hf ht hm =>
    refine ⟨rfl, ?_⟩
    simp [CallEvent.resets, CallEvent.counts, Block.isDeselect, ht]
  | wtx hf ht hs hv hr hw =>
    refine ⟨rfl, ?_⟩
    simp [CallEvent.resets, CallEvent.counts, Block.isDeselect, ht, hs]
  | deselect hf ht hs =>
    refine ⟨rfl, ?_⟩
    simp [CallEvent.resets, Block.isDeselect, ht, hs, Res.isOk, reset]
  | frames | repeatedOut | tooLong | bufferFull | repeatLastOut | noSubtype | wtxValue | wtxRunOut
  | wtxTotalOut | badSubtype =>
    exact ⟨rfl, rfl⟩

/-- Every call of the handler keeps the numbering. -/
theorem perform_numbered [Build] (h : ProtocolHandler) (c : HandlerCall) :
    CallEvent.Numbered (Run.event perform h c) := by
  cases c with
  | processReceived block => exact (processReceived_received h block).numbered
  | reset => exact ⟨rfl, rfl⟩
  | beginExchange => exact ⟨rfl, rfl⟩
  | setLimits limits => exact ⟨rfl, rfl⟩
  | noteFrame =>
    have hsame : (noteFrame.run h).2.role = h.role ∧ (noteFrame.run h).2.blockNumber = h.blockNumber := by
      rw [run_noteFrame]
      split <;> exact ⟨rfl, rfl⟩
    refine ⟨hsame.1, ?_⟩
    exact hsame.2

/-! ## Every run

  The calls since the last reset: a reset starts the list over. -/

section Runs

variable [Build]

/-- The calls of a run since its last reset. -/
def sinceReset (calls : List CallEvent) : List CallEvent := Run.sinceLast CallEvent.resets calls

/-- **The number of a handler** is the one its role starts with, toggled once for each call that
    counts since the last reset. -/
theorem number_sinceLast (role : Role) (cid : Option Cid) (limits : Limits)
    (calls : List HandlerCall) :
    (Run.after perform (withLimits role cid limits) calls).blockNumber =
      toggled role.initialBlockNumber
        ((sinceReset (Run.trace perform (withLimits role cid limits) calls)).countP
          CallEvent.counts) := by
  let I : List CallEvent → ProtocolHandler → Prop := fun l h =>
    h.role = role ∧
      h.blockNumber = toggled role.initialBlockNumber ((sinceReset l).countP CallEvent.counts)
  have hrun : I (Run.trace perform (withLimits role cid limits) calls)
      (Run.after perform (withLimits role cid limits) calls) := by
    refine Run.trace_induction (I := I) ⟨rfl, rfl⟩ ?_
    rintro l h c - ⟨hrole, hnumber⟩
    obtain ⟨hrole', hnumber'⟩ := perform_numbered h c
    refine ⟨hrole'.trans hrole, ?_⟩
    rw [sinceReset, Run.sinceLast_concat]
    refine hnumber'.trans ?_
    rw [Run.event_before, hrole, hnumber]
    -- a reset, a call that counts, or any other
    cases hreset : CallEvent.resets (Run.event perform h c) with
    | true => rfl
    | false =>
      rw [if_neg Bool.false_ne_true, if_neg Bool.false_ne_true, List.countP_append]
      cases hcounts : CallEvent.counts (Run.event perform h c) with
      | true =>
        rw [if_pos rfl, List.countP_singleton, hcounts]
        exact (Function.iterate_succ_apply' _ _ _).symm
      | false =>
        rw [if_neg Bool.false_ne_true, List.countP_singleton, hcounts]
        rfl
  exact hrun.2

/-- An I-Block that was not taken in before is taken in when it is acknowledged. -/
theorem Received.takenIn {h k : ProtocolHandler} {b reply : Block}
    (hr : Received h b (.ok (.reply reply), k)) (ht : b.blockType = .iBlock)
    (hnew : h.repeatsLastIblock b = false) : k.chain = h.chain ++ b.payload := by
  cases hr with
  | chained => rfl
  | repeated _ _ hr _ => rw [hnew] at hr; cases hr
  | presence _ ht' _ => rw [ht] at ht'; cases ht'
  | wtx _ ht' _ _ _ _ => rw [ht] at ht'; cases ht'
  | deselect _ ht' _ => rw [ht] at ht'; cases ht'

/-- **A failed call is clean, and the number is toggled by the calls that count and no other.** -/
theorem received_clean :
    (∀ h b e, (receive h b).1 = .err e →
      Untouched h (receive h b).2 ∧ ∀ limit, e = .limitExceeded limit → (receive h b).2.chain = []) ∧
    (∀ role cid limits calls, (Run.after perform (withLimits role cid limits) calls).blockNumber =
      toggled role.initialBlockNumber
        ((sinceReset (Run.trace perform (withLimits role cid limits) calls)).countP
          CallEvent.counts)) ∧
    (∀ h c, CallEvent.Numbered (Run.event perform h c)) ∧
    ∀ h b reply, (receive h b).1 = .ok (.reply reply) → b.blockType = .iBlock →
      h.repeatsLastIblock b = false → (receive h b).2.chain = h.chain ++ b.payload := by
  have hrec : ∀ {h b r}, (receive h b).1 = r → Received h b (r, (receive h b).2) := by
    rintro h b _ rfl
    exact processReceived_received h b
  refine ⟨?_, number_sinceLast, perform_numbered, ?_⟩
  · intro h b e he
    exact (hrec he).untouched
  · intro h b reply hreply ht hnew
    exact (hrec hreply).takenIn ht hnew

end Runs

/-- A card whose chain is too long for its limits, and one that is asked to go on. -/
theorem received_clean_tooLong : let : Build := Build.heapless
    let h := { withLimits .picc none { Limits.default with maxChainLen := 4 } with chain := [1, 2, 3] }
    Untouched h (receive h (iblock 0 [4, 5] true)).2 ∧
      (receive h (iblock 0 [4, 5] true)).2.chain = [] ∧
      (receive h (iblock 0 [4] true)).2.chain = [1, 2, 3, 4] := by
  intro _ h
  have hclean := received_clean.1 h (iblock 0 [4, 5] true) _ rfl
  exact ⟨hclean.1, hclean.2 _ rfl, received_clean.2.2.2 h (iblock 0 [4] true) _ rfl rfl rfl⟩

end ProtocolHandler

end Iso14443
