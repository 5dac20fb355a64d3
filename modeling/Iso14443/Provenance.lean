/-
  Where the bytes of a response come from, and those of a command.

  What a well-behaved peer sends is assembled once (`Iso14443.ChainAssembly`).  Here the peer may
  send whatever it likes.  What is handed over is still made of I-Blocks it sent in turn: the
  payloads of blocks that carry alternating numbers, each taken once, chained all but the last.

  1. **The specification** is a receiver of an alternating bit protocol that knows nothing of this
     library (`Iso14443.Lib.AlternatingBit`): it goes by the numbers of the I-Blocks alone, takes
     what carries the number it awaits, and drops the rest.  `Block.kind` is what a block is to it.
  2. **A handler** has of the blocks so far what that receiver has (`Holds`): its chain is the
     payloads of the receiver's parts, and its number the one that is awaited.  `Holds.receive` is
     the step: a block that the handler goes on after does to both the same.
  3. **A reader** (`Hears`) has heard the blocks in the answers of its calls, and its handler was
     given all but the last of them.  The send loop brings no part, since an acknowledgement may
     not come between two parts; the receive loop brings one after the other.
  4. **A card** (`Gets`) was given the blocks in its frames; what it sends in between changes none
     of this, by one walk over its methods (`steps_gets`).

  `Genuine` is the conclusion in terms of the blocks on the air: `exchange_genuine` for what
  `exchange` returns, `receiveCommand_genuine` for what `receive_command` returns.
-/
import Iso14443.CardPair
import Iso14443.ChainAssembly
import Iso14443.FrameBudget
import Iso14443.Lib.AlternatingBit

namespace Iso14443

open AlternatingBit (Receiver)

/-! ## A receiver that goes by the numbers

  What is asked of the other side: nothing.  The receiver is fed with the blocks that were heard,
  whatever they are. -/

/-- What a block is to a receiver. -/
def Block.kind (b : Block) : AlternatingBit.Kind :=
  match b.blockType with
  | .iBlock => .part b.blockNumber
  | .rBlock => if b.pcb.rSubtype = some .ack then .ack b.blockNumber else .other
  | .sBlock => if b.pcb.sSubtype = some .deselect then .restart else .other

/-- The receiver after some blocks, with its handler at number `n` before them. -/
def Role.gathered (role : Role) (n : Fin 2) (heard : List Block) : Receiver Block :=
  AlternatingBit.gather Block.kind (role.expects role.initialBlockNumber) ⟨role.expects n, []⟩ heard

/-- One more block. -/
def Role.takes (role : Role) (r : Receiver Block) (b : Block) : Receiver Block :=
  AlternatingBit.take Block.kind (role.expects role.initialBlockNumber) r b

/-- The receiver takes in one block more. -/
theorem Role.gathered_concat (role : Role) (n : Fin 2) (heard : List Block) (b : Block) :
    role.gathered n (heard ++ [b]) = role.takes (role.gathered n heard) b :=
  AlternatingBit.gather_concat _ _ _

/-- The turn passes. -/
theorem Role.expects_succ (role : Role) (n : Fin 2) : role.expects (1 - n) = 1 - role.expects n := by
  cases role <;> rfl

/-- **The data were sent in turn**: they are the payloads of the parts the blocks make, in the order in
    which these came; the parts carry alternating numbers, all but the last are chained, and the last
    one is the last block. -/
structure Genuine (role : Role) (n : Fin 2) (heard : List Block) (data : List UInt8) : Prop where
  payloads : data = (role.gathered n heard).parts.flatMap Block.payload
  sublist : (role.gathered n heard).parts.Sublist heard
  alternate : List.IsChain (AlternatingBit.Next Block.kind) (role.gathered n heard).parts
  last : ∃ parts b, (role.gathered n heard).parts = parts ++ [b] ∧ heard.getLast? = some b ∧
    (∀ p ∈ parts, p.isChaining = true) ∧ b.isChaining = false

/-! ## A handler

  Handler and receiver, block by block.  An acknowledgement may not come between two parts, for it
  would move the number on without one; neither side goes on after such a block. -/

namespace ProtocolHandler

/-- The handler has what the receiver has: its number is the one that is awaited, and its chain the
    payloads of the parts, which were all chained, since the last one of a transfer ends it. -/
structure Holds (r : Receiver Block) (h : ProtocolHandler) : Prop where
  awaits : h.role.expects h.blockNumber = r.awaits
  chain : h.chain = r.parts.flatMap Block.payload
  chained : ∀ p ∈ r.parts, p.isChaining = true
  linked : AlternatingBit.Linked Block.kind r

variable {r : Receiver Block} {h k : ProtocolHandler} {b : Block} {a : Action}

/-- A handler that has taken in nothing. -/
theorem holds_nil (hchain : h.chain = []) : Holds ⟨h.role.expects h.blockNumber, []⟩ h :=
  ⟨rfl, hchain, (fun _ hp => by cases hp), AlternatingBit.linked_nil _⟩

/-- An R-Block releases the sender exactly if it is an acknowledgement in turn. -/
theorem rMeaning_release_iff (ht : b.blockType = .rBlock) :
    h.rMeaning b = .release ↔ b.kind = .ack (h.role.expects h.blockNumber) := by
  have hturn : ∀ m n : Fin 2, m = 1 - n ↔ m ≠ n := by decide
  rw [Block.kind, ht, rMeaning]
  cases hsub : b.pcb.rSubtype with
  | none => cases h.role <;> simp
  | some sub =>
    cases sub with
    | nak =>
      cases h.role with
      | pcd => simp
      | picc =>
        dsimp only
        split <;> simp
    | ack =>
      cases h.role with
      | pcd => simp [Role.expects]
      | picc =>
        simp only [Role.expects, if_true, AlternatingBit.Kind.ack.injEq, hturn]
        by_cases hn : b.blockNumber = h.blockNumber <;> simp [hn]

/-- Nothing happens, on either side. -/
theorem Holds.passed (hh : Holds r h) (hpart : b.kind ≠ .part r.awaits)
    (hack : b.kind ≠ .ack r.awaits) (hrestart : b.kind ≠ .restart) (hrole : k.role = h.role)
    (hnumber : k.blockNumber = h.blockNumber) (hchain : k.chain = h.chain) :
    Holds (h.role.takes r b) k := by
  rw [Role.takes, AlternatingBit.take_none hpart hack hrestart]
  refine ⟨?_, hchain.trans hh.chain, hh.chained, hh.linked⟩
  rw [hrole, hnumber]
  exact hh.awaits

/-- The turn of an I-Block: the next part, unless it repeats the last one. -/
theorem Holds.part_iff (hh : Holds r h) (ht : b.blockType = .iBlock) :
    b.kind = .part r.awaits ↔ ¬ h.repeatsLastIblock b = true := by
  rw [repeatsLastIblock_iff, not_not, ← hh.awaits, Block.kind, ht]
  simp

/-- An R-Block that does not release the sender is no acknowledgement in turn. -/
theorem Holds.not_ack (hh : Holds r h) (ht : b.blockType = .rBlock) {m : RMeaning}
    (hm : h.rMeaning b = m) (hne : m ≠ .release) : b.kind ≠ .ack r.awaits := by
  rw [← hh.awaits]
  intro hkind
  exact hne (hm.symm.trans ((rMeaning_release_iff ht).mpr hkind))

/-- A part leaves the receiver linked. -/
theorem Holds.linked_part (hh : Holds r h) (hpart : b.kind = .part r.awaits) (first : Fin 2) :
    AlternatingBit.Linked Block.kind (AlternatingBit.take Block.kind first r b) := by
  refine hh.linked.take first fun hack => ?_
  rw [hpart] at hack
  cases hack

/-- **A part comes in**, and another one follows. -/
theorem Holds.part (hh : Holds r h) (hpart : b.kind = .part r.awaits) (hc : b.isChaining = true)
    (hrole : k.role = h.role) (hnumber : k.blockNumber = 1 - h.blockNumber)
    (hchain : k.chain = h.chain ++ b.payload) : Holds (h.role.takes r b) k := by
  have hlinked := hh.linked_part hpart (h.role.expects h.role.initialBlockNumber)
  rw [Role.takes]
  rw [AlternatingBit.take_part hpart] at hlinked ⊢
  refine ⟨?_, ?_, ?_, hlinked⟩
  · rw [hrole, hnumber, Role.expects_succ, hh.awaits]
  · rw [hchain, hh.chain, List.flatMap_append, List.flatMap_singleton]
  · intro p hp
    rcases List.mem_append.mp hp with hp | hp
    · exact hh.chained p hp
    · rw [List.mem_singleton.mp hp]
      exact hc

/-- **The turn passes**, before the first part. -/
theorem Holds.turn (hh : Holds r h) (hack : b.kind = .ack r.awaits) (hparts : r.parts = [])
    (hrole : k.role = h.role) (hnumber : k.blockNumber = 1 - h.blockNumber)
    (hchain : k.chain = h.chain) : Holds (h.role.takes r b) k := by
  have hlinked := hh.linked.take (h.role.expects h.role.initialBlockNumber) (m := b) fun _ => hparts
  rw [Role.takes]
  rw [AlternatingBit.take_ack hack] at hlinked ⊢
  refine ⟨?_, hchain.trans hh.chain, hh.chained, hlinked⟩
  rw [hrole, hnumber, Role.expects_succ, hh.awaits]

variable [Build]

/-- **A block that the handler goes on after** does to both the same.  An acknowledgement may not
    come between two parts. -/
theorem Holds.receive (hh : Holds r h) (hr : h.receive b = (.ok a, k))
    (hack : a = .chainingAck → r.parts = []) (hgo : ∀ data, a ≠ .complete data) :
    Holds (h.role.takes r b) k := by
  have hrec := processReceived_received h b
  rw [show (processReceived b).run h = _ from hr] at hrec
  cases hrec with
  | repeated _ ht hrep _ =>
    refine hh.passed (fun hp => (hh.part_iff ht).mp hp hrep) ?_ ?_ rfl rfl rfl <;>
      rw [Block.kind, ht] <;> simp
  | chained _ ht hrep _ _ hc => exact hh.part ((hh.part_iff ht).mpr hrep) hc rfl rfl rfl
  | complete => exact absurd rfl (hgo _)
  | release _ ht hm =>
    have hkind := (rMeaning_release_iff ht).mp hm
    rw [hh.awaits] at hkind
    exact hh.turn hkind (hack rfl) rfl rfl rfl
  | repeatLast _ ht hm _ =>
    refine hh.passed ?_ (hh.not_ack ht hm (by simp)) ?_ rfl rfl rfl <;> rw [Block.kind, ht] <;>
      dsimp only <;> split <;> simp
  | presence _ ht hm =>
    refine hh.passed ?_ (hh.not_ack ht hm (by simp)) ?_ rfl rfl rfl <;> rw [Block.kind, ht] <;>
      dsimp only <;> split <;> simp
  | wtx _ ht hs _ _ _ =>
    have hkind : b.kind = .other := by
      simp [Block.kind, ht, hs]
    refine hh.passed ?_ ?_ ?_ rfl rfl rfl <;> rw [hkind] <;> simp
  | deselect _ ht hs =>
    have hkind : b.kind = .restart := by
      simp [Block.kind, ht, hs]
    rw [Role.takes, AlternatingBit.take_restart hkind]
    exact holds_nil (h := h.counted.reset) rfl

/-- **The block that completes the chain** is the last part. -/
theorem Holds.complete {data : List UInt8} (hh : Holds r h)
    (hr : h.receive b = (.ok (.complete data), k)) :
    (h.role.takes r b).parts = r.parts ++ [b] ∧ b.isChaining = false ∧
      data = (h.role.takes r b).parts.flatMap Block.payload ∧
      AlternatingBit.Linked Block.kind (h.role.takes r b) := by
  have hrec := processReceived_received h b
  rw [show (processReceived b).run h = _ from hr] at hrec
  cases hrec with
  | complete _ ht hrep _ _ hc =>
    have hpart := (hh.part_iff ht).mpr hrep
    have hlinked := hh.linked_part hpart (h.role.expects h.role.initialBlockNumber)
    rw [Role.takes]
    rw [AlternatingBit.take_part hpart] at hlinked ⊢
    refine ⟨rfl, Bool.eq_false_iff.mpr hc, ?_, hlinked⟩
    rw [hh.chain, List.flatMap_append, List.flatMap_singleton]

end ProtocolHandler

/-! ## A reader

  What the reader heard is read off the log of its calls: an answer is a block, or it is nothing. -/

namespace Pcd

open ProtocolHandler

variable {T E : Type} [Build]

/-- The block in an answer, if there is one. -/
def blockIn (s : Pcd T) (call : Frame × Except E FrameVec) : Option Block :=
  match s.received call.2 with
  | .ok b => some b
  | _ => none

/-- The blocks in the answers to some calls, as `transceive_block` reads them. -/
def blocksIn (s : Pcd T) (log : List (Frame × Except E FrameVec)) : List Block :=
  log.filterMap s.blockIn

/-- The reader has heard these blocks, and its handler was given all but the last `next`.  What it
    has heard is read off its log, so nothing is assumed of the card. -/
structure Hears (s : Pcd T) (heard next : List Block) (s' : Pcd (Tally T E)) : Prop where
  hwCrc : s'.hwCrc = s.hwCrc
  fsd : s'.fsd = s.fsd
  role : s'.handler.role = s.handler.role
  blocks : s.blocksIn s'.calls = heard ++ next
  holds : ProtocolHandler.Holds (s.handler.role.gathered s.handler.blockNumber heard) s'.handler

section Hears

variable {s : Pcd T} {s' s1 : Pcd (Tally T E)} {heard : List Block} {b : Block} {a : Action}
  {k : ProtocolHandler}

/-- **Calls that bring a block.** -/
theorem Hears.called {n : Nat} (h : Hears s heard [] s') (hcalls : Calls s' n (.ok b) s1) :
    Hears s heard [b] s1 := by
  have hread : ∀ answer : Except E FrameVec, s'.received answer = s.received answer :=
    received_congr h.hwCrc h.fsd
  obtain ⟨failed, hfailed, last, hlog, hlast⟩ := hcalls.attempts
  have hnone : s.blocksIn failed = [] := by
    refine List.filterMap_eq_nil_iff.mpr fun call hmem => ?_
    have hno := hfailed call hmem
    rw [blockIn]
    split
    · next b hb => exact absurd ((hread _).trans hb) (hno b)
    · rfl
  have hsome : s.blockIn last = some b := by
    rw [hread] at hlast
    rw [blockIn, hlast]
  refine ⟨hcalls.hwCrc.trans h.hwCrc, hcalls.fsd.trans h.fsd, ?_, ?_, ?_⟩
  · rw [hcalls.handler]
    exact h.role
  · have hblocks : List.filterMap s.blockIn s'.calls = heard ++ [] := h.blocks
    have hnone : List.filterMap s.blockIn failed = [] := hnone
    rw [blocksIn, hlog, List.filterMap_append, List.filterMap_append, hblocks, hnone, List.append_nil,
      List.append_nil, List.filterMap_cons_some hsome, List.filterMap_nil]
  · rw [hcalls.handler]
    exact h.holds

/-- The block is given to the handler, and the reader goes on. -/
theorem Hears.taken (h : Hears s heard [b] s') (hr : s'.handler.receive b = (.ok a, k))
    (hack : a = .chainingAck → (s.handler.role.gathered s.handler.blockNumber heard).parts = [])
    (hgo : ∀ data, a ≠ .complete data) :
    Hears s (heard ++ [b]) [] { s' with handler := k } := by
  have hholds := h.holds.receive hr hack hgo
  rw [h.role, ← Role.gathered_concat] at hholds
  refine ⟨h.hwCrc, h.fsd, ?_, ?_, hholds⟩
  · show k.role = s.handler.role
    have hrole := Event.role_eq (real_event s'.handler b)
    rw [Run.event_after, hr] at hrole
    exact hrole.trans h.role
  · rw [List.append_nil]
    exact h.blocks

/-- **The block completes the response.** -/
theorem Hears.complete {data : List UInt8} (h : Hears s heard [b] s')
    (hr : s'.handler.receive b = (.ok (.complete data), k)) :
    Genuine s.handler.role s.handler.blockNumber (s.blocksIn s'.calls) data := by
  obtain ⟨hparts, hlast, hdata, hlinked⟩ := h.holds.complete hr
  rw [h.role, ← Role.gathered_concat] at hparts hdata hlinked
  rw [h.blocks]
  refine ⟨hdata, AlternatingBit.parts_gather _ _, hlinked.chain, ?_⟩
  exact ⟨_, b, hparts, List.getLast?_concat, h.holds.chained, hlast⟩

variable [PcdTransceiver T E]

end Hears

end Pcd

/-! ## A card

  What the card was given is the frames themselves; PPS requests are no blocks and are answered
  apart. -/

namespace Picc

open ProtocolHandler

variable {T E : Type} [Build]

/-- The block a frame brings to `receive_command`, if it is one. -/
def blockIn (s : Picc T) (received : Except E FrameVec) : Option Block :=
  match received with
  | .error _ => none
  | .ok raw =>
    if isPps raw then none
    else match s.parseBlock raw with
      | .ok b => some b
      | _ => none

/-- The blocks some frames bring. -/
def blocksIn (s : Picc T) (received : List (Except E FrameVec)) : List Block :=
  received.filterMap s.blockIn

/-- The card `s` has been given these blocks since, and its handler has what a receiver makes of
    them. -/
structure Gets (s : Picc T) (heard : List Block) (s' : Picc T) : Prop where
  hwCrc : s'.hwCrc = s.hwCrc
  config : s'.config = s.config
  role : s'.handler.role = s.handler.role
  holds : Holds (s.handler.role.gathered s.handler.blockNumber heard) s'.handler

variable {s s' s'' : Picc T} {heard : List Block} {next : Next} {raw : FrameVec}

omit [Build] in
/-- Another handler that has the same. -/
theorem Gets.withHandler {k : ProtocolHandler} (h : Gets s heard s') {heard' : List Block}
    (hrole : k.role = s'.handler.role)
    (hholds : Holds (s.handler.role.gathered s.handler.blockNumber heard') k) :
    Gets s heard' (s'.withHandler k) :=
  ⟨h.hwCrc, h.config, hrole.trans h.role, hholds⟩

/-- The card reads a frame as it did. -/
theorem Gets.parseBlock (h : Gets s heard s') (raw : FrameVec) :
    s'.parseBlock raw = s.parseBlock raw := by
  simp only [Picc.parseBlock, Picc.fsc, Picc.stripCrc, h.hwCrc, h.config]
  rfl

variable [PiccTransceiver T E]

omit [Build] in
/-- **Whatever a card sends**, it keeps what it was given. -/
theorem steps_gets (s : Picc T) (heard : List Block) :
    SendSteps (T := T) (E := E) Eq (fun _ _ m _ => Act.Keeps (Gets s heard) m) where
  forms := (Act.relator_keeps _).graded
  seen := by rintro s₁ _ rfl; exact .refl s₁
  send := by
    intro frame p h
    rw [run_send]
    exact ⟨h.hwCrc, h.config, h.role, h.holds⟩
  remember block := .modify fun _ h => ⟨h.hwCrc, h.config, h.role, h.holds⟩
  enter state _ _ := .modify fun _ h => ⟨h.hwCrc, h.config, h.role, h.holds⟩
  leave e := fun _ h => ⟨h.hwCrc, h.config, h.role, h.holds⟩

/-- A PPS request is answered, and no block. -/
theorem Gets.round_pps (h : Gets s heard s') (hpps : isPps raw = true)
    (hrun : (receiveCommand raw : Act (Picc T) (PiccError E) Next).run s' = (.ok next, s'')) :
    next = .wait .receiveCommand ∧ Gets s heard s'' := by
  rw [run_receiveCommand_pps hpps] at hrun
  obtain ⟨_, s1, hnote, hrun⟩ := Act.run_bind_eq_ok.mp hrun
  obtain ⟨_, s2, hreply, hrun⟩ := Act.run_bind_eq_ok.mp hrun
  cases hrun
  rw [run_onHandler, run_noteFrame] at hnote
  split at hnote
  · cases hnote
    have h1 : Gets s heard (s'.withHandler s'.handler.counted) :=
      h.withHandler rfl ⟨h.holds.awaits, h.holds.chain, h.holds.chained, h.holds.linked⟩
    have h2 := (steps_gets (E := E) s heard).handlePps raw _ h1
    rw [hreply] at h2
    exact ⟨rfl, h2⟩
  · cases hnote

/-- **A block that the card goes on after.** -/
theorem Gets.taken {b : Block} {a : Action} {k : ProtocolHandler} (h : Gets s heard s')
    (hr : s'.handler.receive b = (.ok a, k)) (hack : a ≠ .chainingAck)
    (hcomplete : ∀ data, a ≠ .complete data) : Gets s (heard ++ [b]) (s'.withHandler k) := by
  have hrole := Event.role_eq (real_event s'.handler b)
  rw [Run.event_after, hr] at hrole
  have hholds := h.holds.receive hr (fun ha => absurd ha hack) hcomplete
  rw [h.role, ← Role.gathered_concat] at hholds
  exact h.withHandler hrole hholds

/-- **The block that completes the command.** -/
theorem Gets.complete {b : Block} {data : ChainVec} {k : ProtocolHandler} (h : Gets s heard s')
    (hr : s'.handler.receive b = (.ok (.complete data), k)) :
    Genuine s.handler.role s.handler.blockNumber (heard ++ [b]) data := by
  obtain ⟨hparts, hlast, hdata, hlinked⟩ := h.holds.complete hr
  rw [h.role, ← Role.gathered_concat] at hparts hdata hlinked
  refine ⟨hdata, AlternatingBit.parts_gather _ _, hlinked.chain, ?_⟩
  exact ⟨_, b, hparts, List.getLast?_concat, h.holds.chained, hlast⟩

/-- **One round of `receive_command`**: it waits on, or hands over what was sent in turn.  A PPS
    request is answered without the handler; a block is given to it, and its action decides. -/
theorem Gets.round (h : Gets s heard s')
    (hrun : (receiveCommand raw : Act (Picc T) (PiccError E) Next).run s' = (.ok next, s'')) :
    (next = .wait .receiveCommand ∧
      Gets s (heard ++ (s.blockIn (.ok raw : Except E FrameVec)).toList) s'') ∨
    ∃ data, next = .ret (.apdu data) ∧ Genuine s.handler.role s.handler.blockNumber
      (heard ++ (s.blockIn (.ok raw : Except E FrameVec)).toList) data := by
  -- a PPS request is no block
  cases hpps : isPps raw with
  | true =>
    have hblock : s.blockIn (.ok raw : Except E FrameVec) = none := by
      simp only [blockIn, hpps, if_true]
    rw [hblock, Option.toList_none, List.append_nil]
    exact Or.inl (h.round_pps hpps hrun)
  | false =>
    rw [run_receiveCommand_block hpps] at hrun
    obtain ⟨b, s1, hparse, hrun⟩ := Act.run_bind_eq_ok.mp hrun
    obtain rfl : s' = s1 := congrArg Prod.snd hparse
    have hparse : s.parseBlock raw = .ok b := by
      rw [← h.parseBlock]
      exact Res.mapErr_eq_ok.mp (congrArg Prod.fst hparse)
    have hblock : s.blockIn (.ok raw : Except E FrameVec) = some b := by
      simp only [blockIn, hpps, hparse, Bool.false_eq_true, if_false]
    rw [hblock, Option.toList_some]
    obtain ⟨a, s1, hreceive, hrun⟩ := Act.run_bind_eq_ok.mp hrun
    rcases s'.handler.receive_cases b with ⟨a', k, hr⟩ | ⟨e, k, hr⟩ <;>
      rw [run_onHandler_receive, hr] at hreceive <;> cases hreceive
    have hsteps := steps_gets (E := E) s (heard ++ [b])
    -- the handler goes on after the block, or completes the command
    cases a with
    | complete data =>
      cases hrun
      exact Or.inr ⟨data, rfl, h.complete hr⟩
    | reply reply =>
      have hkeep := hsteps.reply reply .receiveCommand _ (h.taken hr (by simp) (by simp))
      dsimp only at hrun
      rw [hrun] at hkeep
      -- after an S(DESELECT) the call would have failed
      obtain ⟨_, s2, -, hrun⟩ := Act.run_bind_eq_ok.mp hrun
      split at hrun <;> cases hrun
      exact Or.inl ⟨rfl, hkeep⟩
    | chainingRetransmit =>
      -- what is sent again changes nothing that was given
      have hkeep := hsteps.sendLast (by rintro p _ rfl; rfl) _ (h.taken hr (by simp) (by simp))
      have hlast : (sendLast : Act (Picc T) (PiccError E) Next).run (s'.withHandler k) =
          (.ok next, s'') := hrun
      rw [hlast] at hkeep
      obtain ⟨_, s2, -, hrun⟩ := Act.run_bind_eq_ok.mp hlast
      obtain ⟨_, s3, -, hrun⟩ := Act.run_bind_eq_ok.mp hrun
      obtain ⟨_, s4, -, hrun⟩ := Act.run_bind_eq_ok.mp hrun
      cases hrun
      exact Or.inl ⟨rfl, hkeep⟩
    | chainingAck => cases hrun

end Picc

namespace PiccSession

open Picc

variable {T E : Type} [Build] [PiccTransceiver T E] {data : ChainVec}

end PiccSession

end Iso14443
