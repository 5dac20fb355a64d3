/-
  Which card a block is for (`Block::from_crc_verified`, `ProtocolHandler::process_received`).

  A block may carry the CID of the card it is for, and a card that took a CID sends it with every
  block of its own.  But it never looks at the CID of a block it receives: what is addressed to
  another card is acted on like everything else.  No code compares the two, so the strongest true
  statement is about two runs: exchange the CIDs in the blocks a card receives for any others, and
  nothing changes.

  * `SameBlock` — two frames that carry one block, each with a CID of its own.
  * A block is received in three places.  The handler does not look at the CID
    (`processReceived_withCid`), and neither does what the card does around it
    (`run_resume_same`).  Where no block is expected, in `wait_for_activation` and `wait_for_rats`,
    both frames are `Alien`: their first byte is none of the commands, so both are ignored.
  * The CRC mode decides how a frame is read, so the two runs must keep it.  They do, since no
    method changes it (`KeepsMode`, a walk over `Iso14443.CardPair`).
  * `trace_readdressed` is the run: the same results, the same frames sent, the same card.
  * `PassesOver` is what a card would do that looks at the CID, and `not_passesOver` a card with
    CID 5 that takes a command for card 7 and is halted by a DESELECT for it.
-/
import Iso14443.BlockCodec
import Iso14443.CardPair
import Iso14443.Halt
import Iso14443.Sessions

namespace Iso14443

/-! ## The same block, for two cards -/

/-- Two frames that carry the same block but for the CID. -/
def SameBlock [Build] (hwCrc : Bool) (raw raw' : FrameVec) : Prop :=
  ∃ (b : Block) (c d : Cid), Block.readBlock hwCrc raw = .ok (b.withCid c) ∧
    Block.readBlock hwCrc raw' = .ok (b.withCid d)

/-- No control byte is the first byte of another frame of the card. -/
theorem Pcb.tryFrom_foreign {byte : UInt8} {pcb : Pcb} (h : Pcb.tryFrom byte = .ok pcb) :
    byte &&& 0xF0 ≠ 0xD0 ∧ byte ≠ 0xe0 ∧ byte ≠ 0x50 ∧ byte ≠ selCl1 ∧ byte ≠ selCl2 ∧
      byte ≠ selCl3 := by
  have hall : ∀ byte : UInt8, (Pcb.tryFrom byte).isOk = true → byte &&& 0xF0 ≠ 0xD0 ∧ byte ≠ 0xe0 ∧
      byte ≠ 0x50 ∧ byte ≠ selCl1 ∧ byte ≠ selCl2 ∧ byte ≠ selCl3 :=
    Byte.forall_of_fin (by decide +kernel)
  exact hall byte (by rw [h]; rfl)

namespace Block

/-- What is read as a block starts with its control byte, and is as long as the block. -/
theorem fromCrcVerified_shape [Build] {data : List UInt8} {b : Block}
    (h : fromCrcVerified data = .ok b) :
    ∃ first tail, data = first :: tail ∧ Pcb.tryFrom first = .ok b.pcb ∧
      data.length = b.bytes.length := by
  have hlength := length_clearCid data
  rw [← bytes_fromCrcVerified h] at hlength
  obtain ⟨first, cidByte, rfl, hpcb, -⟩ := fromCrcVerified_eq_ok h
  exact ⟨first, _, rfl, hpcb, hlength.symm⟩

/-- The same of a frame, its CRC_A included. -/
theorem readBlock_shape [Build] {hwCrc : Bool} {raw : FrameVec} {b : Block}
    (h : readBlock hwCrc raw = .ok b) :
    ∃ first tail, raw = first :: tail ∧ Pcb.tryFrom first = .ok b.pcb ∧
      raw.length = b.bytes.length + if hwCrc then 0 else 2 := by
  cases hwCrc with
  | true => exact fromCrcVerified_shape h
  | false =>
    obtain ⟨body, hbody, h⟩ := Res.bind_eq_ok.mp (show tryFrom raw = .ok b from h)
    obtain ⟨first, tail, rfl, hpcb, hlen⟩ := fromCrcVerified_shape h
    obtain rfl := splitCrcA_eq_ok.mp hbody
    refine ⟨first, tail ++ _, rfl, hpcb, ?_⟩
    rw [length_withCrc, hlen]
    rfl

/-- A frame with a block that carries a CID, as far as a card that waits for no block sees it: two
    bytes at least, the first of which begins no command of the activation.  Such a frame is passed
    over, whatever CID it has. -/
structure Alien (raw : FrameVec) : Prop where
  long : 2 ≤ raw.length
  first : ∀ first tail, raw = first :: tail → first &&& 0xF0 ≠ 0xD0 ∧ first ≠ 0xe0 ∧ first ≠ 0x50 ∧
    first ≠ selCl1 ∧ first ≠ selCl2 ∧ first ≠ selCl3

/-- A block with a CID is alien to a card that waits for no block: none of its first bytes is a
    command. -/
theorem alien [Build] {hwCrc : Bool} {raw : FrameVec} {b : Block} {c : Cid}
    (h : readBlock hwCrc raw = .ok (b.withCid c)) : Alien raw := by
  obtain ⟨first, tail, rfl, hpcb, hlen⟩ := readBlock_shape h
  rw [length_bytes] at hlen
  simp only [withCid, Option.isSome_some, if_true] at hlen
  refine ⟨by omega, fun first' tail' heq => ?_⟩
  cases heq
  exact Pcb.tryFrom_foreign hpcb

end Block

/-! ## What a card makes of it

  A frame finds a card in one of four calls.  Two of them wait for no block, and ignore one because
  of its first byte; the other two read it, and hand it to the handler without a look at its CID. -/

namespace Picc

variable {T E : Type} {s : Picc T} {raw raw' : FrameVec}

section Alien

variable [Build] [PiccTransceiver T E]

/-- A block is passed over by a card that is being selected. -/
theorem run_handleReady_alien (h : Block.Alien raw) (level : Nat) :
    (handleReady raw level : Act (Picc T) (PiccError E) Unit).run s =
      (match expectedSel level with | some _ => .ok () | none => .err (.protocol .other), s) := by
  obtain ⟨first, tail, rfl⟩ := List.exists_cons_of_length_pos (Nat.lt_of_lt_of_le Nat.zero_lt_two h.long)
  obtain ⟨-, -, -, h1, h2, h3⟩ := h.first first tail rfl
  rw [handleReady, if_neg (Nat.not_lt.mpr h.long), Act.run_bind, run_lift]
  simp only [Res.index_zero_cons, Res.mapErr_ok]
  rw [Act.run_bind, run_lift]
  rcases level with _ | _ | _ | n
  · simp [expectedSel, h1]
  · simp [expectedSel, h2]
  · simp [expectedSel, h3]
  · rfl

/-- A card that is being activated does the same on any two alien frames. -/
theorem run_waitForActivation_alien (h : Block.Alien raw) (h' : Block.Alien raw') :
    (waitForActivation raw : Act (Picc T) (PiccError E) Next).run s =
      (waitForActivation raw').run s := by
  have hshort : ∀ {raw : FrameVec}, Block.Alien raw → ∀ b : UInt8, raw ≠ [b] := by
    rintro raw h b rfl
    exact absurd h.long (by simp)
  rw [run_waitForActivation, run_waitForActivation]
  cases s.state with
  | idle => simp [handleIdle, hshort h, hshort h']
  | ready level => simp only [Act.run_bind, run_handleReady_alien h, run_handleReady_alien h']
  | active => rfl
  | protocol => rfl
  | halted => simp [hshort h, hshort h']

/-- And by one that waits for RATS. -/
theorem run_handleActive_alien (h : Block.Alien raw) :
    (handleActive raw : Act (Picc T) (PiccError E) Unit).run s = (.ok (), s) := by
  obtain ⟨first, tail, rfl⟩ := List.exists_cons_of_length_pos (Nat.lt_of_lt_of_le Nat.zero_lt_two h.long)
  obtain ⟨-, h1, h2, -⟩ := h.first first tail rfl
  rw [handleActive, if_neg (by simp), Act.run_get_bind, Act.run_bind, run_lift]
  simp [h1, h2]

end Alien

section Blocks

variable [Build]

/-- The card reads a block after it has compared the frame with its own frame size. -/
theorem parseBlock_eq (s : Picc T) (raw : FrameVec) : s.parseBlock raw =
    if (if s.hwCrc then raw.length + 2 else raw.length) > s.fsc then .err (.limitExceeded .frameSize)
    else Block.readBlock s.hwCrc raw := by
  unfold parseBlock stripCrc Block.readBlock
  split
  · rfl
  · cases s.hwCrc <;> rfl

/-- Both frames are too long, or both are read. -/
theorem parseBlock_same (h : SameBlock s.hwCrc raw raw') :
    (∃ e, s.parseBlock raw = .err e ∧ s.parseBlock raw' = .err e) ∨
      ∃ (b : Block) (c d : Cid), s.parseBlock raw = .ok (b.withCid c) ∧
        s.parseBlock raw' = .ok (b.withCid d) := by
  obtain ⟨b, c, d, hread, hread'⟩ := h
  obtain ⟨-, -, -, -, hlen⟩ := Block.readBlock_shape hread
  obtain ⟨-, -, -, -, hlen'⟩ := Block.readBlock_shape hread'
  have hsame : raw.length = raw'.length := by
    rw [hlen, hlen', Block.length_bytes, Block.length_bytes]
    rfl
  rw [parseBlock_eq, parseBlock_eq, hread, hread', hsame]
  by_cases hlong : (if s.hwCrc then raw'.length + 2 else raw'.length) > s.fsc
  · rw [if_pos hlong, if_pos hlong]
    exact Or.inl ⟨_, rfl, rfl⟩
  · rw [if_neg hlong, if_neg hlong]
    exact Or.inr ⟨b, c, d, rfl, rfl⟩

/-- **The handler does not look at the CID.** -/
theorem processReceived_withCid (b : Block) (c d : Cid) :
    ProtocolHandler.processReceived (b.withCid c) = ProtocolHandler.processReceived (b.withCid d) :=
  rfl

variable [PiccTransceiver T E]

/-- `receive_command` does the same on two frames with the same block. -/
theorem run_receiveCommand_same (h : SameBlock s.hwCrc raw raw') :
    (receiveCommand raw : Act (Picc T) (PiccError E) Next).run s = (receiveCommand raw').run s := by
  have hpps : isPps raw = false ∧ isPps raw' = false := by
    obtain ⟨b, c, d, hread, hread'⟩ := h
    obtain ⟨first, tail, rfl, hpcb, -⟩ := Block.readBlock_shape hread
    obtain ⟨first', tail', rfl, hpcb', -⟩ := Block.readBlock_shape hread'
    exact ⟨decide_eq_false (Pcb.tryFrom_foreign hpcb).1,
      decide_eq_false (Pcb.tryFrom_foreign hpcb').1⟩
  rw [run_receiveCommand_block hpps.1, run_receiveCommand_block hpps.2]
  rcases parseBlock_same h with ⟨e, hb, hb'⟩ | ⟨b, c, d, hb, hb'⟩
  · rw [Act.run_bind, Act.run_bind, run_lift, run_lift, hb, hb']
  · rw [Act.run_bind, Act.run_bind, run_lift, run_lift, hb, hb']
    simp only [Res.mapErr_ok, processReceived_withCid b c d]

/-- So does `send_response`. -/
theorem run_sendResponse_same (h : SameBlock s.hwCrc raw raw') (data : List UInt8)
    (maxInf stop : Nat) (iblock : Block) :
    (sendResponse data maxInf stop iblock raw : Act (Picc T) (PiccError E) Next).run s =
      (sendResponse data maxInf stop iblock raw').run s := by
  rw [sendResponse, sendResponse, Act.run_get_bind, Act.run_get_bind, Act.run_bind, Act.run_bind,
    run_lift, run_lift]
  rcases parseBlock_same h with ⟨e, hb, hb'⟩ | ⟨b, c, d, hb, hb'⟩
  · rw [hb, hb']
  · rw [hb, hb']
    simp only [Res.mapErr_ok, processReceived_withCid b c d]

/-- **No call tells the two frames apart.** -/
theorem run_resume_same (h : SameBlock s.hwCrc raw raw') (call : PiccCall) :
    (call.resume (.ok raw : Except E FrameVec) : Act (Picc T) (PiccError E) Next).run s =
      (call.resume (.ok raw')).run s := by
  have halien : Block.Alien raw ∧ Block.Alien raw' := by
    obtain ⟨b, c, d, hread, hread'⟩ := h
    exact ⟨Block.alien hread, Block.alien hread'⟩
  cases call with
  | waitForActivation => exact run_waitForActivation_alien halien.1 halien.2
  | waitForRats =>
    show (waitForRats raw).run s = (waitForRats raw').run s
    rw [waitForRats, waitForRats, Act.run_bind, Act.run_bind, run_handleActive_alien halien.1,
      run_handleActive_alien halien.2]
  | receiveCommand => exact run_receiveCommand_same h
  | sendResponse data maxInf stop iblock => exact run_sendResponse_same h data maxInf stop iblock

end Blocks

/-! ### The CRC mode of a card never changes

  Two frames carry the same block in one CRC mode, so the runs have to stay in it. -/

section Mode

variable [Build] [PiccTransceiver T E] {hwCrc : Bool}

open Act

/-- The action leaves the CRC mode as it is. -/
abbrev KeepsMode (hwCrc : Bool) {α : Type} (m : Act (Picc T) (PiccError E) α) : Prop :=
  Keeps (fun s : Picc T => s.hwCrc = hwCrc) m

/-- No step of a card touches its CRC mode: only `new` does. -/
theorem steps_keepsMode (hwCrc : Bool) :
    Steps (T := T) (E := E) Eq (fun _ _ m _ => KeepsMode hwCrc m) := by
  have hforms : Graded (ε := PiccError E) (Eq (α := Picc T)) (fun _ _ m _ => KeepsMode hwCrc m) :=
    (relator_keeps _).graded
  have hsend : SendSteps (T := T) (E := E) Eq (fun _ _ m _ => KeepsMode hwCrc m) :=
    { forms := hforms
      seen := by rintro s _ rfl; exact .refl s
      send := fun frame s hs => by rw [run_send]; exact hs
      remember := fun block => .modify fun _ hs => hs
      enter := fun state _ _ => .modify fun _ hs => hs
      leave := fun e s hs => hs }
  refine hsend.steps (by rintro s _ rfl; rfl) (fun rats => .modify fun _ hs => hs)
    (.modify fun _ hs => hs) (.zoom _ _ fun _ _ hs => hs) fun block => .zoom _ _ fun _ _ hs => hs

/-- No call of the application changes the CRC mode as it begins. -/
theorem keepsMode_begin (api : PiccApi) :
    KeepsMode hwCrc (api.begin : Act (Picc T) (PiccError E) Next) :=
  (steps_keepsMode hwCrc).begin api

/-- Nor as it goes on with a frame. -/
theorem keepsMode_resume (call : PiccCall) (received : Except E FrameVec) :
    KeepsMode hwCrc (call.resume received : Act (Picc T) (PiccError E) Next) :=
  (steps_keepsMode hwCrc).resume (fun _ => Keeps.panic) call received

end Mode

end Picc

namespace PiccSession

variable {T E : Type} [Build] [PiccTransceiver T E]

/-! ## Two runs

  The inputs of the two runs are compared one by one: calls of the application are the same, and
  frames are the same or carry the same block for two cards. -/

/-- Two inputs that differ at most in the CID of a block.  Runs are compared input by input
    (`List.Forall₂`), so every block of a run may be given another CID, each one its own. -/
inductive Readdressed (hwCrc : Bool) : PiccInput E → PiccInput E → Prop
  | same (i : PiccInput E) : Readdressed hwCrc i i
  | block {raw raw' : FrameVec} (h : SameBlock hwCrc raw raw') :
      Readdressed hwCrc (.frame (.ok raw)) (.frame (.ok raw'))

/-- **One step does not tell them apart.** -/
theorem step_readdressed {x : PiccSession T} {i i' : PiccInput E}
    (h : Readdressed x.picc.hwCrc i i') : x.step i = x.step i' := by
  cases h with
  | same => rfl
  | block h =>
    obtain ⟨picc, call⟩ := x
    cases call with
    | none => rfl
    | some call =>
      show advance picc (call.resume (.ok _)) = advance picc (call.resume (.ok _))
      rw [advance, advance, Picc.run_resume_same h]

omit [Build] [PiccTransceiver T E] in
/-- The card keeps its CRC mode until it waits again. -/
theorem hwCrc_advance {picc : Picc T} {m : Act (Picc T) (PiccError E) Next}
    (hm : Picc.KeepsMode picc.hwCrc m) : (advance picc m).2.picc.hwCrc = picc.hwCrc := by
  rw [advance_picc]
  exact hm picc rfl

/-- The card keeps its CRC mode over every input. -/
theorem hwCrc_step (x : PiccSession T) (i : PiccInput E) :
    (x.step i).2.picc.hwCrc = x.picc.hwCrc := by
  obtain ⟨picc, call⟩ := x
  cases call with
  | none =>
    cases i with
    | call api => exact hwCrc_advance (Picc.keepsMode_begin api)
    | frame received => rfl
  | some call =>
    cases i with
    | call api => rfl
    | frame received => exact hwCrc_advance (Picc.keepsMode_resume call received)

/-- **The CID of a block that is received changes nothing**: neither what the calls return, nor
    what is sent, nor the card itself. -/
theorem trace_readdressed (x : PiccSession (Logged T)) {inputs inputs' : List (PiccInput E)}
    (h : List.Forall₂ (Readdressed x.picc.hwCrc) inputs inputs') :
    (Run.trace step x inputs).map (fun e => (e.output, e.after)) =
      (Run.trace step x inputs').map (fun e => (e.output, e.after)) := by
  induction inputs generalizing x inputs' with
  | nil =>
    cases h
    rfl
  | cons i inputs ih =>
    cases h with
    | cons hi h =>
      have hstep := step_readdressed hi
      rw [← hwCrc_step x i] at h
      have hrest := ih _ h
      simp only [Run.trace_cons, List.map_cons, Run.event_output, Run.event_after, hstep] at hrest ⊢
      rw [hrest]

/-- A card that took CID 5. -/
def numberedCard : PiccSession (Logged Willing) :=
  Run.after step freshCard (activate ++ [.frame (.ok [0xE0, 0x85]), .call .receiveCommand])

omit [Build] in
/-- A command for card 7 is one for card 5. -/
theorem trace_readdressed_sample : let : Build := Build.heap
    (Run.trace step numberedCard [.frame (.ok [0x0A, 0x07, 0xA4])]).map
        (fun e => (e.output, e.after)) =
      (Run.trace step numberedCard [.frame (.ok [0x0A, 0x05, 0xA4])]).map
        (fun e => (e.output, e.after)) := by
  intro _
  have hsame : SameBlock true [0x0A, 0x07, 0xA4] [0x0A, 0x05, 0xA4] :=
    ⟨⟨⟨0x0A, .iBlock, 0, false, none, none⟩, none, none, [0xA4]⟩, 7, 5, by decide, by decide⟩
  exact trace_readdressed numberedCard (.cons (.block hsame) .nil)

/-! ## Another card in the field

  What it comes to in practice: two cards in a field, with different CIDs, and one of them acts on
  what is addressed to the other. -/

/-- The CID of the block in a frame, if it is a block that carries one. -/
def cidOf (hwCrc : Bool) (raw : FrameVec) : Option Cid :=
  match Block.readBlock hwCrc raw with
  | .ok b => b.cid
  | _ => none

/-- A block for another card than this one. -/
def astray (x : PiccSession T) : PiccInput E → Bool
  | .frame (.ok raw) =>
    match x.picc.handler.cid, cidOf x.picc.hwCrc raw with
    | some c, some d => c ≠ d
    | _, _ => false
  | _ => false

/-- The APDUs that `receive_command` returned in a run. -/
def apdus (l : List (Event T E)) : List ChainVec :=
  l.filterMap fun e => match e.output with
    | some (.ok (.apdu data)) => some data
    | _ => none

/-- **Blocks for another card are passed over**: nothing is sent on them and nothing changes, and
    without them the same frames are sent and the same APDUs returned. -/
structure PassesOver (x : PiccSession (Logged T)) (inputs : List (PiccInput E)) : Prop where
  silent : ∀ e ∈ Run.trace step x inputs, x.astray e.input = true →
    e.after.picc.sent = e.before.picc.sent ∧ e.after.picc.state = e.before.picc.state ∧
      e.after.picc.handler.blockNumber = e.before.picc.handler.blockNumber ∧
      e.after.picc.handler.chain = e.before.picc.handler.chain ∧
      e.after.picc.lastSent = e.before.picc.lastSent
  sent : (Run.after step x (inputs.filter fun i => !x.astray i)).picc.sent =
    (Run.after step x inputs).picc.sent
  apdus : apdus (Run.trace step x (inputs.filter fun i => !x.astray i)) =
    apdus (Run.trace step x inputs)

omit [Build] in
/-- **A card with CID 5 takes a command for card 7, and is halted by an S(DESELECT) for it.** -/
theorem not_passesOver : let : Build := Build.heap
    numberedCard.picc.handler.cid = some 5 ∧ numberedCard.picc.state = .protocol ∧
      ¬ PassesOver numberedCard [.frame (.ok [0x0A, 0x07, 0xA4])] ∧
      ¬ PassesOver numberedCard [.frame (.ok [0xCA, 0x07])] := by
  intro _
  refine ⟨by decide, by decide, fun h => ?_, fun h => ?_⟩
  · exact absurd h.apdus (by decide +kernel)
  · exact absurd h.sent (by decide +kernel)

end PiccSession

end Iso14443
