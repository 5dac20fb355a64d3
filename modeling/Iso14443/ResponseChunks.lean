/-
  A response on its way in chunks (`Picc::send_response`), and both directions together.

  The same as `Iso14443.CommandChunks` for the card, whose chunks are sent frame by frame as the
  reader asks for them.

  * `Reaction` — what a waiting `send_response` does with one frame, by what the handler made of
                 it: the next chunk, a block again, an answer to something else, or the end.
  * `Holding`  — the card while the call waits: chunk `k` was sent, and is not acknowledged.
  * `Takes`    — one step of the waiting call, taken apart: its frame, and what the handler made of
    it.
  * `responding_settled` — the run: the call waits with some chunk, or it has ended, and if it
                 returned it was after the last one.
  * `sendResponse_delivers` — the frames of a response, in order, against its bytes.
  * `chunks_delivered`      — the reader and the card.

  The number of an I-Block of the card is the handler's at the time.  A reader that sends I-Blocks
  of its own moves it, so that the chunks have numbers, but not alternating ones.
-/
import Iso14443.CommandChunks
import Iso14443.Halt

namespace Iso14443

open StopAndWait ProtocolHandler

variable {T E : Type}

namespace Picc

/-- The payload bytes that fit one I-Block. -/
def responseInf (s : Picc T) : Nat := s.fsd - (3 + if s.handler.cid.isSome then 1 else 0)

/-- These frames were sent, and nothing that decides the form of the next ones has changed. -/
structure HandsOver (s : Picc (Logged T)) (frames : List Frame) (s' : Picc (Logged T)) : Prop where
  sent : s'.sent = s.sent ++ frames
  hwCrc : s'.hwCrc = s.hwCrc
  cid : s'.handler.cid = s.handler.cid

/-- How a call goes on after chunk `k`. -/
def afterChunk (data : List UInt8) (inf k : Nat) (iblock : Block) : Next :=
  if (k + 1) * inf < data.length then .wait (.sendResponse data inf ((k + 1) * inf) iblock)
  else .ret .unit

/-- The action failed, or it gave `a`. -/
def FailsOr {α : Type} (a : α) (r : Res (PiccError E) α) : Prop := (∃ e, r = .err e) ∨ r = .ok a

variable [Build] [PiccTransceiver T E]

/-- A block that makes a frame goes out. -/
theorem sendBlock_handsOver {block : Block} (h : block.bytes.length + 2 ≤ 256)
    (s : Picc (Logged T)) : ∃ r s', (sendBlock block).run s = (r, s') ∧
      HandsOver s [.standard (block.raw s.hwCrc)] s' ∧ FailsOr (E := E) () r := by
  refine ⟨_, _, run_sendBlock (frameFor_of_fits s.hwCrc h), ⟨rfl, rfl, rfl⟩, ?_⟩
  exact ((s.remembering block).sendResult_cases _).symm.imp_left fun ⟨e, he⟩ => ⟨_, he⟩

/-- What follows a block that went out. -/
theorem sendBlock_then {α : Type} {block : Block} (h : block.bytes.length + 2 ≤ 256)
    (s : Picc (Logged T)) {m : Act (Picc (Logged T)) (PiccError E) α} {a : α}
    (hm : ∀ s', ∃ r s'', m.run s' = (r, s'') ∧ s''.sent = s'.sent ∧ s''.hwCrc = s'.hwCrc ∧
      s''.handler = s'.handler ∧ FailsOr a r) :
    ∃ r s', (sendBlock block >>= fun _ => m).run s = (r, s') ∧
      HandsOver s [.standard (block.raw s.hwCrc)] s' ∧ FailsOr a r := by
  obtain ⟨r, s', hrun, hover, hr⟩ := sendBlock_handsOver (E := E) h s
  rcases hr with ⟨e, rfl⟩ | rfl
  · exact ⟨_, s', Act.run_bind_err hrun _, hover, Or.inl ⟨e, rfl⟩⟩
  · obtain ⟨r, s'', hrun', hsent, hcrc, hhandler, hr⟩ := hm s'
    refine ⟨r, s'', (Act.run_bind_ok hrun _).trans hrun', ⟨?_, ?_, ?_⟩, hr⟩
    · rw [hsent, hover.sent]
    · rw [hcrc, hover.hwCrc]
    · rw [hhandler, hover.cid]

/-- **A chunk goes out**: the frame is known byte by byte, whatever becomes of the call that sends
    it. -/
theorem sendChunk_handsOver {s : Picc (Logged T)} (data : List UInt8) (inf k : Nat)
    (hk : k * inf ≤ data.length) (h256 : airLength s.hwCrc (chunkFrame s.hwCrc s.handler.cid
      s.handler.blockNumber data inf k) ≤ 256) :
    ∃ r s', (sendChunk data inf (k * inf) : Act _ (PiccError E) Next).run s = (r, s') ∧
      HandsOver s [chunkFrame s.hwCrc s.handler.cid s.handler.blockNumber data inf k] s' ∧
      FailsOr (afterChunk data inf k (chunkBlock s.handler.cid s.handler.blockNumber data inf k))
        r := by
  rw [chunkFrame, airLength_raw] at h256
  have hmore : decide (min (k * inf + inf) data.length < data.length) =
      decide ((k + 1) * inf < data.length) := by
    rw [Nat.succ_mul, decide_eq_decide]
    omega
  have hchunk : Fits frameCap (Pcd.chunkAt data inf (k * inf)).length := by
    rw [← iblockOf_chunkAt, length_iblockOf] at h256
    exact fits_frameCap (by omega)
  rw [sendChunk, Act.run_get_bind]
  simp only
  rw [Act.run_bind, run_lift, Res.slice_of_le (by omega) (by omega), Pcd.chunkAt_eq]
  simp only [Res.mapErr_ok]
  rw [Act.run_bind, run_lift, buildIblock_of_fits _ hchunk, hmore, iblockOf_chunkAt]
  simp only [Res.mapErr_ok]
  refine sendBlock_then h256 s fun s' => ?_
  by_cases hlt : (k + 1) * inf < data.length
  · have hstop : min (k * inf + inf) data.length = (k + 1) * inf := by
      rw [Nat.succ_mul] at hlt ⊢
      omega
    rw [if_pos (decide_eq_true hlt), hstop, afterChunk, if_pos hlt]
    exact ⟨_, s', rfl, rfl, rfl, rfl, Or.inr rfl⟩
  · rw [if_neg (by simpa using hlt), afterChunk, if_neg hlt]
    exact ⟨_, s', rfl, rfl, rfl, rfl, Or.inr rfl⟩

/-- A reply goes out, and the call waits on or ends. -/
theorem reply_handsOver {reply : Block} (h : reply.bytes.length + 2 ≤ 256) (call : PiccCall)
    (s : Picc (Logged T)) : ∃ r s', (do
      sendBlock reply
      if isDeselectReply reply then do
        setState .halted
        Act.throw .deselected
      else pure (.wait call) : Act _ (PiccError E) Next).run s = (r, s') ∧
      HandsOver s [.standard (reply.raw s.hwCrc)] s' ∧ FailsOr (.wait call) r := by
  refine sendBlock_then h s fun s' => ?_
  cases isDeselectReply reply with
  | true =>
    exact ⟨.err .deselected, { s' with state := .halted }, rfl, rfl, rfl, rfl, Or.inl ⟨_, rfl⟩⟩
  | false => exact ⟨_, s', rfl, rfl, rfl, rfl, Or.inr rfl⟩

/-- A block goes out, and the call waits on. -/
theorem again_handsOver {block : Block} (h : block.bytes.length + 2 ≤ 256) (call : PiccCall)
    (s : Picc (Logged T)) : ∃ r s', (do
      sendBlock block
      pure (.wait call) : Act _ (PiccError E) Next).run s = (r, s') ∧
      HandsOver s [.standard (block.raw s.hwCrc)] s' ∧ FailsOr (.wait call) r :=
  sendBlock_then h s fun s' => ⟨_, s', rfl, rfl, rfl, rfl, Or.inr rfl⟩

omit [Build] [PiccTransceiver T E] in
/-- The handler of a card keeps its CID. -/
theorem HandsOver.of_withHandler {s s' : Picc (Logged T)} {h : ProtocolHandler} {frames : List Frame}
    (hcid : h.cid = s.handler.cid) (hover : HandsOver (s.withHandler h) frames s') :
    HandsOver s frames s' :=
  ⟨hover.sent, hover.hwCrc, hover.cid.trans hcid⟩

/-- **`send_response` begins with its first chunk.** -/
theorem run_begin_sendResponse (s : Picc T) (hinf : s.responseInf ≠ 0) (data : List UInt8) :
    ((PiccApi.sendResponse data).begin : Act _ (PiccError E) Next).run s =
      (sendChunk data s.responseInf (0 * s.responseInf)).run s := by
  have hcid : (s.handler.iblockOf [] false).cid.isSome = s.handler.cid.isSome := by
    rw [iblockOf_eq]
  have hmax : s.fsd - (1 + (if (s.handler.iblockOf [] false).cid.isSome then 1 else 0) + 2) =
      s.responseInf := by
    rw [hcid, responseInf]
    congr 1
    omega
  rw [PiccApi.begin, Act.run_get_bind, Act.run_bind, run_lift,
    buildIblock_of_fits _ (fits_frameCap (by simp))]
  simp only [Res.mapErr_ok, hmax, if_neg hinf, Nat.zero_mul]

/-! ## One frame

  All that can come of a frame while a chunk waits for its acknowledgement. -/

/-- What a waiting `send_response` does with a frame: `call` waits with chunk `k` in `iblock`, and
    `answer` is what the handler made of the frame, if it was a block. -/
inductive Reaction (s : Picc (Logged T)) (data : List UInt8) (inf k : Nat) (iblock : Block)
    (r : Res (PiccError E) Next) (s' : Picc (Logged T)) : Option (Res TypeAError Action) → Prop
  | ended {answer : Option (Res TypeAError Action)} (ha : answer ≠ some (.ok .chainingAck))
      (hr : answer ≠ some (.ok .chainingRetransmit)) (hover : HandsOver s [] s')
      (hend : ∃ e, r = .err e) : Reaction s data inf k iblock r s' answer
  | replied {reply : Block} (hreply : Brief reply)
      (hover : HandsOver s [.standard (reply.raw s.hwCrc)] s')
      (hnext : FailsOr (.wait (.sendResponse data inf ((k + 1) * inf) iblock)) r) :
      Reaction s data inf k iblock r s' (some (.ok (.reply reply)))
  | repeated (hover : HandsOver s [.standard (iblock.raw s.hwCrc)] s')
      (hnext : FailsOr (.wait (.sendResponse data inf ((k + 1) * inf) iblock)) r) :
      Reaction s data inf k iblock r s' (some (.ok .chainingRetransmit))
  | acked (number : Fin 2)
      (hover : HandsOver s [chunkFrame s.hwCrc s.handler.cid number data inf (k + 1)] s')
      (hnext : FailsOr (afterChunk data inf (k + 1)
        (chunkBlock s.handler.cid number data inf (k + 1))) r) :
      Reaction s data inf k iblock r s' (some (.ok .chainingAck))

/-- What the handler makes of a frame. -/
def answerTo (s : Picc T) (received : Except E FrameVec) : Option (Res TypeAError Action) :=
  match received with
  | .error _ => none
  | .ok raw =>
    match s.parseBlock raw with
    | .ok b => some (s.handler.receive b).1
    | _ => none

omit [Build] [PiccTransceiver T E] in
/-- Nothing sent is nothing handed over. -/
theorem HandsOver.none {s s' : Picc (Logged T)} (hsent : s'.sent = s.sent)
    (hcrc : s'.hwCrc = s.hwCrc) (hcid : s'.handler.cid = s.handler.cid) : HandsOver s [] s' :=
  ⟨by rw [hsent, List.append_nil], hcrc, hcid⟩

/-- **Every frame brings one of these.** The frame is read as a block or not, and a block is one of
    the outcomes of the handler, of which two send a chunk. -/
theorem reaction_resume {s : Picc (Logged T)} {data : List UInt8} {inf k : Nat} {iblock : Block}
    (hmore : (k + 1) * inf < data.length) (h256 : iblock.bytes.length + 2 ≤ 256)
    (hinf : inf + (3 + if s.handler.cid.isSome then 1 else 0) ≤ 256)
    (received : Except E FrameVec) : ∃ r s',
    (PiccCall.resume (.sendResponse data inf ((k + 1) * inf) iblock) received).run s = (r, s') ∧
      Reaction s data inf k iblock r s' (s.answerTo received) := by
  cases received with
  | error e =>
    have hanswer : s.answerTo (.error e : Except E FrameVec) = none := rfl
    rw [hanswer]
    exact ⟨_, s, rfl, .ended (by simp) (by simp) (.none rfl rfl rfl) ⟨_, rfl⟩⟩
  | ok raw =>
    rcases (s.parseBlock_returns raw).cases with ⟨b, hb⟩ | ⟨e, hb⟩
    · -- the frame carries a block, and the handler decides
      have hanswer : s.answerTo (.ok raw : Except E FrameVec) = some (s.handler.receive b).1 := by
        rw [answerTo, hb]
      rcases s.handler.receive_cases b with ⟨a, h', hr⟩ | ⟨e, h', hr⟩
      · -- it goes on
        have hcid := cid_of_receive hr
        have hrun := run_sendResponse_parsed (E := E) data inf ((k + 1) * inf) iblock hb hr
        rw [hanswer, hr]
        cases a with
        | complete d =>
          exact ⟨_, _, hrun, .ended (by simp) (by simp) (.none rfl rfl hcid) ⟨_, rfl⟩⟩
        | reply reply =>
          have hbrief := brief_reply hr
          have hlen := hbrief.length
          have h256 : reply.bytes.length + 2 ≤ 256 := by omega
          obtain ⟨r, s', hrun', hover, hnext⟩ := reply_handsOver (E := E) h256
            (.sendResponse data inf ((k + 1) * inf) iblock) (s.withHandler h')
          exact ⟨r, s', hrun.trans hrun', .replied hbrief (hover.of_withHandler hcid) hnext⟩
        | chainingRetransmit =>
          obtain ⟨r, s', hrun', hover, hnext⟩ := again_handsOver (E := E) h256
            (.sendResponse data inf ((k + 1) * inf) iblock) (s.withHandler h')
          exact ⟨r, s', hrun.trans hrun', .repeated (hover.of_withHandler hcid) hnext⟩
        | chainingAck =>
          have hair := airLength_chunkFrame_le s.hwCrc s.handler.cid h'.blockNumber data inf (k + 1)
          rw [← hcid] at hair hinf
          obtain ⟨r, s', hrun', hover, hnext⟩ := sendChunk_handsOver (E := E) (s := s.withHandler h')
            data inf (k + 1) (Nat.le_of_lt hmore) (Nat.le_trans hair hinf)
          have hover' := hover.of_withHandler hcid
          simp only [withHandler_hwCrc, withHandler_handler, hcid] at hover' hnext
          exact ⟨r, s', hrun.trans hrun', .acked h'.blockNumber hover' hnext⟩
      · -- it fails, and the call with it
        have hrun := run_sendResponse_parsed (E := E) data inf ((k + 1) * inf) iblock hb hr
        rw [hanswer, hr]
        exact ⟨_, _, hrun, .ended (by simp) (by simp) (.none rfl rfl (cid_of_receive hr)) ⟨_, rfl⟩⟩
    · -- no block: the call fails
      have hanswer : s.answerTo (.ok raw : Except E FrameVec) = none := by
        rw [answerTo, hb]
      have hrun : (PiccCall.resume (.sendResponse data inf ((k + 1) * inf) iblock)
          (.ok raw)).run s = ((.err (.protocol e), s) : Res (PiccError E) Next × _) := by
        show (sendResponse data inf ((k + 1) * inf) iblock raw).run s = _
        rw [sendResponse, Act.run_get_bind, Act.run_bind, run_lift, hb]
        rfl
      rw [hanswer]
      exact ⟨_, s, hrun, .ended (by simp) (by simp) (.none rfl rfl rfl) ⟨_, rfl⟩⟩

/-! ## The run of a response

  The call, and the frames that arrive; the moments of the sender are read off each step. -/

/-- The frame with chunk `k` of a response, under the number it was built with. -/
def responseFrame (s : Picc T) (number : Nat → Fin 2) (data : List UInt8) (k : Nat) : Frame :=
  chunkFrame s.hwCrc s.handler.cid (number k) data s.responseInf k

/-- The response kept pace, and `n` chunks were sent.  The transcript is judged by the same general
    notion as that of the reader (`StopAndWait`), with the frame size of the reader. -/
def OnPace (s : Picc T) (number : Nat → Fin 2) (data : List UInt8) (n : Nat)
    (l : List (Moment Frame)) : Prop :=
  Paced isIblock (fun frame => airLength s.hwCrc frame ≤ s.fsd) (responseFrame s number data)
    (chunkCount data s.responseInf) n l

end Picc

namespace PiccSession

open Picc

/-- One step of a card. -/
abbrev Step (T E : Type) :=
  Run.Event (PiccSession (Logged T)) (PiccInput E) (Option (Res (PiccError E) Outcome))

/-- The frames a step sent. -/
def sentBy (e : Step T E) : List Frame := e.after.picc.sent.drop e.before.picc.sent.length

variable [Build]

/-- What the handler made of the frame of a step, while `send_response` waits. -/
def heardBy (e : Step T E) : Option (Res TypeAError Action) :=
  match e.before.call, e.input with
  | some (.sendResponse _ _ _ _), .frame received => e.before.picc.answerTo received
  | _, _ => none

/-- What was acknowledged and sent in a step. -/
def moments (e : Step T E) : List (Moment Frame) :=
  (heardBy e).elim [] acknowledged ++ (sentBy e).map .sent

variable [PiccTransceiver T E]

/-- `send_response` is called, and frames arrive. -/
def responding (s : Picc (Logged T)) (data : List UInt8) (frames : List (Except E FrameVec)) :
    List (Step T E) :=
  Run.trace step ⟨s, none⟩ (.call (.sendResponse data) :: frames.map .frame)

/-- The card while the call waits: chunk `k` was sent, and is not acknowledged.  The locals of the
    call are told from `k`, and the acknowledgements so far are as many as the chunks before it. -/
structure Holding (s : Picc (Logged T)) (number : Nat → Fin 2) (data : List UInt8) (k : Nat)
    (l : List (Moment Frame)) (x : PiccSession (Logged T)) : Prop where
  hwCrc : x.picc.hwCrc = s.hwCrc
  cid : x.picc.handler.cid = s.handler.cid
  more : (k + 1) * s.responseInf < data.length
  call : x.call = some (.sendResponse data s.responseInf ((k + 1) * s.responseInf)
    (chunkBlock s.handler.cid (number k) data s.responseInf k))
  pace : OnPace s number data (k + 1) l
  acks : acks l = k

/-- The call waits, or it has ended: if it returned, after the last chunk.  It is the invariant of
    `send_response`, from its first I-Block on. -/
def Settled (s : Picc (Logged T)) (number : Nat → Fin 2) (data : List UInt8)
    (l : List (Step T E)) (x : PiccSession (Logged T)) : Prop :=
  (∃ k, Holding s number data k (l.flatMap moments) x ∧
    ∀ e ∈ l, e.output ≠ some (.ok .unit)) ∨
  (x.call = none ∧ ∃ n, OnPace s number data n (l.flatMap moments) ∧
    ((∃ e ∈ l, e.output = some (.ok .unit)) → n = chunkCount data s.responseInf))

/-- A step in which the handler takes a frame for a request to send again, sends an I-Block. -/
def Repeats (e : Step T E) : Prop :=
  heardBy e = some (.ok .chainingRetransmit) → ∃ frame, sentBy e = [frame] ∧ isIblock frame = true

section Steps

variable {s : Picc (Logged T)} {number : Nat → Fin 2} {data : List UInt8} {l : List (Step T E)}
  {x : PiccSession (Logged T)} {k : Nat}

omit [PiccTransceiver T E] in
/-- How a step leaves the card once chunk `k` was sent.  The next chunk and a repeated one come to
    this alike; they differ in what they say of the pace. -/
theorem settled_concat {e : Step T E} {r : Res (PiccError E) Next} {picc s' : Picc (Logged T)}
    {m : Act (Picc (Logged T)) (PiccError E) Next} (hinf : 0 < s.responseInf)
    (hno : ∀ e ∈ l, e.output ≠ some (.ok .unit)) (hstep : (e.output, e.after) = advance picc m)
    (hrun : m.run picc = (r, s')) (hcrc : s'.hwCrc = s.hwCrc)
    (hcid : s'.handler.cid = s.handler.cid)
    (hpace : OnPace s number data (k + 1) (l.flatMap moments ++ moments e))
    (hacks : acks (l.flatMap moments ++ moments e) = k)
    (hnext : FailsOr (afterChunk data s.responseInf k
      (chunkBlock s.handler.cid (number k) data s.responseInf k)) r) :
    Settled s number data (l ++ [e]) e.after := by
  have hmoments : (l ++ [e]).flatMap moments = l.flatMap moments ++ moments e := by
    rw [List.flatMap_append, List.flatMap_singleton]
  have hlast : e.output ≠ some (.ok .unit) → ∀ e' ∈ l ++ [e], e'.output ≠ some (.ok .unit) := by
    intro hne e' he'
    rcases List.mem_append.mp he' with he' | he'
    · exact hno e' he'
    · rw [List.mem_singleton.mp he']
      exact hne
  rw [Settled, hmoments]
  -- the send failed, or chunk `k` went out
  rcases hnext with ⟨err, rfl⟩ | rfl
  · have hadvance : advance picc m = (some (.err err), ⟨s', none⟩) := by rw [advance, hrun]
    obtain ⟨hout, hafter⟩ := Prod.ext_iff.mp (hstep.trans hadvance)
    rw [show e.after = _ from hafter]
    refine Or.inr ⟨rfl, _, hpace, ?_⟩
    rintro ⟨e', he', hok⟩
    exact absurd hok (hlast (by rw [show e.output = _ from hout]; simp) e' he')
  · -- it waits for its acknowledgement, or it was the last one
    by_cases hmore : (k + 1) * s.responseInf < data.length
    · have hadvance : advance picc m = (none, ⟨s', some (.sendResponse data s.responseInf
          ((k + 1) * s.responseInf) (chunkBlock s.handler.cid (number k) data s.responseInf
            k))⟩) := by
        rw [advance, hrun, afterChunk, if_pos hmore]
      obtain ⟨hout, hafter⟩ := Prod.ext_iff.mp (hstep.trans hadvance)
      rw [show e.after = _ from hafter]
      exact Or.inl ⟨k, ⟨hcrc, hcid, hmore, rfl, hpace, hacks⟩,
        hlast (by rw [show e.output = _ from hout]; simp)⟩
    · have hadvance : advance picc m = (some (.ok .unit), ⟨s', none⟩) := by
        rw [advance, hrun, afterChunk, if_neg hmore]
      obtain ⟨-, hafter⟩ := Prod.ext_iff.mp (hstep.trans hadvance)
      rw [show e.after = _ from hafter]
      exact Or.inr ⟨rfl, _, hpace, fun _ => (chunkCount_of_last hinf hpace.le hmore).symm⟩

/-- **The call itself** sends chunk 0. -/
theorem settled_call (hinf : 0 < s.responseInf) (hfsd : s.fsd ≤ 256) (data : List UInt8) :
    let e := Run.event step ⟨s, none⟩ (.call (.sendResponse data) : PiccInput E)
    Settled s (fun _ => s.handler.blockNumber) data [e] e.after ∧ Repeats e := by
  intro e
  have hair := airLength_chunkFrame_le s.hwCrc s.handler.cid s.handler.blockNumber data
    s.responseInf 0
  have hsize : s.responseInf = s.fsd - (3 + if s.handler.cid.isSome then 1 else 0) := rfl
  obtain ⟨r, s', hrun, hover, hnext⟩ := sendChunk_handsOver (E := E) (s := s) data s.responseInf 0
    (by omega) (by omega)
  rw [← run_begin_sendResponse s hinf.ne' data] at hrun
  have hsent : sentBy e = [responseFrame s (fun _ => s.handler.blockNumber) data 0] := by
    show (advance s (PiccApi.sendResponse data).begin).2.picc.sent.drop s.sent.length = _
    rw [advance_picc, hrun, hover.sent, List.drop_left]
    rfl
  have hmoments : moments e = [.sent (responseFrame s (fun _ => s.handler.blockNumber) data 0)] := by
    rw [moments, hsent]
    rfl
  have hheard : heardBy e = none := rfl
  refine ⟨?_, fun h => by rw [hheard] at h; cases h⟩
  have hpace : OnPace s (fun _ => s.handler.blockNumber) data 1 ([] ++ moments e) := by
    rw [hmoments]
    refine Paced.chunk Paced.nil rfl (Or.inl rfl) (lt_chunkCount hinf (Or.inl rfl))
      (isIblock_chunkFrame _ _ _ _ _ _) ?_
    show airLength _ _ ≤ _
    rw [responseFrame]
    omega
  have hstep : (e.output, e.after) = advance s (PiccApi.sendResponse data).begin := rfl
  have hacks : acks ([] ++ moments e) = 0 := by
    rw [hmoments]
    rfl
  exact settled_concat (l := []) hinf (by simp) hstep hrun hover.hwCrc hover.cid hpace hacks hnext

/-- A frame for the call that waits. -/
theorem step_frame {call : PiccCall} (h : x.call = some call) (received : Except E FrameVec) :
    step x (.frame received) = advance x.picc (call.resume received) := by
  obtain ⟨picc, c⟩ := x
  obtain rfl : c = some call := h
  rfl

/-- A frame that nothing waits for. -/
theorem step_over (h : x.call = none) (received : Except E FrameVec) :
    step x (.frame received) = (none, x) := by
  obtain ⟨picc, c⟩ := x
  obtain rfl : c = none := h
  rfl

/-- A step of the waiting call, taken apart: what it did, ending in `r`, and what the handler made of
    its frame. -/
structure Takes (x : PiccSession (Logged T)) (e : Step T E) (answer : Option (Res TypeAError Action))
    (r : Res (PiccError E) Next) (s' : Picc (Logged T)) : Prop where
  step : ∃ m : Act (Picc (Logged T)) (PiccError E) Next,
    (e.output, e.after) = advance x.picc m ∧ m.run x.picc = (r, s')
  before : e.before = x
  heard : heardBy e = answer

/-- A frame for `send_response`. -/
theorem takes_frame {inf stop : Nat} {iblock : Block} {r : Res (PiccError E) Next}
    {s' : Picc (Logged T)} (h : x.call = some (.sendResponse data inf stop iblock))
    {received : Except E FrameVec}
    (hrun : (PiccCall.resume (.sendResponse data inf stop iblock) received).run x.picc = (r, s')) :
    Takes x (Run.event step x (.frame received)) (x.picc.answerTo received) r s' := by
  refine ⟨⟨_, step_frame h received, hrun⟩, rfl, ?_⟩
  obtain ⟨picc, c⟩ := x
  obtain rfl : c = some (.sendResponse data inf stop iblock) := h
  rfl

omit [PiccTransceiver T E] in
/-- The frames such a step sent. -/
theorem Takes.sentBy {e : Step T E} {answer : Option (Res TypeAError Action)}
    {r : Res (PiccError E) Next} {s' : Picc (Logged T)} {frames : List Frame}
    (h : Takes x e answer r s') (hover : HandsOver x.picc frames s') : sentBy e = frames := by
  obtain ⟨m, hstep, hrun⟩ := h.step
  have hafter : e.after = (advance x.picc m).2 := congrArg Prod.snd hstep
  rw [PiccSession.sentBy, hafter, advance_picc, hrun, h.before, hover.sent, List.drop_left]

omit [PiccTransceiver T E] in
/-- What such a step brought: the acknowledgement, if there was one, and then the frames. -/
theorem Takes.moments {e : Step T E} {answer : Option (Res TypeAError Action)}
    {r : Res (PiccError E) Next} {s' : Picc (Logged T)} {frames : List Frame}
    (h : Takes x e answer r s') (hover : HandsOver x.picc frames s') :
    moments e = answer.elim [] acknowledged ++ frames.map .sent := by
  rw [PiccSession.moments, h.heard, h.sentBy hover]

section Waiting

variable {e : Step T E} {answer : Option (Res TypeAError Action)} {r : Res (PiccError E) Next}
  {s' : Picc (Logged T)} {frames : List Frame}

/-- What can become of the card while chunk `k` waits. -/
def Goes (s : Picc (Logged T)) (number : Nat → Fin 2) (data : List UInt8) (l : List (Step T E))
    (e : Step T E) : Prop :=
  ∃ number', number' 0 = number 0 ∧ Settled s number' data (l ++ [e]) e.after ∧ Repeats e

omit [PiccTransceiver T E] in
/-- The rest of a step, by the chunk that waits after it. -/
theorem Holding.settles (k' : Nat) {l' : List (Moment Frame)} {number' : Nat → Fin 2}
    (h : Holding s number data k l' x) (hinf : 0 < s.responseInf)
    (hno : ∀ e ∈ l, e.output ≠ some (.ok .unit)) (htakes : Takes x e answer r s')
    (hover : HandsOver x.picc frames s')
    (hpace : OnPace s number' data (k' + 1) (l.flatMap PiccSession.moments ++ moments e))
    (hacks : StopAndWait.acks (l.flatMap PiccSession.moments ++ moments e) = k')
    (hnext : FailsOr (afterChunk data s.responseInf k'
      (chunkBlock s.handler.cid (number' k') data s.responseInf k')) r) :
    Settled s number' data (l ++ [e]) e.after := by
  obtain ⟨m, hstep, hrun⟩ := htakes.step
  exact settled_concat hinf hno hstep hrun (hover.hwCrc.trans h.hwCrc) (hover.cid.trans h.cid) hpace
    hacks hnext

omit [PiccTransceiver T E] in
/-- The call ends, and nothing is sent. -/
theorem Holding.ended (h : Holding s number data k (l.flatMap PiccSession.moments) x)
    (hinf : 0 < s.responseInf) (hno : ∀ e ∈ l, e.output ≠ some (.ok .unit))
    (htakes : Takes x e answer r s') (ha : answer ≠ some (.ok .chainingAck))
    (hr : answer ≠ some (.ok .chainingRetransmit)) (hover : HandsOver x.picc [] s')
    (hend : ∃ e, r = .err e) : Goes s number data l e := by
  have hsilent : answer.elim [] acknowledged = [] := by
    cases answer with
    | none => rfl
    | some r => exact if_neg fun hr => ha (congrArg some hr)
  have hm : moments e = [] := by
    rw [htakes.moments hover, hsilent]
    rfl
  refine ⟨number, rfl, ?_, fun heard => absurd (htakes.heard.symm.trans heard) hr⟩
  refine h.settles k hinf hno htakes hover ?_ ?_ (Or.inl hend)
  · rw [hm, List.append_nil]
    exact h.pace
  · rw [hm, List.append_nil]
    exact h.acks

omit [PiccTransceiver T E] in
/-- A reply goes out, and the chunk waits on. -/
theorem Holding.replied {reply : Block}
    (h : Holding s number data k (l.flatMap PiccSession.moments) x) (hinf : 0 < s.responseInf)
    (h16 : 16 ≤ s.fsd) (hno : ∀ e ∈ l, e.output ≠ some (.ok .unit))
    (htakes : Takes x e (some (.ok (.reply reply))) r s') (hreply : Brief reply)
    (hover : HandsOver x.picc [.standard (reply.raw x.picc.hwCrc)] s')
    (hnext : FailsOr (.wait (.sendResponse data s.responseInf ((k + 1) * s.responseInf)
      (chunkBlock s.handler.cid (number k) data s.responseInf k))) r) :
    Goes s number data l e := by
  have hm : moments e = [.sent (.standard (reply.raw s.hwCrc))] := by
    rw [htakes.moments hover, h.hwCrc]
    rfl
  have hlen := hreply.length
  refine ⟨number, rfl, ?_, fun heard => by cases htakes.heard.symm.trans heard⟩
  refine h.settles k hinf hno htakes hover ?_ ?_ (by rw [afterChunk, if_pos h.more]; exact hnext)
  · rw [hm]
    refine Paced.other h.pace ?_ ?_
    · rw [isIblock_raw hreply.wellFormed]
      exact decide_eq_false hreply.type
    · show airLength s.hwCrc _ ≤ s.fsd
      rw [airLength_raw]
      omega
  · rw [hm, acks_append, h.acks]
    rfl

omit [PiccTransceiver T E] in
/-- The chunk that waits goes out again. -/
theorem Holding.repeated (h : Holding s number data k (l.flatMap PiccSession.moments) x)
    (hinf : 0 < s.responseInf) (hair : airLength s.hwCrc (responseFrame s number data k) ≤ s.fsd)
    (hno : ∀ e ∈ l, e.output ≠ some (.ok .unit))
    (htakes : Takes x e (some (.ok .chainingRetransmit)) r s')
    (hover : HandsOver x.picc [.standard ((chunkBlock s.handler.cid (number k) data s.responseInf
      k).raw x.picc.hwCrc)] s')
    (hnext : FailsOr (.wait (.sendResponse data s.responseInf ((k + 1) * s.responseInf)
      (chunkBlock s.handler.cid (number k) data s.responseInf k))) r) :
    Goes s number data l e := by
  have hm : moments e = [.sent (responseFrame s number data k)] := by
    rw [htakes.moments hover, h.hwCrc]
    rfl
  refine ⟨number, rfl, ?_, fun _ => ⟨_, htakes.sentBy hover, isIblock_chunkFrame _ _ _ _ _ _⟩⟩
  refine h.settles k hinf hno htakes hover ?_ ?_ (by rw [afterChunk, if_pos h.more]; exact hnext)
  · rw [hm]
    exact Paced.chunk h.pace h.acks (Or.inr rfl) h.pace.le (isIblock_chunkFrame _ _ _ _ _ _) hair
  · rw [hm, acks_append, h.acks]
    rfl

omit [PiccTransceiver T E] in
/-- **The next chunk goes out**, under a number that is known from now on.  The numbers of the
    chunks are a function that is extended by one value with every acknowledgement. -/
theorem Holding.acked {next : Fin 2}
    (h : Holding s number data k (l.flatMap PiccSession.moments) x) (hinf : 0 < s.responseInf)
    (hair : airLength s.hwCrc (chunkFrame s.hwCrc s.handler.cid next data s.responseInf (k + 1)) ≤
      s.fsd)
    (hno : ∀ e ∈ l, e.output ≠ some (.ok .unit)) (htakes : Takes x e (some (.ok .chainingAck)) r s')
    (hover : HandsOver x.picc [chunkFrame s.hwCrc s.handler.cid next data s.responseInf (k + 1)] s')
    (hnext : FailsOr (afterChunk data s.responseInf (k + 1)
      (chunkBlock s.handler.cid next data s.responseInf (k + 1))) r) :
    Goes s number data l e := by
  -- the numbers of the chunks before are what they were
  have hnumber : ∀ j < k + 1, number j = Function.update number (k + 1) next j := by
    intro j hj
    rw [Function.update_of_ne (Nat.ne_of_lt hj)]
  have hdue : responseFrame s (Function.update number (k + 1) next) data (k + 1) =
      chunkFrame s.hwCrc s.handler.cid next data s.responseInf (k + 1) := by
    rw [responseFrame, Function.update_self]
  have hpace : OnPace s (Function.update number (k + 1) next) data (k + 1)
      (l.flatMap PiccSession.moments) :=
    h.pace.congr fun j hj => by rw [responseFrame, responseFrame, hnumber j hj]
  have hacks : StopAndWait.acks (l.flatMap PiccSession.moments ++ [.acked]) = k + 1 := by
    rw [acks_append, h.acks]
    rfl
  have hlist : l.flatMap PiccSession.moments ++ moments e =
      l.flatMap PiccSession.moments ++ [.acked] ++
        [.sent (responseFrame s (Function.update number (k + 1) next) data (k + 1))] := by
    rw [htakes.moments hover, hdue, List.append_assoc]
    rfl
  refine ⟨Function.update number (k + 1) next, Function.update_of_ne (Nat.succ_ne_zero k).symm _ _,
    ?_, fun heard => by cases htakes.heard.symm.trans heard⟩
  refine h.settles (k + 1) hinf hno htakes hover ?_ ?_ (by rw [Function.update_self]; exact hnext)
  · rw [hlist]
    refine Paced.chunk hpace.acked hacks (Or.inl rfl) ((succ_lt_chunkCount hinf).mpr h.more) ?_ ?_
    · exact isIblock_chunkFrame _ _ _ _ _ _
    · rw [hdue]; exact hair
  · rw [hlist, acks_append, hacks]
    rfl

/-- **A frame while chunk `k` waits.** -/
theorem Holding.frame (h : Holding s number data k (l.flatMap PiccSession.moments) x)
    (hinf : 0 < s.responseInf) (h16 : 16 ≤ s.fsd) (hfsd : s.fsd ≤ 256)
    (hno : ∀ e ∈ l, e.output ≠ some (.ok .unit)) (received : Except E FrameVec) :
    Goes s number data l (Run.event step x (.frame received)) := by
  have hsize : s.responseInf + (3 + if s.handler.cid.isSome then 1 else 0) ≤ s.fsd := by
    rw [responseInf] at hinf ⊢
    omega
  have hair : ∀ n k, airLength s.hwCrc (chunkFrame s.hwCrc s.handler.cid n data s.responseInf k) ≤
      s.fsd := fun n k => Nat.le_trans (airLength_chunkFrame_le _ _ _ _ _ _) hsize
  have hblock := hair (number k) k
  rw [chunkFrame, airLength_raw] at hblock
  obtain ⟨r, s', hrun, hreact⟩ := reaction_resume (E := E) h.more (Nat.le_trans hblock hfsd)
    (by rw [h.cid]; exact Nat.le_trans hsize hfsd) received
  have htakes := takes_frame h.call hrun
  generalize x.picc.answerTo received = answer at hreact htakes
  cases hreact with
  | ended ha hr hover hend => exact h.ended hinf hno htakes ha hr hover hend
  | replied hreply hover hnext => exact h.replied hinf h16 hno htakes hreply hover hnext
  | repeated hover hnext => exact h.repeated hinf (hair _ _) hno htakes hover hnext
  | acked next hover hnext =>
    rw [h.hwCrc, h.cid] at hover
    rw [h.cid] at hnext
    exact h.acked hinf (hair _ _) hno htakes hover hnext

end Waiting

/-- One more frame, whether the call waits or not. -/
theorem Settled.frame (h : Settled s number data l x) (hinf : 0 < s.responseInf)
    (h16 : 16 ≤ s.fsd) (hfsd : s.fsd ≤ 256) (received : Except E FrameVec) :
    Goes s number data l (Run.event step x (.frame received)) := by
  rcases h with ⟨k, h, hno⟩ | ⟨hcall, n, hpace, hdone⟩
  · exact h.frame hinf h16 hfsd hno received
  · have hevent : Run.event step x (.frame received) =
        (⟨x, .frame received, none, x⟩ : Step T E) := by
      rw [Run.event, step_over hcall]
    rw [hevent]
    have hheard : heardBy (⟨x, .frame received, none, x⟩ : Step T E) = none := by
      rw [heardBy, hcall]
    have hmoments : moments (⟨x, .frame received, none, x⟩ : Step T E) = [] := by
      rw [moments, hheard, sentBy, List.drop_length]
      rfl
    refine ⟨number, rfl, Or.inr ⟨hcall, n, ?_, ?_⟩, ?_⟩
    · rw [List.flatMap_append, List.flatMap_singleton, hmoments, List.append_nil]
      exact hpace
    · rintro ⟨e', he', hok⟩
      rcases List.mem_append.mp he' with he' | he'
      · exact hdone ⟨e', he', hok⟩
      · rw [List.mem_singleton.mp he'] at hok
        cases hok
    · intro h
      rw [hheard] at h
      cases h

/-- **The run of a response.** Being settled is an invariant of it (`Run.trace_induction`): it holds
    once the call was made, and every frame keeps it. -/
theorem responding_settled (hinf : 0 < s.responseInf) (h16 : 16 ≤ s.fsd) (hfsd : s.fsd ≤ 256)
    (data : List UInt8) (frames : List (Except E FrameVec)) : ∃ number : Nat → Fin 2, ∃ x,
    number 0 = s.handler.blockNumber ∧ Settled s number data (responding s data frames) x ∧
      ∀ e ∈ responding s data frames, Repeats e := by
  obtain ⟨hcall, hrepeat⟩ := settled_call (E := E) hinf hfsd data
  generalize hstart : Run.event step ⟨s, none⟩ (.call (.sendResponse data) : PiccInput E) = e
    at hcall hrepeat
  have hrun : responding s data frames = e :: Run.trace step e.after (frames.map .frame) := by
    rw [responding, Run.trace_cons, hstart, ← hstart]
    rfl
  obtain ⟨number, hzero, hsettled, hrepeats⟩ : ∃ number : Nat → Fin 2,
      number 0 = s.handler.blockNumber ∧
      Settled s number data (e :: Run.trace step e.after (frames.map .frame))
        (Run.after step e.after (frames.map .frame)) ∧
      ∀ e' ∈ e :: Run.trace step e.after (frames.map .frame), Repeats e' := by
    refine Run.trace_induction (I := fun l x => ∃ number : Nat → Fin 2,
      number 0 = s.handler.blockNumber ∧ Settled s number data (e :: l) x ∧
      ∀ e' ∈ e :: l, Repeats e') ⟨_, rfl, hcall, by simpa using hrepeat⟩ ?_
    rintro l x i hi ⟨number, hzero, hsettled, hrepeats⟩
    obtain ⟨received, -, rfl⟩ := List.mem_map.mp hi
    obtain ⟨number', hzero', hsettled', hrepeat'⟩ := hsettled.frame hinf h16 hfsd received
    refine ⟨number', hzero'.trans hzero, hsettled', ?_⟩
    rw [← List.cons_append]
    intro e' he'
    rcases List.mem_append.mp he' with he' | he'
    · exact hrepeats e' he'
    · rw [List.mem_singleton.mp he']
      exact hrepeat'
  rw [hrun]
  exact ⟨number, _, hzero, hsettled, hrepeats⟩

end Steps

/-- The frames of a response, against its bytes, in the same way; and a request to send again always
    brings the chunk that is not acknowledged.  The numbers are those the handler had. -/
def ResponseDelivered (s : Picc (Logged T)) (data : List UInt8) (frames : List (Except E FrameVec)) :
    Prop := ∃ number : Nat → Fin 2, number 0 = s.handler.blockNumber ∧
  Delivers isIblock (fun frame => airLength s.hwCrc frame ≤ s.fsd) (responseFrame s number data)
    data s.responseInf (∃ e ∈ responding s data frames, e.output = some (.ok .unit))
    ((responding s data frames).flatMap moments) ∧
  ∀ pre e post, responding s data frames = pre ++ e :: post →
    heardBy e = some (.ok .chainingRetransmit) →
    sentBy e = [responseFrame s number data (acks (pre.flatMap moments))]

/-- **Whatever the reader sends.** The transcript of the call is that of a sender that waits for
    acknowledgements, as that of an exchange is. -/
theorem sendResponse_delivers (s : Picc (Logged T)) (hfsd : ∃ fsdi : Fsdi, s.fsd = fsdi.fsd)
    (data : List UInt8) (frames : List (Except E FrameVec)) : ResponseDelivered s data frames := by
  obtain ⟨fsdi, hfsdi⟩ := hfsd
  have hbounds := fsdi.fsd_bounds
  rw [← hfsdi] at hbounds
  have hinf : 0 < s.responseInf := by
    rw [responseInf]
    split <;> omega
  obtain ⟨number, x, hzero, hsettled, hrepeats⟩ :=
    responding_settled hinf hbounds.1 hbounds.2 data frames
  have hdelivers : Delivers isIblock (fun frame => airLength s.hwCrc frame ≤ s.fsd)
      (responseFrame s number data) data s.responseInf
      (∃ e ∈ responding s data frames, e.output = some (.ok .unit))
      ((responding s data frames).flatMap moments) := by
    rcases hsettled with ⟨k, h, hno⟩ | ⟨-, n, hpace, hdone⟩
    · refine Paced.delivers hinf h.pace ?_
      rintro ⟨e, he, hok⟩
      exact absurd hok (hno e he)
    · exact Paced.delivers hinf hpace hdone
  refine ⟨number, hzero, hdelivers, ?_⟩
  intro pre e post hrun hheard
  obtain ⟨frame, hsent, hchunk⟩ := hrepeats e (by rw [hrun]; simp) hheard
  have hmoments : moments e = [.sent frame] := by
    rw [moments, hheard, hsent]
    rfl
  have hmem : (acks (pre.flatMap moments), frame) ∈
      stamped 0 ((responding s data frames).flatMap moments) := by
    rw [hrun, List.flatMap_append, List.flatMap_cons, hmoments, stamped_append, Nat.zero_add]
    exact List.mem_append_right _ List.mem_cons_self
  have hframe : frame = responseFrame s number data (acks (pre.flatMap moments)) :=
    (hdelivers.due _ hmem hchunk).1
  rw [hsent, hframe]

end PiccSession

/-- **Commands and responses are sent in chunks, whole and in order**, within the frame size of the
    other side. -/
theorem chunks_delivered [Build] :
    (∀ (T E : Type) [PcdTransceiver T E] (s : Pcd T), (∃ fsci : Fsci, s.fsc = fsci.fsc) →
      ∀ apdu fuel, s.CommandDelivered apdu fuel) ∧
    (∀ (T E : Type) [PiccTransceiver T E] (s : Picc (Logged T)), (∃ fsdi : Fsdi, s.fsd = fsdi.fsd) →
      ∀ (data : List UInt8) (frames : List (Except E FrameVec)),
        PiccSession.ResponseDelivered s data frames) :=
  ⟨fun _ _ _ s hfsc apdu fuel => s.exchange_delivers hfsc apdu fuel,
    fun _ _ _ s hfsd data frames => PiccSession.sendResponse_delivers s hfsd data frames⟩

/-- A reader with 16-byte frames, and a card that asks for its first chunk again. -/
def hardOfHearing [Build] : Pcd Pcd.Scripted :=
  Pcd.new { answers := [[0xB2], [0xA2], [0x03, 0x90, 0x00]] } (Ats.new .fsc16 0 {} 0) .fsd64 none
    true

/-- A card in a session with a reader of 16-byte frames. -/
def narrowCard [Build] : Picc (Logged Willing) :=
  { Picc.new ({ inner := {} } : Logged Willing)
      { uid := sampleUid, ats := some (Ats.new .fsc256 0 {} Tc.cidSupp) } with
    state := .protocol, fsd := 16 }

/-- Twenty-six bytes, which make two chunks, in both directions; the first one is asked for again. -/
theorem chunks_delivered_twice : let : Build := Build.heapless
    let run := (Pcd.exchange 4 (List.replicate 26 0x5A)).run (Pcd.tallied hardOfHearing)
    let steps := PiccSession.responding narrowCard (List.replicate 26 0x5A)
      [.ok [0xB3], .ok [0xA2]]
    (run.1 = .ok [0x90, 0x00] ∧
      chunkNumbers isIblock (hardOfHearing.transcript run.2.calls) = [0, 0, 1] ∧
      hardOfHearing.CommandDelivered (List.replicate 26 0x5A) 4) ∧
    steps.map (·.output) = [none, none, some (.ok .unit)] ∧
      chunkNumbers isIblock (steps.flatMap PiccSession.moments) = [0, 0, 1] ∧
      PiccSession.ResponseDelivered narrowCard (List.replicate 26 0x5A)
        [.ok [0xB3], .ok [0xA2]] := by
  intro _ run steps
  refine ⟨⟨by decide +kernel, by decide +kernel, ?_⟩, by decide +kernel, by decide +kernel, ?_⟩
  · exact chunks_delivered.1 _ _ hardOfHearing ⟨.fsc16, rfl⟩ _ _
  · exact chunks_delivered.2 _ _ narrowCard ⟨.fsd16, rfl⟩ _ _

end Iso14443
