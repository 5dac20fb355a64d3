/-
  An exchange over the air, with the card thread at the other end.

  What is known of an exchange is known of a reader over a `Link`, whose card goes back to
  `receive_command` whatever happens.  The thread of `example/loopback.rs` gives up on an error and
  ends its session on a DESELECT, so it is that card only as long as it answers, and answers no
  S-Block.

  * `Ending`         — an answer, or none, that the thread may end its session with.
  * `OverAir`        — the reader over the air, and the same reader over the link to its card.
  * `steps_overAir`  — what the reader over the link does is done over the air, until an answer is
                       `Ending`.
  * `exchange_air`   — so an exchange whose answers are known over the link goes the same way.

  The relation is of the kind `Act.Tracks` of `Iso14443.Lib.Relator`: one program follows the other
  until that is lost, and lost it stays, since the log of its calls only grows.  So the walk over
  the reader's operations (`Iso14443.ReaderPair`) is reused here, and only one call has to be
  looked at.
-/
import Iso14443.CardThread
import Iso14443.Loopback
import Iso14443.ReaderPair

namespace Iso14443

open Act

/-! ## Answers

  An S-Block is told by the first byte of its frame, on the air as in the reader's hands. -/

/-- The answer is none, or has the first byte of an S-Block.  These are the answers after which the
    thread may be elsewhere than the card of a `Link`: its application leaves the loop on an error
    and on a DESELECT. -/
def Ending (answer : Except Unit FrameVec) : Prop :=
  match answer with
  | .ok (byte :: _) => byte &&& PcbFlags.blockTypeMask = Pcb.typeBits .sBlock
  | _ => True

/-- The answer with a block is `Ending` exactly for an S-Block. -/
theorem ending_raw {b : Block} (h : b.WellFormed) (hwCrc : Bool) :
    Ending (.ok (b.raw hwCrc)) ↔ b.blockType = .sBlock := by
  have hbits := Pcb.wireByte_typeBits h.pcb b.cid.isSome b.nad.isSome
  have hfirst : Ending (.ok (b.raw hwCrc)) ↔
      Pcb.wireByte b.pcb b.cid.isSome b.nad.isSome &&& PcbFlags.blockTypeMask =
        Pcb.typeBits .sBlock := by
    cases hwCrc <;> rfl
  rw [hfirst, hbits, Block.blockType]
  cases b.pcb.blockType <;> decide

/-- A block with a subtype of the S-Block is one. -/
theorem Block.sBlock_of_subtype {b : Block} (h : b.WellFormed) (hsub : b.pcb.sSubtype ≠ none) :
    b.blockType = .sBlock := by
  have hpcb := h.pcb
  unfold Pcb.WellFormed at hpcb
  rw [Block.blockType]
  cases ht : b.pcb.blockType with
  | iBlock =>
    rw [ht] at hpcb
    exact absurd hpcb.2 hsub
  | rBlock =>
    rw [ht] at hpcb
    exact absurd hpcb.2.2 hsub
  | sBlock => rfl

/-- A reply to an S(DESELECT) is an S-Block that can be sent. -/
theorem Picc.Deselects.ending [Build] {s s' : Picc (Logged Antenna)} (h : s.Deselects s') :
    ∃ raw, s'.sent = s.sent ++ [.standard raw] ∧ Ending (.ok raw) := by
  obtain ⟨b, k, reply, hr, hd, hsent⟩ := h.reply
  have hwf := (Peer.sendable_reply (Nat.le_refl 16) hr).wellFormed
  have hsub : reply.pcb.sSubtype = some .deselect := of_decide_eq_true hd
  refine ⟨_, hsent, (ending_raw hwf _).mpr (Block.sBlock_of_subtype hwf ?_)⟩
  rw [hsub]
  simp

/-! ## One call

  Link and air deliver the same frame to the same card.  What differs is what the application does
  after a call that failed, and then the card has said nothing, or S(DESELECT). -/

namespace Air

variable [Build] {self : Air}

/-- The link to the card of the thread. -/
def link (self : Air) : Link := ⟨self.thread.card, self.fates⟩

/-- Two airs at the same point of a session. -/
structure SameSession (air air' : Air) : Prop where
  inSession : PiccCall.InSession air'.thread.card.session.call
  sessions : air'.thread.sessions = air.thread.sessions

/-- **A call over the air goes as over the link**, unless the answer is `Ending`. -/
theorem transceive_link (hcall : PiccCall.InSession self.thread.card.session.call) (frame : Frame) :
    Ending (PcdTransceiver.transceive self.link frame).1 ∨
      ∃ self' : Air, PcdTransceiver.transceive self frame =
          ((PcdTransceiver.transceive self.link frame).1, self') ∧
        self'.link = (PcdTransceiver.transceive self.link frame).2 ∧ SameSession self self' := by
  obtain ⟨⟨card, sessions⟩, fates⟩ := self
  -- the frame reaches the card, and the answer the reader
  have hdelivered : ∀ rest : List Fate, Ending (Link.answerOf card (card.deliver frame.data)) ∨
      ∃ self' : Air, (Link.answerOf card ((⟨card, sessions⟩ : CardThread).serve frame.data).card,
          ({ thread := (⟨card, sessions⟩ : CardThread).serve frame.data, fates := rest } : Air)) =
            (Link.answerOf card (card.deliver frame.data), self') ∧
        self'.link = ⟨card.deliver frame.data, rest⟩ ∧
        SameSession ⟨⟨card, sessions⟩, fates⟩ self' := by
    intro rest
    rcases @CardThread.serve_deliver _ ⟨card, sessions⟩ hcall frame.data with
      ⟨hserve, hnext⟩ | hsilent | hdeselects
    · right
      rw [hserve]
      exact ⟨_, rfl, rfl, hnext, rfl⟩
    · left
      have hdrop : (card.deliver frame.data).sent.drop card.sent.length = [] :=
        List.drop_eq_nil_of_le hsilent
      rw [Link.answerOf, hdrop]
      trivial
    · left
      obtain ⟨raw, hsent, hend⟩ := hdeselects.ending
      have hsent : (card.deliver frame.data).sent = card.sent ++ [.standard raw] := hsent
      rw [Link.answerOf, hsent, List.drop_left]
      exact hend
  cases fates with
  | nil => exact hdelivered []
  | cons fate fates =>
    cases fate with
    | delivered => exact hdelivered fates
    | frameLost => exact Or.inl trivial
    | answerLost => exact Or.inl trivial

end Air

/-! ## A reader

  The reader over the link keeps a log of its calls.  It is this log that says whether an answer
  could have ended the session, and since it only grows the question is settled once and for all. -/

/-- A reader's session over the air, with a log of its calls. -/
abbrev AirReader := Pcd (Tally Air Unit)

/-- The same reader over the link to the card. -/
def AirReader.linked (s : AirReader) : Reader :=
  { transceiver := ⟨s.transceiver.inner.link, s.transceiver.log⟩, hwCrc := s.hwCrc, fsc := s.fsc,
    fsd := s.fsd, handler := s.handler }

namespace Reader

open Pcd

/-- A call after the first `n` was answered by something `Ending`, or not at all. -/
def Lost (n : Nat) (s : Reader) : Prop := ∃ call ∈ s.calls.drop n, Ending call.2

/-- The reader over the link, and the one over the air: in a session of a thread that has
    `sessions` more to serve, after `n` calls at least. -/
structure OverAir (n sessions : Nat) (s : Reader) (s' : AirReader) : Prop where
  eq : s = s'.linked
  inSession : PiccCall.InSession s'.transceiver.inner.thread.card.session.call
  sessions_eq : s'.transceiver.inner.thread.sessions = sessions
  length : n ≤ s.calls.length

/-- What they see of themselves. -/
def SeesAir (s : Reader) (s' : AirReader) : Prop := SeenAlike s s' ∧ s'.fsd = s.fsd

variable {n sessions : Nat} {s : Reader} {s' : AirReader}

/-- Two readers at the same point see the same of themselves. -/
theorem OverAir.sees (h : OverAir n sessions s s') : SeesAir s s' := by
  rw [h.eq]
  exact ⟨⟨rfl, rfl, rfl, rfl⟩, rfl⟩

/-- Any reader over a link could be over the air. -/
theorem seesAir_total (s : Reader) : ∃ s' : AirReader, SeesAir s s' := by
  refine ⟨{ transceiver := ⟨⟨⟨s.card, 0⟩, []⟩, []⟩, hwCrc := s.hwCrc, fsc := s.fsc, fsd := s.fsd,
            handler := s.handler }, ⟨rfl, rfl, rfl, rfl⟩, rfl⟩

/-- What is lost stays lost. -/
theorem Lost.append {t : Reader} {log : List (Frame × Except Unit FrameVec)} (h : Lost n s)
    (hlog : t.calls = s.calls ++ log) : Lost n t := by
  obtain ⟨call, hmem, hend⟩ := h
  refine ⟨call, ?_, hend⟩
  rw [hlog, List.drop_append]
  exact List.mem_append_left _ hmem

/-- The walk through the two. -/
theorem walk_overAir : Relator (ε := PcdError Unit) SeesAir
    (Tracks (OverAir n sessions) (Lost n)) :=
  relator_tracks (fun _ _ h => h.sees) seesAir_total

variable [Build]

/-- One call: the reader over the air gets the answer that the one over the link gets, or the answer
    is `Ending`, and is lost from then on. -/
theorem tracks_transceive (frame : Frame) :
    Tracks (OverAir n sessions) (Lost n) _
      (transceive frame : Act Reader (PcdError Unit) FrameVec) (transceive frame) := by
  have hlog : ∀ s : Reader, ∃ t answer, PcdTransceiver.transceive s.transceiver frame = (answer, t) ∧
      t.log = s.calls ++ [(frame, answer)] ∧
      t.inner = (PcdTransceiver.transceive s.transceiver.inner frame).2 ∧
      answer = (PcdTransceiver.transceive s.transceiver.inner frame).1 :=
    fun s => ⟨_, _, rfl, rfl, rfl, rfl⟩
  -- a call that was lost stays in the log
  constructor
  · intro s hs
    obtain ⟨t, answer, hrun, ht, -⟩ := hlog s
    refine hs.append (?_ : _ = _ ++ [(frame, answer)])
    show (PcdTransceiver.transceive s.transceiver frame).2.log = _
    rw [hrun]
    exact ht
  · rintro s s' h
    obtain ⟨t, answer, hrun, ht, hinner, hanswer⟩ := hlog s
    obtain rfl := h.eq
    have hcalls : ((transceive frame : Act Reader (PcdError Unit) FrameVec).run s'.linked).2.calls =
        s'.linked.calls ++ [(frame, answer)] := by
      show (PcdTransceiver.transceive s'.linked.transceiver frame).2.log = _
      rw [hrun]
      exact ht
    -- the answer ends the session, or link and air do the same
    rcases Air.transceive_link h.inSession frame with hend | ⟨air, hair, hlink, hsame⟩
    · left
      refine ⟨(frame, answer), ?_, ?_⟩
      · rw [hcalls, List.drop_append_of_le_length h.length]
        simp
      · rw [hanswer]
        exact hend
    · right
      have hair' : PcdTransceiver.transceive s'.transceiver frame =
          (answer, (⟨air, s'.transceiver.log ++ [(frame, answer)]⟩ : Tally Air Unit)) := by
        rw [hanswer]
        exact transceive_tally hair
      have hrun' : PcdTransceiver.transceive s'.linked.transceiver frame =
          (answer, (⟨air.link, s'.transceiver.log ++ [(frame, answer)]⟩ : Tally Link Unit)) := by
        rw [hrun]
        refine Prod.ext rfl ?_
        obtain ⟨inner, log⟩ := t
        obtain rfl : log = _ := ht
        obtain rfl : inner = _ := hinner
        rw [hlink]
        rfl
      have hrel : OverAir n sessions
          (s'.linked.withTransceiver ⟨air.link, s'.transceiver.log ++ [(frame, answer)]⟩)
          (s'.withTransceiver ⟨air, s'.transceiver.log ++ [(frame, answer)]⟩) := by
        refine ⟨rfl, hsame.inSession, hsame.sessions.trans h.sessions_eq, ?_⟩
        show n ≤ (s'.transceiver.log ++ [(frame, answer)]).length
        rw [List.length_append]
        exact Nat.le_trans h.length (Nat.le_add_right _ _)
      constructor
      · show ofExcept (PcdTransceiver.transceive s'.linked.transceiver frame).1 =
          ofExcept (PcdTransceiver.transceive s'.transceiver frame).1
        rw [hrun', hair']
      · show OverAir n sessions
          (s'.linked.withTransceiver (PcdTransceiver.transceive s'.linked.transceiver frame).2)
          (s'.withTransceiver (PcdTransceiver.transceive s'.transceiver frame).2)
        rw [hrun', hair']
        exact hrel

/-- **One block out, one block in.** -/
theorem tracks_transceiveBlock (b : Block) :
    Tracks (OverAir n sessions) (Lost n) _
      (transceiveBlock b : Act Reader (PcdError Unit) Block) (transceiveBlock b) := by
  have walk : Relator (ε := PcdError Unit) SeesAir (Tracks (OverAir n sessions) (Lost n)) :=
    walk_overAir
  refine walk.bind (walk.lift _ _) fun data _ => walk.get_bind fun s s' hs => ?_
  rw [hs.1.hwCrc]
  refine walk.bind (walk.lift _ _) fun frame _ => ?_
  refine walk.bind (tracks_transceive frame) fun resp _ => walk.get_bind fun t t' ht => ?_
  have hparse : t'.parseBlockResponse resp = t.parseBlockResponse resp := by
    simp only [parseBlockResponse, ht.1.hwCrc, ht.2]
  rw [hparse]
  exact walk.lift _ _

omit [Build] in
/-- **What the reader over the link does is done over the air**, until it is lost. -/
theorem steps_overAir {B : Build} : Steps B B SeesAir
    (Tracks (ε := PcdError Unit) (OverAir n sessions) (Lost n)) where
  relator := walk_overAir
  seen _ _ h := h.1
  call := tracks_transceive
  block b _ := tracks_transceiveBlock b
  tried b _ := (tracks_transceiveBlock b).attempt
  builds := Or.inl rfl
  begins := by
    refine .of_alike (.modify fun s hs => hs) (.modify fun s s' hs => ?_)
    obtain rfl := hs.eq
    exact ⟨rfl, hs.inSession, hs.sessions_eq, hs.length⟩
  received b := by
    refine .of_alike (.zoom _ _ fun h s hs => hs) fun s s' hs => ?_
    obtain rfl := hs.eq
    exact ⟨rfl, rfl, hs.inSession, hs.sessions_eq, hs.length⟩

/-- **An exchange whose answers are no S-Blocks goes over the air as it does over the link.** -/
theorem exchange_air (fuel : Nat) (apdu : List UInt8) (s' : AirReader)
    (hcall : PiccCall.InSession s'.transceiver.inner.thread.card.session.call)
    {r : Res (PcdError Unit) ChainVec} {t : Reader} {log : List (Frame × Except Unit FrameVec)}
    (hrun : (exchange fuel apdu).run s'.linked = (r, t)) (hlog : t.calls = s'.linked.calls ++ log)
    (hfine : ∀ call ∈ log, ¬ Ending call.2) :
    ∃ t' : AirReader, (exchange fuel apdu).run s' = (r, t') ∧
      OverAir s'.linked.calls.length s'.transceiver.inner.thread.sessions t t' := by
  have hsteps : Tracks (OverAir s'.linked.calls.length s'.transceiver.inner.thread.sessions)
      (Lost s'.linked.calls.length) _ (exchange fuel apdu) (exchange fuel apdu) :=
    steps_overAir.exchange fuel apdu
  rcases hsteps.2 s'.linked s' ⟨rfl, hcall, rfl, Nat.le_refl _⟩ with hlost | ⟨hres, hrel⟩
  · obtain ⟨call, hmem, hend⟩ := hlost
    rw [hrun, hlog, List.drop_left] at hmem
    exact absurd hend (hfine call hmem)
  · rw [hrun] at hres hrel
    exact ⟨_, Prod.ext hres.symm rfl, hrel⟩

end Reader

end Iso14443
