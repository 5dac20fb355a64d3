/-
  Higher limits, and larger buffers.

  The limits of a reader can be set at any time, and the crate is built with and without `alloc`.
  Neither changes what a session is.  A reader whose limits are at least as high, in a build whose
  buffers are at least as large, does what the other one does, operation by operation and frame by
  frame, until the other one runs out: fails an exchange for one of its limits, or for a full
  buffer.

  * `Raised`             — two handlers that differ in their limits only; their counters are equal,
                           so a comparison can come out differently in one way only.
  * `follows_…`          — what the handlers do with a block.  Every method of the handler is a
                           sequence of assignments that leave the limits alone (`follows_modify`)
                           and of comparisons that the higher limits pass as well
                           (`follows_failIf`).
  * `steps_raised`       — what the readers do with a call; `Iso14443.ReaderPair` does the rest.
  * `ReaderOp.Raised`    — the same operation, with limits at least as high.
  * `report`             — an operation with its error, which `ReaderSession.step` leaves out.
  * `raised_follows`     — every sequence of operations, values and errors alike.

  The relation is of the kind `Act.Follows`: it says nothing from the moment on in which the lower
  limits run out.  After that the two chains differ, and the two sessions go their own ways.
-/
import Iso14443.ReaderPair

namespace Iso14443

open Act

/-! ## What is at least as high

  Limits are compared one by one, and a build by its buffers. -/

/-- `Limits` at most as high as others, each of the five on its own. -/
structure Limits.AtMost (L L' : Limits) : Prop where
  frames : L.maxFrames ≤ L'.maxFrames
  retransmissions : L.maxRetransmissions ≤ L'.maxRetransmissions
  consecutiveWtx : L.maxConsecutiveWtx ≤ L'.maxConsecutiveWtx
  totalWtx : L.maxTotalWtx ≤ L'.maxTotalWtx
  chainLen : L.maxChainLen ≤ L'.maxChainLen

/-- Limits are at most as high as themselves. -/
theorem Limits.AtMost.refl (L : Limits) : L.AtMost L :=
  ⟨Nat.le_refl _, Nat.le_refl _, Nat.le_refl _, Nat.le_refl _, Nat.le_refl _⟩

/-- A build whose buffers are at most as large. -/
def Build.AtMost (B B' : Build) : Prop := B.alloc = true → B'.alloc = true

/-- The default limits follow the buffers. -/
theorem Limits.default_atMost {B B' : Build} (h : B.AtMost B') :
    (@Limits.default B).AtMost (@Limits.default B') := by
  refine ⟨Nat.le_refl _, Nat.le_refl _, Nat.le_refl _, Nat.le_refl _, ?_⟩
  show @defaultMaxChainLen B ≤ @defaultMaxChainLen B'
  unfold defaultMaxChainLen
  cases hB : B.alloc with
  | true => rw [h hB]
  | false =>
    rw [if_neg Bool.false_ne_true]
    split <;> omega

/-- What fits the chain buffer of the one fits that of the other. -/
theorem tryExtend_atMost {B B' : Build} (h : B.AtMost B') (chain payload : List UInt8) :
    tryExtend (@chainCap B) chain payload = .err .bufferFull ∨
      tryExtend (@chainCap B) chain payload = tryExtend (@chainCap B') chain payload := by
  by_cases hfits : Fits (@chainCap B) (chain.length + payload.length)
  · right
    have hfits' : Fits (@chainCap B') (chain.length + payload.length) := by
      unfold chainCap at hfits ⊢
      cases hB : B.alloc with
      | true => simp [h hB, Fits]
      | false =>
        rw [hB] at hfits
        split
        · simp [Fits]
        · exact hfits
    rw [tryExtend_of_fits hfits, tryExtend_of_fits hfits']
  · exact Or.inl (if_neg hfits)

/-- A limit that a block can run into, or a full buffer. -/
def RanOut : TypeAError → Prop
  | .limitExceeded .frames => True
  | .limitExceeded .retransmissions => True
  | .limitExceeded .consecutiveWtx => True
  | .limitExceeded .totalWtx => True
  | .limitExceeded .chainLength => True
  | .bufferFull => True
  | _ => False

/-! ## A handler

  The methods of the handler, in the order of the source. -/

namespace ProtocolHandler

/-- The same handler, with limits at least as high. -/
def Raised (h h' : ProtocolHandler) : Prop :=
  ∃ limits, h.limits.AtMost limits ∧ h' = { h with limits }

/-- Two handlers on the same block. -/
abbrev FollowsRaised {α : Type} (m m' : Act ProtocolHandler TypeAError α) : Prop :=
  Follows Raised RanOut α m m'

/-- The walk through a method of the two. -/
theorem walk : Relator (ε := TypeAError) Raised (Follows Raised RanOut) :=
  relator_follows Raised RanOut

/-- The assignment neither reads the limits nor changes them. -/
def LeavesLimits (f : ProtocolHandler → ProtocolHandler) : Prop :=
  ∀ h limits, f { h with limits } = { f h with limits } ∧ (f h).limits = h.limits

/-- **An assignment that leaves the limits alone** keeps two handlers related, whatever it does. -/
theorem follows_modify {f : ProtocolHandler → ProtocolHandler} (hf : LeavesLimits f) :
    FollowsRaised (Act.modify f) (Act.modify f) := by
  refine .of_alike (.modify ?_)
  rintro h _ ⟨L, hL, rfl⟩
  obtain ⟨hcomm, hkeep⟩ := hf h L
  exact ⟨L, hkeep.symm ▸ hL, hcomm⟩

/-- What follows may look at the handler: the second one is the first one under higher limits. -/
theorem follows_get {α : Type} {f f' : ProtocolHandler → Act ProtocolHandler TypeAError α}
    (hf : ∀ h L, h.limits.AtMost L → FollowsRaised (f h) (f' { h with limits := L })) :
    FollowsRaised (Act.get >>= f) (Act.get >>= f') := by
  refine walk.get_bind ?_
  rintro h _ ⟨L, hL, rfl⟩
  exact hf h L hL

/-- A limit is exceeded by the lower one first. -/
theorem follows_failIf {past past' : Prop} [Decidable past] [Decidable past'] (h : past' → past)
    {limit : Limit} (hlimit : RanOut (.limitExceeded limit)) :
    FollowsRaised (failIf past limit) (failIf past' limit) := by
  unfold failIf
  by_cases hp : past
  · rw [if_pos hp]
    exact fun s s' _ => Or.inl ⟨_, hlimit, rfl⟩
  · rw [if_neg hp, if_neg (mt h hp)]
    exact walk.pure ()

/-- A counter goes up, and is compared with its limit. -/
theorem follows_noteFrame : FollowsRaised noteFrame noteFrame :=
  walk.bind (follows_modify fun _ _ => ⟨rfl, rfl⟩) fun _ _ => follows_get fun _ _ hL =>
    follows_failIf (Nat.lt_of_le_of_lt hL.frames) trivial

/-- A repeat passes any limit that is at least as high. -/
theorem follows_noteRetransmit : FollowsRaised noteRetransmit noteRetransmit :=
  walk.bind (follows_modify fun _ _ => ⟨rfl, rfl⟩) fun _ _ => follows_get fun _ _ hL =>
    follows_failIf (Nat.lt_of_le_of_lt hL.retransmissions) trivial

/-- The larger buffer takes what the smaller one does. -/
theorem follows_extendChain {B B' : Build} (hB : B.AtMost B') (payload : List UInt8) :
    FollowsRaised (@extendChain B payload) (@extendChain B' payload) := by
  refine follows_get fun h L hL => ?_
  rcases tryExtend_atMost hB h.chain payload with hfull | hsame
  · intro s s' _
    left
    refine ⟨.bufferFull, trivial, ?_⟩
    rw [Act.run_bind, Act.run_lift, hfull]
    rfl
  · show FollowsRaised (Act.lift id (tryExtend (@chainCap B) h.chain payload) >>= _)
      (Act.lift id (tryExtend (@chainCap B') h.chain payload) >>= _)
    rw [hsame]
    exact walk.bind (walk.lift _ _) fun chain _ => follows_modify fun _ _ => ⟨rfl, rfl⟩

/-- **An I-Block.** -/
theorem follows_processIblock {B B' : Build} (hB : B.AtMost B') (block : Block) :
    FollowsRaised (@processIblock B block) (@processIblock B' block) := by
  refine follows_get fun h L hL => ?_
  refine walk.ite (fun _ => ?_) fun _ => ?_
  · -- a repeat: nothing is taken in
    exact walk.bind follows_noteRetransmit fun _ _ => follows_get fun _ _ _ => walk.pure _
  · by_cases hchain : h.chain.length + block.payload.length > h.limits.maxChainLen
    · rw [if_pos hchain]
      exact fun s s' _ => Or.inl ⟨.limitExceeded .chainLength, trivial, rfl⟩
    · have hchain' : ¬ h.chain.length + block.payload.length > L.maxChainLen :=
        fun hlt => hchain (Nat.lt_of_le_of_lt hL.chainLen hlt)
      rw [if_neg hchain, if_neg hchain']
      refine walk.bind (follows_modify fun _ _ => ⟨rfl, rfl⟩) fun _ _ => ?_
      refine walk.bind (follows_extendChain hB _) fun _ _ => ?_
      refine walk.bind (follows_modify fun _ _ => ⟨rfl, rfl⟩) fun _ _ => follows_get fun k L hL => ?_
      refine walk.ite (fun _ => walk.pure _) fun _ => ?_
      exact walk.bind (follows_modify fun _ _ => ⟨rfl, rfl⟩) fun _ _ => walk.pure _

/-- **An R-Block.** Its branches depend on the role and the numbers, which are equal; only the count
    of the retransmission can come out differently. -/
theorem follows_processRblock (block : Block) :
    FollowsRaised (processRblock block) (processRblock block) := by
  have hagain : FollowsRaised (do noteRetransmit; pure Action.chainingRetransmit)
      (do noteRetransmit; pure .chainingRetransmit) :=
    walk.bind follows_noteRetransmit fun _ _ => walk.pure _
  have hgoOn : FollowsRaised
      (do
        Act.modify fun self => { self with counters := self.counters.noteProgress }
        Act.modify toggleBlockNumber
        pure Action.chainingAck)
      (do
        Act.modify fun self => { self with counters := self.counters.noteProgress }
        Act.modify toggleBlockNumber
        pure .chainingAck) :=
    walk.bind (follows_modify fun _ _ => ⟨rfl, rfl⟩) fun _ _ =>
      walk.bind (follows_modify fun _ _ => ⟨rfl, rfl⟩) fun _ _ => walk.pure _
  refine follows_get fun h L hL => ?_
  cases hrole : h.role with
  | pcd =>
    cases block.pcb.rSubtype with
    | none => exact walk.throw _
    | some subtype =>
      cases subtype with
      | ack => exact walk.ite (fun _ => hgoOn) fun _ => hagain
      | nak => exact hagain
  | picc =>
    cases block.pcb.rSubtype with
    | none => exact walk.throw _
    | some subtype =>
      refine walk.ite (fun _ => hagain) fun _ => ?_
      cases subtype with
      | ack => exact hgoOn
      | nak => exact walk.pure _

/-- **An S-Block.**  A request for more time that is out of range is refused by both. -/
theorem follows_processSblock (block : Block) :
    FollowsRaised (processSblock block) (processSblock block) := by
  have hcount : ∀ f : Counters → Counters, FollowsRaised
      (Act.modify fun self => { self with counters := f self.counters })
      (Act.modify fun self => { self with counters := f self.counters }) :=
    fun f => follows_modify fun _ _ => ⟨rfl, rfl⟩
  have hcheck : FollowsRaised (checkWtx block) (checkWtx block) := by
    refine walk.ite (fun _ => ?_) fun _ =>
      walk.bind (follows_modify fun _ _ => ⟨rfl, rfl⟩) fun _ _ => walk.throw _
    refine walk.bind (hcount _) fun _ _ => follows_get fun _ _ hL => ?_
    refine walk.bind (follows_failIf (Nat.lt_of_le_of_lt hL.consecutiveWtx) trivial) fun _ _ => ?_
    refine walk.bind (hcount _) fun _ _ => follows_get fun _ _ hL => ?_
    exact follows_failIf (Nat.lt_of_le_of_lt hL.totalWtx) trivial
  unfold processSblock
  cases block.pcb.sSubtype with
  | none => exact walk.throw _
  | some subtype =>
    cases subtype with
    | wtx => exact walk.bind hcheck fun _ _ => follows_get fun _ _ _ => walk.pure _
    | deselect =>
      refine follows_get fun _ _ _ => ?_
      exact walk.bind (follows_modify fun _ _ => ⟨rfl, rfl⟩) fun _ _ => walk.pure _
    | rBlock => exact walk.throw _
    | sBlock => exact walk.throw _

/-- **A block is processed alike**, or the lower limits are exceeded. -/
theorem follows_processReceived {B B' : Build} (hB : B.AtMost B') (block : Block) :
    FollowsRaised (@processReceived B block) (@processReceived B' block) := by
  refine walk.bind follows_noteFrame fun _ _ => ?_
  cases block.blockType with
  | iBlock => exact follows_processIblock hB block
  | rBlock => exact follows_processRblock block
  | sBlock => exact follows_processSblock block

end ProtocolHandler

/-! ## A reader

  The steps of the reader, for the walk of `Iso14443.ReaderPair`. -/

/-- What fits a buffer of 256 bytes is read alike. -/
theorem Block.fromCrcVerified_build (B B' : Build) {data : List UInt8} (hlen : data.length ≤ 256) :
    @Block.fromCrcVerified B data = @Block.fromCrcVerified B' data := by
  have hext : ∀ (C : Build) (offset : Nat) (rest : List UInt8), restFrom data offset = some rest →
      tryExtend (@frameCap C) [] rest = .ok ([] ++ rest) := by
    intro C offset rest hrest
    refine tryExtend_of_fits (@fits_frameCap C _ ?_)
    unfold restFrom at hrest
    split at hrest
    · cases hrest
      simp
      omega
    · cases hrest
  unfold Block.fromCrcVerified
  split
  · rfl
  · refine congrArg _ (funext fun byte => congrArg _ (funext fun pcb => ?_))
    refine congrArg _ (funext fun p => ?_)
    obtain ⟨cid, offset⟩ := p
    dsimp only
    refine congrArg _ (funext fun q => ?_)
    obtain ⟨nad, offset⟩ := q
    dsimp only
    cases hrest : restFrom data offset with
    | none => rfl
    | some rest => simp only [Res.okOr_some, Res.ok_bind, hext B _ _ hrest, hext B' _ _ hrest]

/-- An error of a reader that ran out. -/
def PcdError.RanOut {E : Type} (e : PcdError E) : Prop :=
  ∃ error, Iso14443.RanOut error ∧ e = .protocol error

namespace Pcd

variable {T E : Type}

/-- The same reader, with limits at least as high.  Its card takes frames of `fsc` bytes, and it has
    the CID `cid`. -/
structure Raised (fsc : Nat) (cid : Option Cid) (s s' : Pcd T) : Prop where
  limits : ∃ limits, s.handler.limits.AtMost limits ∧ s' = s.setLimits limits
  fsc_eq : s.fsc = fsc
  cid_eq : s.handler.cid = cid
  fsd_le : s.fsd ≤ 256

variable {fsc : Nat} {cid : Option Cid}

/-- An answer is read alike. -/
theorem parseBlockResponse_build (B B' : Build) {s : Pcd T} (hfsd : s.fsd ≤ 256)
    (raw : List UInt8) : @parseBlockResponse T B s raw = @parseBlockResponse T B' s raw := by
  unfold parseBlockResponse
  split
  · split
    · rfl
    · exact Block.fromCrcVerified_build B B' (by omega)
  · split
    · rfl
    · unfold Block.tryFrom
      cases hsplit : splitCrcA raw with
      | ok body =>
        have hbody : body.length ≤ 256 := by
          rw [splitCrcA_eq_ok] at hsplit
          subst hsplit
          rw [length_withCrc] at *
          omega
        exact Block.fromCrcVerified_build B B' hbody
      | err e => rfl
      | panic => rfl
      | outOfFuel => rfl

variable [PcdTransceiver T E]

/-- A call of the transceiver. -/
theorem alike_transceive (frame : Frame) : Alike (Raised fsc cid)
    (transceive frame : Act (Pcd T) (PcdError E) FrameVec) (transceive frame) := by
  rintro s s' hs
  obtain ⟨L, hL, rfl⟩ := hs.limits
  exact ⟨rfl, ⟨L, hL, rfl⟩, hs.fsc_eq, hs.cid_eq, hs.fsd_le⟩

/-- **One block out, one block in.** The frame is the same in both builds where the block is short,
    and the answer is read without a buffer. -/
theorem alike_transceiveBlock {B B' : Build} {b : Block} (hb : Short B B' b) :
    Alike (Raised fsc cid) (@transceiveBlock T E B _ b) (@transceiveBlock T E B' _ b) := by
  have hframe : ∀ hwCrc : Bool, ∃ r, @Block.toBytesWithoutCrc B b = r ∧
      @Block.toBytesWithoutCrc B' b = r ∧
        ∀ data, r = .ok data → @frameOf B hwCrc data = @frameOf B' hwCrc data := by
    intro hwCrc
    rcases hb with rfl | hlen
    · exact ⟨_, rfl, rfl, fun _ _ => rfl⟩
    · refine ⟨.ok b.bytes, @Block.toBytesWithoutCrc_of_fits B _ (@fits_frameCap B _ (by omega)),
        @Block.toBytesWithoutCrc_of_fits B' _ (@fits_frameCap B' _ (by omega)), ?_⟩
      rintro _ ⟨rfl⟩
      rw [@frameOf_of_fits B hwCrc _ hlen, @frameOf_of_fits B' hwCrc _ hlen]
  have walk := relator_alike (ε := PcdError E) (Raised (T := T) fsc cid)
  obtain ⟨r, hB, hB', -⟩ := hframe true
  unfold transceiveBlock
  rw [hB, hB']
  refine walk.bind (walk.lift _ _) fun data hdata => walk.get_bind fun s s' hs => ?_
  obtain ⟨L, hL, rfl⟩ := hs.limits
  obtain ⟨r', hr, -, hsame⟩ := hframe s.hwCrc
  have hfr : @frameOf B s.hwCrc data = @frameOf B' s.hwCrc data :=
    hsame data (hr.symm.trans (hB.trans (gives_lift hdata)))
  show Alike _ (lift (@frameOf B s.hwCrc data) >>= _) (lift (@frameOf B' s.hwCrc data) >>= _)
  rw [hfr]
  refine walk.bind (walk.lift _ _) fun frame _ => ?_
  refine walk.bind (alike_transceive frame) fun resp _ => walk.get_bind fun s s' hs => ?_
  obtain ⟨L, hL, rfl⟩ := hs.limits
  show Alike _ (lift (@parseBlockResponse T B s resp)) (lift (@parseBlockResponse T B' s resp))
  rw [parseBlockResponse_build B B' hs.fsd_le]
  exact walk.lift _ _

/-- The walk over the reader sees the two sides alike. -/
theorem Raised.seenAlike {s s' : Pcd T} (h : Raised fsc cid s s') : SeenAlike s s' := by
  obtain ⟨L, -, rfl⟩ := h.limits
  exact ⟨rfl, rfl, rfl, rfl⟩

/-- The calls are the same. -/
theorem callSteps_alike (B B' : Build) :
    CallSteps B B' (Raised (T := T) fsc cid) (fun _ => Act.Alike (Raised fsc cid)) where
  relator := relator_alike _
  seen _ _ h := h.seenAlike
  call := alike_transceive
  block _ hb := alike_transceiveBlock hb
  tried _ hb := (alike_transceiveBlock hb).attempt

/-- **The steps of the reader with the higher limits follow.** -/
theorem steps_raised {B B' : Build} (hB : B.AtMost B') (hfsc : fsc ≤ 256) :
    Steps B B' (Raised (T := T) fsc cid)
      (Act.Follows (Raised fsc cid) (PcdError.RanOut (E := E))) where
  relator := relator_follows _ _
  seen _ _ h := h.seenAlike
  call frame := .of_alike (alike_transceive frame)
  block _ hb := .of_alike (alike_transceiveBlock hb)
  tried _ hb := .of_alike (alike_transceiveBlock hb).attempt
  builds := Or.inr ⟨fsc, cid, hfsc, fun _ _ h => ⟨h.fsc_eq, h.cid_eq⟩⟩
  begins := by
    refine .of_alike (.modify fun s s' hs => ?_)
    obtain ⟨L, hL, rfl⟩ := hs.limits
    exact ⟨⟨L, hL, rfl⟩, hs.fsc_eq, hs.cid_eq, hs.fsd_le⟩
  received b := by
    refine (ProtocolHandler.follows_processReceived hB b).zoom ?_ ?_ fun e he => ⟨e, he, rfl⟩
    · intro s s' hs
      obtain ⟨L, hL, rfl⟩ := hs.limits
      exact ⟨L, hL, rfl⟩
    · rintro s s' hs ⟨L, hL, heq⟩
      obtain ⟨L', hL', rfl⟩ := hs.limits
      refine ⟨⟨L, hL, ?_⟩, hs.fsc_eq, ?_, hs.fsd_le⟩
      · rw [heq]; rfl
      · exact (@ProtocolHandler.receive_cid B s.handler b).trans hs.cid_eq

end Pcd

/-! ## Every sequence of operations

  `ReaderSession.step` gives an operation its outcome and leaves out which error it ended with, since
  the two CRC modes name a broken CRC differently.  Here nothing is left out: `report` is the same
  operation with its error, and it is that error, too, that higher limits do not change. -/

/-- The error of an operation. -/
inductive ReaderError (E : Type) where
  | activation (error : ActivationError E)
  | session (error : PcdError E)

/-- How an operation ended, with its error. -/
def reported {E ε α : Type} (r : Res ε α) (error : ε → ReaderError E) (value : α → ReaderValue) :
    Res (ReaderError E) ReaderValue := do
  let a ← r.mapErr error
  .ok (value a)

/-- Without its error, a report is what the session sees. -/
theorem erase_reported {E ε α : Type} (r : Res ε α) (error : ε → ReaderError E)
    (value : α → ReaderValue) : (reported r error value).erase = seen r value := by
  cases r with
  | ok a => rfl
  | err e => rfl
  | panic => rfl
  | outOfFuel => rfl

/-- The same operation, with limits at least as high. -/
inductive ReaderOp.Raised : ReaderOp → ReaderOp → Prop
  | same (op : ReaderOp) : Raised op op
  | setLimits {L L' : Limits} (h : L.AtMost L') : Raised (.setLimits L) (.setLimits L')

namespace ReaderSession

variable {T E : Type}

/-- An operation without a session, with its error. -/
def reportField {α : Type} (m : Act T (ActivationError E) α) (value : α → ReaderValue) (t : T) :
    Option (Res (ReaderError E) ReaderValue) × ReaderSession T :=
  let (r, t) := m.run t
  (some (reported r .activation value), .field t)

/-- An operation of a session, with its error. -/
def reportSession {α : Type} (m : Act (Pcd T) (PcdError E) α) (value : α → ReaderValue)
    (pcd : Pcd T) : Option (Res (ReaderError E) ReaderValue) × ReaderSession T :=
  let (r, pcd) := m.run pcd
  (some (reported r .session value), .session pcd)

/-- **One operation, with its error.** -/
def report [Build] [PcdTransceiver T E] (self : ReaderSession T) (op : ReaderOp) :
    Option (Res (ReaderError E) ReaderValue) × ReaderSession T :=
  match self, op with
  | .field t, .activate => reportField Activation.activate .activated t
  | .field t, .wakeup => reportField Activation.wakeup .activated t
  | .field t, .connect fsdi cid =>
    match (Pcd.connect fsdi cid).run t with
    | (.ok (pcd, ats), _) => (some (.ok (.connected ats)), .session pcd)
    | (r, t) => (some (reported r .session fun p => .connected p.2), .field t)
  | .session pcd, .setLimits limits => (some (.ok .done), .session (pcd.setLimits limits))
  | .session pcd, .pps dri dsi => reportSession (Pcd.pps dri dsi) (fun _ => .done) pcd
  | .session pcd, .exchange fuel apdu => reportSession (Pcd.exchange fuel apdu) .response pcd
  | .session pcd, .deselect => reportSession Pcd.deselect (fun _ => .done) pcd
  | .session pcd, .release => (some (.ok .done), .field pcd.transceiver)
  | self, _ => (none, self)

/-- The same for an operation on the field. -/
theorem erase_reportField {α : Type} (m : Act T (ActivationError E) α) (value : α → ReaderValue)
    (t : T) : onField m value t =
      ((reportField m value t).1.map Res.erase, (reportField m value t).2) := by
  have herase := erase_reported (E := E) (m.run t).1 .activation value
  show (some (seen (m.run t).1 value), field (m.run t).2) =
    (some (reported (m.run t).1 ReaderError.activation value).erase, field (m.run t).2)
  rw [herase]

/-- The same for an operation of a session. -/
theorem erase_reportSession {α : Type} (m : Act (Pcd T) (PcdError E) α) (value : α → ReaderValue)
    (pcd : Pcd T) : onSession m value pcd =
      ((reportSession m value pcd).1.map Res.erase, (reportSession m value pcd).2) := by
  have herase := erase_reported (E := E) (m.run pcd).1 .session value
  show (some (seen (m.run pcd).1 value), session (m.run pcd).2) =
    (some (reported (m.run pcd).1 ReaderError.session value).erase, session (m.run pcd).2)
  rw [herase]

/-- **It is the operation of `step`**, whose outcome leaves the error out. -/
theorem step_eq_report [Build] [PcdTransceiver T E] (s : ReaderSession T) (op : ReaderOp) :
    step (E := E) s op = ((report (E := E) s op).1.map Res.erase, (report (E := E) s op).2) := by
  cases s with
  | field t =>
    cases op with
    | activate => exact erase_reportField Activation.activate .activated t
    | wakeup => exact erase_reportField Activation.wakeup .activated t
    | connect fsdi cid =>
      simp only [step, report]
      rcases (Pcd.connect (E := E) fsdi cid).run t with ⟨⟨pcd, ats⟩ | e | _ | _, t'⟩
      · rfl
      · rfl
      · rfl
      · rfl
    | setLimits | pps | exchange | deselect | release => rfl
  | session pcd =>
    cases op with
    | pps dri dsi => exact erase_reportSession (Pcd.pps dri dsi) (fun _ => .done) pcd
    | exchange fuel apdu => exact erase_reportSession (Pcd.exchange fuel apdu) .response pcd
    | deselect => exact erase_reportSession Pcd.deselect (fun _ => .done) pcd
    | activate | wakeup | connect | setLimits | release => rfl

/-- The two readers at the same point of the same program, over the same transceiver. -/
inductive Raised : ReaderSession T → ReaderSession T → Prop
  | field (t : T) : Raised (.field t) (.field t)
  | session {pcd pcd' : Pcd T} {fsc : Nat} {cid : Option Cid} (hfsc : fsc ≤ 256)
      (h : Pcd.Raised fsc cid pcd pcd') : Raised (.session pcd) (.session pcd')

/-- Both readers stand over the same transceiver. -/
theorem Raised.transceiver {s s' : ReaderSession T} (h : Raised s s') :
    s'.transceiver = s.transceiver := by
  cases h with
  | field => rfl
  | session _ h =>
    obtain ⟨L, -, rfl⟩ := h.limits
    rfl

variable [PcdTransceiver T E]

/-- The operation is an exchange that runs into one of its limits, or fills its buffer. -/
def RunsOut (B : Build) (s : ReaderSession T) (op : ReaderOp) : Prop :=
  ∃ pcd fuel apdu e, s = .session pcd ∧ op = .exchange fuel apdu ∧ PcdError.RanOut e ∧
    ((@Pcd.exchange T E B _ fuel apdu).run pcd).1 = .err e

omit [PcdTransceiver T E] in
/-- An operation without a session does not know of limits. -/
theorem raised_reportField {α : Type} {m m' : Act T (ActivationError E) α} (value : α → ReaderValue)
    (hm : Act.Alike Eq m m') (t : T) :
    (reportField m value t).1 = (reportField m' value t).1 ∧
      Raised (reportField m value t).2 (reportField m' value t).2 := by
  obtain ⟨hres, hstate⟩ := hm t t rfl
  have hrun : m.run t = m'.run t := Prod.ext hres hstate
  rw [reportField, reportField, hrun]
  exact ⟨rfl, .field _⟩

omit [PcdTransceiver T E] in
/-- Where the results are the same, they are reported the same. -/
theorem raised_reportSession {α : Type} {m m' : Act (Pcd T) (PcdError E) α}
    (value : α → ReaderValue) {pcd pcd' : Pcd T} {fsc : Nat} {cid : Option Cid} (hfsc : fsc ≤ 256)
    (hm : (m.run pcd).1 = (m'.run pcd').1 ∧ Pcd.Raised fsc cid (m.run pcd).2 (m'.run pcd').2) :
    (reportSession m value pcd).1 = (reportSession m' value pcd').1 ∧
      Raised (reportSession m value pcd).2 (reportSession m' value pcd').2 :=
  ⟨congrArg (fun r => some (reported r .session value)) hm.1, .session hfsc hm.2⟩

/-- **One operation**: it runs out, or it ends alike.  Of all operations only an exchange has limits
    to run into; the others are walked through as two equal readers. -/
theorem raised_report {B B' : Build} (hB : B.AtMost B') {s s' : ReaderSession T} (h : Raised s s')
    {op op' : ReaderOp} (hop : op.Raised op') : RunsOut B s op ∨
      ((@report T E B _ s op).1 = (@report T E B' _ s' op').1 ∧
        Raised (@report T E B _ s op).2 (@report T E B' _ s' op').2) := by
  -- without a session the two readers are the same
  have hfield : Activation.FieldSteps (T := T) Eq (fun _ => Act.Alike Eq) :=
    { relator := relator_alike Eq
      call := by rintro frame t _ rfl; exact ⟨rfl, rfl⟩
      probe := by rintro t _ rfl; exact ⟨rfl, rfl⟩ }
  cases h with
  | field t =>
    right
    cases hop with
    | setLimits h => exact ⟨rfl, .field t⟩
    | same op =>
      cases op with
      | activate => exact raised_reportField _ (hfield.doActivate B B' (Or.inl rfl)) t
      | wakeup => exact raised_reportField _ (hfield.doActivate B B' (Or.inr rfl)) t
      | connect fsdi cid =>
        have hread := Pcd.readAts_related (relator_alike (ε := PcdError E) (Eq (α := T)))
          (by rintro frame t _ rfl; exact ⟨rfl, rfl⟩) B B' (Pcd.probed t) fsdi cid
          (PcdTransceiver.tryEnableHwCrc t).2 _ rfl
        have hsame := Prod.ext hread.1 hread.2
        simp only [report]
        rw [Pcd.run_connect B, Pcd.run_connect B', ← hsame]
        -- the ATS starts a session under default limits, which follow the buffers
        rcases (Pcd.readAts B (Pcd.probed t) fsdi cid).run (PcdTransceiver.tryEnableHwCrc t).2 with
          ⟨ats | _ | _ | _, t'⟩
        · refine ⟨rfl, .session ats.format.fsci.fsc_bounds.2 ⟨⟨@Limits.default B', ?_, rfl⟩, rfl,
            rfl, fsdi.fsd_bounds.2⟩⟩
          exact Limits.default_atMost hB
        all_goals exact ⟨rfl, .field t'⟩
      | setLimits | pps | exchange | deselect | release => exact ⟨rfl, .field t⟩
  | @session pcd pcd' fsc cid hfsc h =>
    cases hop with
    | @setLimits L L' hL =>
      right
      obtain ⟨L₀, -, rfl⟩ := h.limits
      exact ⟨rfl, .session hfsc ⟨⟨L', hL, rfl⟩, h.fsc_eq, h.cid_eq, h.fsd_le⟩⟩
    | same op =>
      cases op with
      | setLimits L =>
        right
        obtain ⟨L₀, -, rfl⟩ := h.limits
        exact ⟨rfl, .session hfsc ⟨⟨L, .refl L, rfl⟩, h.fsc_eq, h.cid_eq, h.fsd_le⟩⟩
      | pps dri dsi =>
        exact Or.inr (raised_reportSession _ hfsc ((Pcd.callSteps_alike B B').pps dri dsi _ _ h))
      | exchange fuel apdu =>
        -- the one operation that can run out
        rcases (Pcd.steps_raised hB hfsc).exchange fuel apdu _ _ h with ⟨e, he, hrun⟩ | hrel
        · exact Or.inl ⟨pcd, fuel, apdu, e, rfl, rfl, he, hrun⟩
        · exact Or.inr (raised_reportSession _ hfsc hrel)
      | deselect =>
        exact Or.inr (raised_reportSession _ hfsc ((Pcd.callSteps_alike B B').deselect _ _ h))
      | release =>
        obtain ⟨L₀, -, rfl⟩ := h.limits
        exact Or.inr ⟨rfl, .field _⟩
      | activate | wakeup | connect => exact Or.inr ⟨rfl, .session hfsc h⟩

/-- **Higher limits and larger buffers change nothing that worked.**  Over one wire, whatever the card
    answers, as long as no exchange of the one reader runs into a limit or fills its buffer, the
    other one ends every operation alike, and has sent and received the same. -/
theorem raised_follows {B B' : Build} (hB : B.AtMost B') (t : T) {ops ops' : List ReaderOp}
    (hops : List.Forall₂ ReaderOp.Raised ops ops')
    (hgo : ∀ e ∈ Run.trace (@report T E B _) (.field t) ops, ¬ RunsOut B e.before e.input) :
    List.Forall₂ (fun e e' => e.output = e'.output ∧ e'.after.transceiver = e.after.transceiver)
      (Run.trace (@report T E B _) (.field t) ops) (Run.trace (@report T E B' _) (.field t) ops') := by
  have hstep : ∀ (s s' : ReaderSession T) (op op' : ReaderOp), Raised s s' → op.Raised op' →
      RunsOut B s op ∨ ((@report T E B _ s op).1 = (@report T E B' _ s' op').1 ∧
        Raised (@report T E B _ s op).2 (@report T E B' _ s' op').2) :=
    fun _ _ _ _ h hop => raised_report hB h hop
  have hruns := Run.trace_follows _ hstep (.field t) hops hgo
  exact hruns.imp fun e e' h => ⟨h.1, h.2.transceiver⟩

/-- An outcome with a limit in it, or a full buffer. -/
def blamesLimit : Option (Res (ReaderError E) ReaderValue) → Bool
  | some (.err (.session (.protocol (.limitExceeded _)))) => true
  | some (.err (.session (.protocol .bufferFull))) => true
  | _ => false

/-- An operation whose outcome blames no limit has not run out. -/
theorem not_runsOut {B : Build} {s : ReaderSession T} {op : ReaderOp}
    (h : blamesLimit (@report T E B _ s op).1 = false) : ¬ RunsOut B s op := by
  rintro ⟨pcd, fuel, apdu, e, rfl, rfl, ⟨error, hran, rfl⟩, hrun⟩
  have hreport : (@report T E B _ (.session pcd) (.exchange fuel apdu)).1 =
      some (.err (.session (.protocol error))) := by
    show some (reported ((@Pcd.exchange T E B _ fuel apdu).run pcd).1 .session .response) = _
    rw [hrun]
    rfl
  rw [hreport] at h
  cases error with
  | limitExceeded limit => cases h
  | bufferFull => cases h
  | _ => exact hran.elim

/-- A card that asks for more time once, and is gone after its response. -/
def slowCard : Pcd.Scripted := ⟨[[0x05, 0x78, 0x80, 0x40, 0x02], [0xf2, 0x01], [0x02, 0x90, 0x00]]⟩

/-- One exchange, in a session that grants it `n` requests for more time, and a DESELECT. -/
def patient (n : Nat) (hn : n ≤ u16Max) : List ReaderOp :=
  let limits : Limits := @Limits.default Build.heapless
  [.connect .fsd16 0, .setLimits { limits with maxTotalWtx := n, totalWtx_le := hn },
    .exchange 3 [0xb0], .deselect]

/-- The card asks no more often than either session grants; both find it gone, with the same error. -/
theorem raised_follows_sample :
    List.Forall₂ (fun e e' => e.output = e'.output ∧ e'.after.transceiver = e.after.transceiver)
      (Run.trace (@report Pcd.Scripted Unit Build.heapless _) (.field slowCard) (patient 1 (by decide)))
      (Run.trace (@report Pcd.Scripted Unit Build.heap _) (.field slowCard) (patient 2 (by decide))) := by
  have hB : Build.heapless.AtMost Build.heap := fun h => by cases h
  refine raised_follows hB slowCard ?_ ?_
  · refine .cons (.same _) (.cons (.setLimits ?_) (.cons (.same _) (.cons (.same _) .nil)))
    exact ⟨Nat.le_refl _, Nat.le_refl _, Nat.le_refl _, by decide, Nat.le_refl _⟩
  · -- no outcome of the first session blames a limit
    have hall : ((Run.trace (@report Pcd.Scripted Unit Build.heapless _) (.field slowCard)
        (patient 1 (by decide))).all fun e => !blamesLimit e.output) = true := by decide +kernel
    intro e he
    have hno := List.all_eq_true.mp hall e he
    rw [(Run.event_eq_of_mem he).1, Bool.not_eq_true'] at hno
    exact not_runsOut hno

end ReaderSession

end Iso14443
