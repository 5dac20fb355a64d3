/-
  The command parser against the encoder, and its two entry points against each other.

  Every frame with a CRC_A is read back as the command it was made from, and the same by both entry
  points.  What fails is the anticollision frame that carries five bytes: it has no CRC_A, but
  `Command::try_from` looks for one in its last two bytes.  And HLTA parses as a command whose
  answer cannot be parsed: that arm is marked unreachable.

  * **Commands** are taken as the builders make them (`Buildable`), and compared up to what is on
    the wire (`Same`).
  * **The arms of the parser**, one lemma each: which frames reach it, and as what they are read.
    The one negative fact is `parseOther_ne`: the arm that reads PPS requests and blocks makes no
    anticollision command, so a frame of seven bytes is lost whatever its last two bytes are.
  * `roundTrip_iff` — decoding undoes encoding, but for anticollision commands.
  * `entryPoints_iff` — the entry points agree, but for those frames and for answers to HLTA.  What
    they are given comes in three kinds (`ParserInput`): data with its CRC_A and without, frames
    that carry none, and answers.  Each kind has its own equivalence, and `Regular` is their
    conjunction.
-/
import Iso14443.BlockCodec
import Iso14443.Command

namespace Iso14443

/-- The first byte of a block is that of no other command. -/
theorem Pcb.ne_of_tryFrom {byte : UInt8} {pcb : Pcb} (h : tryFrom byte = .ok pcb) :
    byte ≠ 0x50 ∧ byte ≠ 0xe0 ∧ Cascade.checkSel byte = false := by
  have hall : ∀ byte : UInt8, (tryFrom byte).isOk = true →
      byte ≠ 0x50 ∧ byte ≠ 0xe0 ∧ Cascade.checkSel byte = false :=
    Byte.forall_of_fin (by decide +kernel)
  exact hall byte (by rw [h]; rfl)

namespace Command

/-! ## Commands as their parts make them

  A command has parts with builders of their own (blocks, UID levels), which accept values that no
  parser gives.  These are left out, and what the parts do not write is not compared. -/

/-- The UID bytes are as the parser produces them, and a block is well formed and of the command's
    type. -/
def Buildable : Command → Prop
  | antiCollision cascade _ => cascade.uidCl.Parsed
  | select cascade => cascade.uidCl.Parsed
  | iBlock block => block.WellFormed ∧ block.blockType = .iBlock
  | rBlock block => block.WellFormed ∧ block.blockType = .rBlock
  | sBlock block => block.WellFormed ∧ block.blockType = .sBlock
  | _ => True

/-- The same command, with the same block where it carries one: blocks are compared up to their raw
    flags. -/
inductive Same : Command → Command → Prop
  | refl (c : Command) : Same c c
  | iBlock {b b' : Block} (h : b.Same b') : Same (iBlock b) (iBlock b')
  | rBlock {b b' : Block} (h : b.Same b') : Same (rBlock b) (rBlock b')
  | sBlock {b b' : Block} (h : b.Same b') : Same (sBlock b) (sBlock b')

/-- An anticollision command. -/
def isAntiCollision : Command → Bool
  | antiCollision _ _ => true
  | _ => false

/-- Whether a command is an anticollision can be told on the wire. -/
theorem Same.isAntiCollision {c c' : Command} (h : Same c c') :
    c'.isAntiCollision = c.isAntiCollision := by
  cases h <;> rfl

/-- A block command and what is read of it are the same. -/
theorem same_ofBlock_wire {b : Block} : Same (ofBlock b) (ofBlock b.wire) := by
  have hsame := b.same_wire
  simp only [ofBlock, Block.wire_blockType]
  cases b.blockType with
  | iBlock => exact .iBlock hsame
  | rBlock => exact .rBlock hsame
  | sBlock => exact .sBlock hsame

variable [Build]

/-! ## The arms of the parser

  Which arm a frame reaches is decided by its first bytes and its length.  One lemma for each kind
  of command says that its frame reaches its own arm. -/

/-- The last arm makes a PPS request or a block of its data. -/
theorem parseOther_ne {data : List UInt8} {c : Command} (h : parseOther data = .ok c) :
    c.isAntiCollision = false := by
  unfold parseOther at h
  split at h
  · cases h
  · obtain ⟨first, -, h⟩ := Res.bind_eq_ok.mp h
    split at h
    · obtain ⟨param, -, h⟩ := Res.bind_eq_ok.mp h
      cases h
      rfl
    · split at h
      · rename_i block _
        cases h
        simp only [ofBlock]
        cases block.blockType <;> rfl
      all_goals cases h

/-- Data that is not seven bytes long makes no anticollision command. -/
theorem parseStandard_ne {data : List UInt8} (hlen : data.length ≠ 7) {c : Command}
    (h : parseStandard data = .ok c) : c.isAntiCollision = false := by
  unfold parseStandard at h
  split at h
  · split at h
    · cases h
      rfl
    · split at h
      · obtain ⟨param, -, h⟩ := Res.bind_eq_ok.mp h
        cases h
        rfl
      · exact parseOther_ne h
  · exact absurd rfl hlen
  · exact parseOther_ne h

/-- **A frame of seven bytes is never read as an anticollision command** once its last two bytes are
    taken for a CRC_A. -/
theorem parseClosed_ne {value : List UInt8} (hlen : value.length = 7) {c : Command}
    (h : parseClosed value = .ok c) : c.isAntiCollision = false := by
  obtain ⟨data, hdata, hparse⟩ := Res.bind_eq_ok.mp h
  rw [splitCrcA_eq_ok.mp hdata, length_withCrc] at hlen
  exact parseStandard_ne (by omega) hparse

/-- From three bytes on there is a CRC_A to check. -/
theorem tryFrom_of_length {value : List UInt8} (h : 3 ≤ value.length) :
    tryFrom value = parseClosed value := by
  match value with
  | [] => simp at h
  | [_] => simp at h
  | [_, _] => simp at h
  | _ :: _ :: _ :: _ => rfl

/-- A closed frame is read as its data is. -/
theorem tryFrom_withCrc {data : List UInt8} (h : data ≠ []) :
    tryFrom (withCrc data) = parseStandard data := by
  have hpos := List.length_pos_of_ne_nil h
  rw [tryFrom_of_length (by rw [length_withCrc]; omega), parseClosed, splitCrcA_withCrc,
    Res.ok_bind]

/-- Data that starts like a block gets to the last arm. -/
theorem parseStandard_other {first : UInt8} {rest : List UInt8} (h0 : first ≠ 0x50)
    (h1 : first ≠ 0xe0) (h2 : Cascade.checkSel first = false) :
    parseStandard (first :: rest) = parseOther (first :: rest) := by
  unfold parseStandard
  split
  · rename_i heq
    cases heq
    rw [if_neg (fun h => h0 h.1), if_neg h1]
  · rename_i heq
    cases heq
    rw [h2, if_neg Bool.false_ne_true]
  · rfl

/-- **A block is read as its command.** -/
theorem parseStandard_block {b : Block} (h : b.WellFormed) (hp : Fits frameCap b.payload.length) :
    parseStandard b.bytes = .ok (ofBlock b.wire) := by
  obtain ⟨h0, h1, h2⟩ := Pcb.ne_of_tryFrom (Pcb.tryFrom_wireByte h.pcb b.cid.isSome b.nad.isSome)
  have hpps := Pcb.wireByte_ne_pps h.pcb b.cid.isSome b.nad.isSome
  have hread := Block.fromCrcVerified_bytes h hp
  rw [Block.bytes] at hread ⊢
  rw [parseStandard_other h0 h1 h2, parseOther, if_neg (by simp), Res.index_zero_cons, Res.ok_bind,
    if_neg hpps, hread]

/-- **A SEL, an NVB and five bytes are read as the level they are of.** -/
theorem parseStandard_cascade {cascade : Cascade} (h : cascade.uidCl.Parsed)
    (nvb : NumberOfValidBits) : parseStandard (cascade.code :: nvb.toByte :: cascade.uidCl.bytes) =
      .ok (if nvb.has40DataBits then select cascade else antiCollision cascade nvb) := by
  obtain ⟨a, b, c, d, e, hb⟩ : ∃ a b c d e, cascade.uidCl.bytes = [a, b, c, d, e] := by
    cases cascade.uidCl <;> exact ⟨_, _, _, _, _, rfl⟩
  rw [hb]
  show (if Cascade.checkSel cascade.code then parseSelect cascade.code nvb.toByte #v[a, b, c, d, e]
    else parseOther _) = _
  rw [if_pos cascade.checkSel_code, parseSelect, cascadeOf, Cascade.tryFrom_code h hb]
  simp only [Res.mapErr_ok, Res.ok_bind, NumberOfValidBits.tryFrom_toByte]
  split <;> rfl

/-! ## Decoding undoes encoding

  Command by command.  The direction that fails does so for one command and for every value of
  it. -/

/-- A block on the wire, and what is read of it. -/
theorem toVec_block {b : Block} (hb : b.WellFormed) {bytes : FrameVec} (h : b.toVec = .ok bytes) :
    ∃ data c', data ≠ [] ∧ bytes = withCrc data ∧ parseStandard data = .ok c' ∧
      Same (ofBlock b) c' := by
  obtain ⟨data, hdata, hclosed⟩ := Res.bind_eq_ok.mp h
  obtain ⟨hfits, rfl⟩ := Block.toBytesWithoutCrc_eq_ok.mp hdata
  obtain ⟨-, rfl⟩ := appendCrcA_eq_ok.mp hclosed
  have hlen := b.length_bytes
  refine ⟨b.bytes, ofBlock b.wire, ?_, rfl, ?_, same_ofBlock_wire⟩
  · exact List.ne_nil_of_length_pos (by omega)
  · exact parseStandard_block hb (hfits.mono (by omega))

/-- What `to_vec` makes of a command that carries a CRC_A: data closed with it, from which the
    parser gets the command.  REQA and WUPA carry none, and are read as they are. -/
theorem toVec_closed {c : Command} (hc : c.Buildable) (hanti : c.isAntiCollision = false)
    {bytes : FrameVec} (h : c.toVec = .ok bytes) :
    (∃ data c', data ≠ [] ∧ bytes = withCrc data ∧ parseStandard data = .ok c' ∧ Same c c') ∨
      tryFrom bytes = .ok c := by
  cases c with
  | reqA => exact Or.inr (by obtain ⟨-, rfl⟩ := tryPush_eq_ok.mp h; rfl)
  | wupA => exact Or.inr (by obtain ⟨-, rfl⟩ := tryPush_eq_ok.mp h; rfl)
  | antiCollision _ _ => cases hanti
  | select cascade =>
    -- from here on the frame is closed with a CRC_A, and the parser opens it
    rw [toVec, Cascade.raw_eq, Res.ok_bind] at h
    obtain ⟨-, rfl⟩ := appendCrcA_eq_ok.mp h
    exact Or.inl ⟨_, _, by simp, rfl, parseStandard_cascade hc .select, .refl _⟩
  | hltA =>
    obtain ⟨-, rfl⟩ := appendCrcA_eq_ok.mp h
    exact Or.inl ⟨_, _, by simp, rfl, rfl, .refl _⟩
  | rats param =>
    obtain ⟨-, rfl⟩ := appendCrcA_eq_ok.mp h
    refine Or.inl ⟨_, rats param, by simp, rfl, ?_, .refl _⟩
    -- the arms of the parser before that of RATS
    show (if (0xe0 : UInt8) = 0x50 ∧ param.toByte = 0x00 then .ok hltA
      else if (0xe0 : UInt8) = 0xe0 then do
        let param ← RatsParam.tryFrom param.toByte
        .ok (rats param)
      else parseOther [0xe0, param.toByte] : Res TypeAError Command) = _
    rw [if_neg (by simp), if_pos rfl, RatsParam.tryFrom_toByte, Res.ok_bind]
  | pps param =>
    obtain ⟨-, rfl⟩ := appendCrcA_eq_ok.mp h
    refine Or.inl ⟨_, pps param, by simp, rfl, ?_, .refl _⟩
    have hfirst : ∀ cid : Cid, (0xd0 + cid.value) &&& 0xF0 = 0xD0 := by decide
    show parseOther _ = _
    rw [parseOther, if_neg (by simp), Res.index_zero_cons, Res.ok_bind, if_pos (hfirst _),
      PpsParam.fromCrcVerified_bytes, Res.ok_bind]
  | iBlock b =>
    -- a block goes to the last arm, and is told by its type
    obtain ⟨hwf, ht⟩ := hc
    have hof : ofBlock b = iBlock b := by rw [ofBlock, ht]
    exact hof ▸ Or.inl (toVec_block hwf h)
  | rBlock b =>
    obtain ⟨hwf, ht⟩ := hc
    have hof : ofBlock b = rBlock b := by rw [ofBlock, ht]
    exact hof ▸ Or.inl (toVec_block hwf h)
  | sBlock b =>
    obtain ⟨hwf, ht⟩ := hc
    have hof : ofBlock b = sBlock b := by rw [ofBlock, ht]
    exact hof ▸ Or.inl (toVec_block hwf h)

/-- An anticollision command makes seven bytes, and no CRC_A. -/
theorem length_toVec_antiCollision {cascade : Cascade} {nvb : NumberOfValidBits} {bytes : FrameVec}
    (h : (antiCollision cascade nvb).toVec = .ok bytes) : bytes.length = 7 := by
  rw [toVec, Cascade.raw_eq] at h
  cases h
  simp [UidCl.length_bytes]

/-- **Decoding undoes encoding, but for anticollision commands.** -/
theorem roundTrip_iff (c : Command) (hc : c.Buildable) (bytes : FrameVec)
    (h : c.toVec = .ok bytes) :
    (∃ c', tryFrom bytes = .ok c' ∧ Same c c') ↔ c.isAntiCollision = false := by
  constructor
  · rintro ⟨c', hread, hsame⟩
    rw [← hsame.isAntiCollision]
    cases c with
    | antiCollision cascade nvb =>
      have hlen := length_toVec_antiCollision h
      rw [tryFrom_of_length (by omega)] at hread
      exact parseClosed_ne hlen hread
    | _ => exact hsame.isAntiCollision
  · intro hanti
    rcases toVec_closed hc hanti h with ⟨data, c', hne, rfl, hparse, hsame⟩ | hread
    · exact ⟨c', (tryFrom_withCrc hne).trans hparse, hsame⟩
    · exact ⟨c, hread, .refl c⟩

omit [Build] in
/-- A chained I-Block with a CID and a NAD comes back. -/
theorem roundTrip_iff_block : let : Build := Build.heapless
    let b : Block := { pcb := (Pcb.new .iBlock).withChaining true, cid := some 3, nad := some 7,
                       payload := [1, 2] }
    ∃ bytes, (iBlock b).toVec = .ok bytes ∧ ∃ c', tryFrom bytes = .ok c' ∧ Same (iBlock b) c' := by
  intro _ b
  have hvec : (iBlock b).toVec = .ok (withCrc b.bytes) := by decide +kernel
  refine ⟨_, hvec, (roundTrip_iff (iBlock b) ⟨⟨by decide, ?_⟩, rfl⟩ _ hvec).mpr rfl⟩
  exact fun _ => ⟨rfl, rfl⟩

/-- The anticollision command for a card that gave 01 02 03 04. -/
def sampleAntiCollision : Command :=
  antiCollision (.level1 (.final 0x01 0x02 0x03 0x04)) .anticollision

omit [Build] in
/-- **An anticollision command is encoded, and not decoded.** -/
theorem not_roundTrip : let : Build := Build.heapless
    sampleAntiCollision.Buildable ∧
      sampleAntiCollision.toVec = .ok [0x93, 0x20, 0x01, 0x02, 0x03, 0x04, 0x04] ∧
      ∀ c', tryFrom [0x93, 0x20, 0x01, 0x02, 0x03, 0x04, 0x04] ≠ .ok c' := by
  intro _
  refine ⟨show (0x01 : UInt8) ≠ 0x88 by decide, by decide, ?_⟩
  have hcrc : tryFrom [0x93, 0x20, 0x01, 0x02, 0x03, 0x04, 0x04] =
      .err (.invalidCrc (crcA [0x93, 0x20, 0x01, 0x02, 0x03])) := by decide +kernel
  intro c'
  rw [hcrc]
  simp

/-! ## The two entry points

  `try_from` on what is on the wire against `from_crc_verified` on what a transceiver leaves
  of it. -/

/-- The frames that carry no CRC_A: REQA, WUPA, and the anticollision frames.  The documentation of
    the parsers says of these, and of no others, that both entry points read them alike. -/
inductive CrcFree : List UInt8 → Prop
  | reqA : CrcFree [0x26]
  | wupA : CrcFree [0x52]
  /-- SEL and NVB alone. -/
  | short (sel nvb : UInt8) (hsel : Cascade.checkSel sel = true) : CrcFree [sel, nvb]
  /-- SEL, an NVB that is not the one of a SELECT, and five bytes with their BCC. -/
  | full (sel : UInt8) (nvb : NumberOfValidBits) (uid : UidCl) (hsel : Cascade.checkSel sel = true)
      (hnvb : nvb.toByte ≠ 0x70) (huid : uid.Parsed) : CrcFree (sel :: nvb.toByte :: uid.bytes)

/-- What the two entry points are given: one gets the bytes as they come off the air, the other one
    what a transceiver has left of them. -/
inductive ParserInput where
  /-- A frame without CRC_A. -/
  | bare (frame : List UInt8)
  /-- Data, and the two bytes behind it. -/
  | standard (data : List UInt8) (crc0 crc1 : UInt8)
  /-- An answer to a command. -/
  | answer (command : Command) (data : List UInt8)

/-- The command has an answer with a CRC_A. -/
def answeredClosed : Command → Bool
  | reqA | wupA | antiCollision _ _ => false
  | _ => true

/-- The answer as it comes off the wire. -/
def onWire (c : Command) (data : List UInt8) : List UInt8 :=
  if c.answeredClosed then withCrc data else data

namespace ParserInput

/-- The frame is of the kind it is given as, and the command is one that parses. -/
def Legit : ParserInput → Prop
  | bare frame => CrcFree frame
  | standard data crc0 crc1 => ¬ CrcFree data ∧ ¬ CrcFree (data ++ [crc0, crc1])
  | answer command _ => ∃ frame, tryFrom frame = .ok command ∨ fromCrcVerified frame = .ok command

/-- The two entry points agree, and neither panics on an answer. -/
def Agrees : ParserInput → Prop
  | bare frame => tryFrom frame = fromCrcVerified frame
  | standard data crc0 crc1 =>
    if crcA data = (crc0, crc1) then tryFrom (data ++ [crc0, crc1]) = fromCrcVerified data
    else ∃ e, tryFrom (data ++ [crc0, crc1]) = .err e
  | answer command data =>
    command.parseAnswer (command.onWire data) = command.parseAnswerCrcVerified data ∧
      (command.parseAnswerCrcVerified data).Returns

/-- All inputs but an anticollision frame of seven bytes, and an answer to HLTA. -/
def Regular : ParserInput → Prop
  | bare frame => frame.length ≠ 7
  | standard _ _ _ => True
  | answer command _ => command ≠ hltA

end ParserInput

/-- Data with a CRC_A is parsed alike. -/
theorem fromCrcVerified_of_not_crcFree {data : List UInt8} (h : ¬ CrcFree data) :
    fromCrcVerified data = parseStandard data := by
  unfold fromCrcVerified
  split
  · rename_i first
    rw [if_neg, if_neg]
    · rintro rfl
      exact h .wupA
    · rintro rfl
      exact h .reqA
  · rename_i sel nvb
    cases hsel : Cascade.checkSel sel with
    | false => rfl
    | true => exact absurd (.short sel nvb hsel) h
  · rfl

/-- A frame that is not one of those without CRC_A is checked for one. -/
theorem tryFrom_of_not_crcFree {value : List UInt8} (h : ¬ CrcFree value) :
    tryFrom value = parseClosed value := by
  unfold tryFrom
  split
  · rename_i first
    rw [if_neg, if_neg]
    · rintro rfl
      exact h .wupA
    · rintro rfl
      exact h .reqA
  · rename_i sel nvb
    cases hsel : Cascade.checkSel sel with
    | false => rfl
    | true => exact absurd (.short sel nvb hsel) h
  · rfl

omit [Build] in
/-- The bytes in the place of the CRC_A decide. -/
theorem splitCrcA_append (data : List UInt8) (crc0 crc1 : UInt8) :
    splitCrcA (data ++ [crc0, crc1]) =
      if crcA data = (crc0, crc1) then .ok data else .err (.invalidCrc (crcA data)) := by
  by_cases hcrc : crcA data = (crc0, crc1)
  · rw [if_pos hcrc]
    exact splitCrcA_eq_ok.mpr (by rw [withCrc, hcrc])
  · rw [if_neg hcrc]
    simp [splitCrcA, hcrc]

/-- **The two entry points agree on data and its CRC_A.** -/
theorem agrees_standard {data : List UInt8} {crc0 crc1 : UInt8}
    (h : (ParserInput.standard data crc0 crc1).Legit) :
    (ParserInput.standard data crc0 crc1).Agrees := by
  obtain ⟨hdata, hframe⟩ := h
  have hparse : tryFrom (data ++ [crc0, crc1]) =
      (if crcA data = (crc0, crc1) then .ok data else .err (.invalidCrc (crcA data))) >>=
        parseStandard := by
    rw [tryFrom_of_not_crcFree hframe, parseClosed, splitCrcA_append]
  show if crcA data = (crc0, crc1) then tryFrom (data ++ [crc0, crc1]) = fromCrcVerified data
    else ∃ e, tryFrom (data ++ [crc0, crc1]) = .err e
  by_cases hcrc : crcA data = (crc0, crc1)
  · rw [if_pos hcrc, hparse, if_pos hcrc, fromCrcVerified_of_not_crcFree hdata, Res.ok_bind]
  · rw [if_neg hcrc, hparse, if_neg hcrc]
    exact ⟨_, rfl⟩

/-- **Without a CRC_A they agree on all frames but those of seven bytes.** -/
theorem agrees_bare_iff {frame : List UInt8} (h : CrcFree frame) :
    tryFrom frame = fromCrcVerified frame ↔ frame.length ≠ 7 := by
  cases h with
  | reqA => exact ⟨fun _ => by simp, fun _ => rfl⟩
  | wupA => exact ⟨fun _ => by simp, fun _ => rfl⟩
  | short sel nvb hsel =>
    refine ⟨fun _ => by simp, fun _ => ?_⟩
    simp only [tryFrom, fromCrcVerified, hsel, if_true]
  | full sel nvb uid hsel hnvb huid =>
    have hlen : (sel :: nvb.toByte :: uid.bytes).length = 7 := by simp [UidCl.length_bytes]
    refine ⟨fun heq => ?_, fun hne => absurd hlen hne⟩
    -- one reads an anticollision command, the other does not
    obtain ⟨cascade, rfl, rfl⟩ : ∃ cascade : Cascade, cascade.code = sel ∧ cascade.uidCl = uid := by
      simp only [Cascade.checkSel, Bool.or_eq_true, decide_eq_true_eq] at hsel
      rcases hsel with (rfl | rfl) | rfl
      · exact ⟨.level1 uid, rfl, rfl⟩
      · exact ⟨.level2 uid, rfl, rfl⟩
      · exact ⟨.level3 uid, rfl, rfl⟩
    have hread : fromCrcVerified (cascade.code :: nvb.toByte :: cascade.uidCl.bytes) =
        parseStandard (cascade.code :: nvb.toByte :: cascade.uidCl.bytes) := by
      cases cascade.uidCl <;> rfl
    rw [hread, parseStandard_cascade huid nvb, tryFrom_of_length (by omega), if_neg] at heq
    · have hno := parseClosed_ne hlen heq
      cases hno
    · exact fun h40 => hnvb (NumberOfValidBits.toByte_of_has40DataBits h40)

/-- **An answer is read alike**, off the wire and without its CRC_A; and that to HLTA panics, in
    both.  There is no answer to an HLTA: a card that is halted says nothing. -/
theorem agrees_answer_iff (c : Command) (data : List UInt8) :
    (ParserInput.answer c data).Agrees ↔ c ≠ hltA := by
  constructor
  · rintro ⟨-, hret⟩ rfl
    exact hret
  · intro hne
    cases c with
    | reqA | wupA => exact ⟨rfl, (AtqA.tryFrom_returns data).bind fun _ _ => trivial⟩
    | antiCollision => exact ⟨rfl, (UidCl.tryFrom_returns data).bind fun _ _ => trivial⟩
    | select =>
      refine ⟨?_, (Sak.fromCrcVerified_returns data).bind fun _ _ => trivial⟩
      show (do let sak ← Sak.tryFrom (withCrc data); .ok (.sak sak) : Res _ Answer) = _
      rw [Sak.tryFrom, splitCrcA_withCrc]
      rfl
    | hltA => exact absurd rfl hne
    | rats =>
      refine ⟨?_, (Ats.fromCrcVerified_returns data).bind fun _ _ => trivial⟩
      show (do let ats ← Ats.tryFrom (withCrc data); .ok (.ats ats) : Res _ Answer) = _
      rw [Ats.tryFrom, splitCrcA_withCrc]
      rfl
    | pps =>
      refine ⟨?_, (PpsResp.fromCrcVerified_returns data).bind fun _ _ => trivial⟩
      show (do let cid ← PpsResp.tryFrom (withCrc data); .ok (.pps cid) : Res _ Answer) = _
      rw [PpsResp.tryFrom, splitCrcA_withCrc]
      rfl
    | iBlock | rBlock | sBlock =>
      refine ⟨?_, (Block.fromCrcVerified_returns data).bind fun _ _ => trivial⟩
      show (do let block ← Block.tryFrom (withCrc data); .ok (.block block) : Res _ Answer) = _
      rw [Block.tryFrom, splitCrcA_withCrc]
      rfl

/-- **The entry points agree, but for anticollision frames of seven bytes and answers to HLTA.** -/
theorem entryPoints_iff (i : ParserInput) (h : i.Legit) : i.Agrees ↔ i.Regular := by
  cases i with
  | bare frame => exact agrees_bare_iff h
  | standard data crc0 crc1 => exact ⟨fun _ => trivial, fun _ => agrees_standard h⟩
  | answer command data => exact agrees_answer_iff command data

/-- The same frame to both: an anticollision command, and a wrong CRC_A. -/
def sampleFrame : List UInt8 := [0x93, 0x20, 0x01, 0x02, 0x03, 0x04, 0x04]

omit [Build] in
/-- An anticollision with all four UID bytes carries no CRC_A. -/
theorem crcFree_sampleFrame : CrcFree sampleFrame :=
  .full 0x93 .anticollision (.final 0x01 0x02 0x03 0x04) (by decide) (by decide)
    (show (0x01 : UInt8) ≠ 0x88 by decide)

omit [Build] in
/-- Every frame without CRC_A starts with the byte of a request, or with a SEL. -/
theorem not_crcFree_cons {first : UInt8} {rest : List UInt8} (hreqA : first ≠ 0x26)
    (hwupA : first ≠ 0x52) (hsel : Cascade.checkSel first = false) : ¬ CrcFree (first :: rest) := by
  intro h
  cases h with
  | reqA => exact hreqA rfl
  | wupA => exact hwupA rfl
  | short sel nvb h => exact absurd h (by simp [hsel])
  | full sel nvb uid h => exact absurd h (by simp [hsel])

/-- A RATS: frames of 256 bytes, and no CID. -/
def sampleRats : List UInt8 := [0xe0, 0x80]

omit [Build] in
/-- One input of each kind is read alike: a SEL and an NVB alone; a RATS with its CRC_A, which parses,
    and with a wrong one; and the ATS on that RATS, on the wire and without its CRC_A. -/
theorem entryPoints_iff_sample : let : Build := Build.heapless
    fromCrcVerified sampleRats = .ok (.rats ⟨.fsd256, 0⟩) ∧
      (ParserInput.bare [0x95, 0x20]).Agrees ∧
      (ParserInput.standard sampleRats 0x31 0x73).Agrees ∧
      (ParserInput.standard sampleRats 0x31 0x74).Agrees ∧
      (ParserInput.answer (.rats ⟨.fsd256, 0⟩) [0x05, 0x78, 0x80, 0x40, 0x02]).Agrees := by
  have hrats : @fromCrcVerified Build.heapless sampleRats = .ok (.rats ⟨.fsd256, 0⟩) := rfl
  have hclosed : ∀ rest, ¬ CrcFree (0xe0 :: rest) := fun rest =>
    not_crcFree_cons (by decide) (by decide) (by decide)
  have hbare := (@entryPoints_iff Build.heapless (.bare [0x95, 0x20])
    (.short 0x95 0x20 (by decide))).mpr (show 2 ≠ 7 by decide)
  have hanswer := (@entryPoints_iff Build.heapless
    (.answer (.rats ⟨.fsd256, 0⟩) [0x05, 0x78, 0x80, 0x40, 0x02]) ⟨sampleRats, Or.inr hrats⟩).mpr
    (fun h => by cases h)
  refine ⟨hrats, hbare, ?_, ?_, hanswer⟩
  · rw [@entryPoints_iff Build.heapless (.standard sampleRats 0x31 0x73)
      ⟨hclosed [0x80], hclosed [0x80, 0x31, 0x73]⟩]
    trivial
  · rw [@entryPoints_iff Build.heapless (.standard sampleRats 0x31 0x74)
      ⟨hclosed [0x80], hclosed [0x80, 0x31, 0x74]⟩]
    trivial

omit [Build] in
/-- **The entry points read one anticollision frame in two ways**, and the answer to an HLTA, which
    parses, panics in both. -/
theorem not_entryPoints : let : Build := Build.heapless
    CrcFree sampleFrame ∧ fromCrcVerified sampleFrame = .ok sampleAntiCollision ∧
      tryFrom sampleFrame = .err (.invalidCrc (crcA [0x93, 0x20, 0x01, 0x02, 0x03])) ∧
      ¬ (ParserInput.bare sampleFrame).Agrees ∧
      fromCrcVerified [0x50, 0x00] = .ok hltA ∧ hltA.parseAnswer [] = .panic ∧
      hltA.parseAnswerCrcVerified [] = .panic := by
  intro _
  have hverified : fromCrcVerified sampleFrame = .ok sampleAntiCollision := by decide +kernel
  have hwire : tryFrom sampleFrame = .err (.invalidCrc (crcA [0x93, 0x20, 0x01, 0x02, 0x03])) := by
    decide +kernel
  refine ⟨crcFree_sampleFrame, hverified, hwire, ?_, rfl, rfl, rfl⟩
  intro h
  have heq : tryFrom sampleFrame = fromCrcVerified sampleFrame := h
  rw [hverified, hwire] at heq
  cases heq

end Command

end Iso14443
