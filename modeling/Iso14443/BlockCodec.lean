/-
  `Block::to_bytes_without_crc`, `to_vec` and the two parsers: the codec of a block, both ways.

  Neither direction is an identity on the nose, and the file says of each what is lost.

  * **A block written and read again.**  `Same`: equal blocks, but for the raw `flags` of the
    control byte: the copies of the block number and the chaining bit that the builders leave there
    are never written, and the two announcement bits are set anew by the encoder.  Everything that
    any code looks at is the same.
  * **A frame read and written again.**  `clearCid`: what it loses is the upper half of its CID
    byte, which the parser masks off.  The control byte comes back bit for bit: of the bytes that
    are accepted none has a bit the encoder would not set.

  `codec` states both for every well-formed block and for every frame that is accepted.  The second
  half goes by inversion: `fromCrcVerified_eq_ok` says which bytes are read as which block.
-/
import Iso14443.Block

namespace Iso14443

/-- Equal, but for the raw flags of the control byte, which encoding computes anew and which no
    method of a handler reads. -/
structure Block.Same (b b' : Block) : Prop where
  blockType : b'.blockType = b.blockType
  blockNumber : b'.blockNumber = b.blockNumber
  chaining : b'.isChaining = b.isChaining
  rSubtype : b'.pcb.rSubtype = b.pcb.rSubtype
  sSubtype : b'.pcb.sSubtype = b.pcb.sSubtype
  cid : b'.cid = b.cid
  nad : b'.nad = b.nad
  payload : b'.payload = b.payload

/-- A block and what of it goes on the air agree in every field that the source compares. -/
theorem Block.same_wire (b : Block) : b.Same b.wire := ⟨rfl, rfl, rfl, rfl, rfl, rfl, rfl, rfl⟩

/-! ## The control byte read and written again

  The converse of `tryFrom_wireByte`: the bytes that are accepted are those that the encoder makes.
  Checked at the 256 values. -/

namespace Pcb

/-- A control byte that decodes is what its fields encode to: the bits the decoder does not keep are
    the ones it checks. -/
theorem wireByte_tryFrom {byte : UInt8} {pcb : Pcb} (h : tryFrom byte = .ok pcb) :
    pcb.WellFormed ∧ wireByte pcb pcb.cidFollowing pcb.nadFollowing = byte ∧
      pcb.cidFollowing = PcbFlags.contains byte PcbFlags.cidFollowing := by
  have hall : ∀ byte : UInt8, (tryFrom byte >>= fun pcb =>
      if pcb.WellFormed ∧ wireByte pcb pcb.cidFollowing pcb.nadFollowing = byte ∧
        pcb.cidFollowing = PcbFlags.contains byte PcbFlags.cidFollowing
      then .ok () else .panic) ≠ .panic :=
    Byte.forall_of_fin (by decide +kernel)
  have hbyte := hall byte
  rw [h, Res.ok_bind] at hbyte
  by_contra hcon
  rw [if_neg hcon] at hbyte
  exact hbyte rfl

end Pcb

namespace Block

/-! ## The prologue -/

/-- A CID is read exactly when the control byte announces one, from the lower half of its byte. -/
theorem takeCid_eq_ok {data : List UInt8} {pcb : Pcb} {offset next : Nat} {cid : Option Cid}
    (h : takeCid data pcb offset = .ok (cid, next)) :
    cid.isSome = pcb.cidFollowing ∧ next = offset + cid.toList.length ∧
      ∀ c ∈ cid, ∃ byte, data[offset]? = some byte ∧ c.value = byte &&& 0x0F := by
  unfold takeCid at h
  split at h
  · rename_i hfollow
    split at h
    · rename_i hlt
      obtain ⟨byte, hbyte, h⟩ := Res.bind_eq_ok.mp h
      dsimp only at h
      split at h
      · obtain ⟨c, hc, h⟩ := Res.bind_eq_ok.mp h
        obtain ⟨rfl, rfl⟩ := Prod.mk.inj (Res.ok.inj h)
        refine ⟨hfollow.symm, rfl, ?_⟩
        rintro _ ⟨⟩
        refine ⟨byte, ?_, ?_⟩
        · rw [Res.index_of_lt hlt] at hbyte
          rw [List.getElem?_eq_getElem hlt, Res.ok.inj hbyte]
        · cases hnew : Cid.new (byte &&& 0x0F) with
          | none => rw [hnew] at hc; cases hc
          | some c' =>
            rw [hnew] at hc
            obtain rfl : c' = c := Res.ok.inj hc
            exact Cid.value_of_new hnew
      · cases h
    · cases h
  · rename_i hfollow
    obtain ⟨rfl, rfl⟩ := Prod.mk.inj (Res.ok.inj h)
    exact ⟨(Bool.eq_false_iff.mpr hfollow).symm, rfl, by rintro _ ⟨⟩⟩

/-- A NAD is read exactly when the control byte announces one, and only from an I-Block with a
    CID. -/
theorem takeNad_eq_ok {data : List UInt8} {pcb : Pcb} {cid : Option Cid} {offset next : Nat}
    {nad : Option UInt8} (h : takeNad data pcb cid offset = .ok (nad, next)) :
    nad.isSome = pcb.nadFollowing ∧ next = offset + nad.toList.length ∧
      ∀ n ∈ nad, data[offset]? = some n ∧ pcb.blockType = .iBlock ∧ cid.isSome := by
  unfold takeNad at h
  split at h
  · rename_i hfollow
    split at h
    · cases h
    · rename_i htype
      split at h
      · cases h
      · rename_i hcid
        split at h
        · rename_i hlt
          obtain ⟨byte, hbyte, h⟩ := Res.bind_eq_ok.mp h
          obtain ⟨rfl, rfl⟩ := Prod.mk.inj (Res.ok.inj h)
          refine ⟨hfollow.symm, rfl, ?_⟩
          rintro _ ⟨⟩
          rw [Res.index_of_lt hlt] at hbyte
          refine ⟨?_, not_not.mp htype, ?_⟩
          · rw [List.getElem?_eq_getElem hlt, Res.ok.inj hbyte]
          · cases cid with
            | none => exact absurd rfl hcid
            | some c => rfl
        · cases h
  · rename_i hfollow
    obtain ⟨rfl, rfl⟩ := Prod.mk.inj (Res.ok.inj h)
    exact ⟨(Bool.eq_false_iff.mpr hfollow).symm, rfl, by rintro _ ⟨⟩⟩

/-! ## A frame that was read

  An inversion of the parser, field by field: what was read, and from where. -/

/-- A list from a position on, where one element is known. -/
theorem drop_eq_toList_append {data : List UInt8} {offset : Nat} {o : Option UInt8}
    (h : ∀ x ∈ o, data[offset]? = some x) :
    data.drop offset = o.toList ++ data.drop (offset + o.toList.length) := by
  cases o with
  | none => rfl
  | some x =>
    obtain ⟨hlt, hx⟩ := List.getElem?_eq_some_iff.mp (h x rfl)
    rw [List.drop_eq_getElem_cons hlt, hx]
    rfl

/-- **What is read as a block**: the control byte, a CID byte whose lower half is the CID, a NAD, and
    the payload is all that is left. -/
theorem fromCrcVerified_eq_ok [Build] {data : List UInt8} {b : Block}
    (h : fromCrcVerified data = .ok b) :
    ∃ (first : UInt8) (cidByte : Option UInt8),
      data = first :: (cidByte.toList ++ (b.nad.toList ++ b.payload)) ∧
      Pcb.tryFrom first = .ok b.pcb ∧ b.WellFormed ∧
      cidByte.map (· &&& 0x0F) = b.cid.map Cid.value ∧
      b.cid.isSome = b.pcb.cidFollowing ∧ b.nad.isSome = b.pcb.nadFollowing := by
  cases data with
  | nil => cases h
  | cons first tail =>
    rw [fromCrcVerified, if_neg (by simp), Res.index_zero_cons, Res.ok_bind] at h
    obtain ⟨pcb, hpcb, h⟩ := Res.bind_eq_ok.mp h
    obtain ⟨⟨cid, o1⟩, hcid, h⟩ := Res.bind_eq_ok.mp h
    obtain ⟨⟨nad, o2⟩, hnad, h⟩ := Res.bind_eq_ok.mp h
    obtain ⟨rest, hrest, h⟩ := Res.bind_eq_ok.mp h
    obtain ⟨payload, hpay, hb⟩ := Res.bind_eq_ok.mp h
    obtain ⟨-, hpay⟩ := tryExtend_eq_ok.mp hpay
    obtain rfl := Res.ok.inj hb
    obtain ⟨hcidSome, hcidNext, hcidAt⟩ := takeCid_eq_ok hcid
    obtain ⟨hnadSome, hnadNext, hnadAt⟩ := takeNad_eq_ok hnad
    -- what is left is the frame from the cursor on
    have hdrop : payload = (first :: tail).drop o2 := by
      rw [restFrom] at hrest
      split at hrest
      · rw [hpay, List.nil_append]
        exact (Res.ok.inj hrest).symm
      · cases hrest
    have hnadBytes := drop_eq_toList_append fun x hx => (hnadAt x hx).1
    obtain ⟨cidByte, hlength, hmap, hcidBytes⟩ : ∃ cidByte : Option UInt8,
        cidByte.toList.length = cid.toList.length ∧ cidByte.map (· &&& 0x0F) = cid.map Cid.value ∧
        ∀ x ∈ cidByte, (first :: tail)[1]? = some x := by
      cases cid with
      | none => exact ⟨none, rfl, rfl, by rintro _ ⟨⟩⟩
      | some c =>
        obtain ⟨byte, hbyte, hc⟩ := hcidAt c rfl
        refine ⟨some byte, rfl, ?_, ?_⟩
        · rw [Option.map_some, Option.map_some, hc]
        · rintro _ ⟨⟩
          exact hbyte
    refine ⟨first, cidByte, ?_, hpcb, ⟨(Pcb.wireByte_tryFrom hpcb).1, ?_⟩, hmap, hcidSome, hnadSome⟩
    · calc
        first :: tail = first :: (first :: tail).drop 1 := rfl
        _ = first :: (cidByte.toList ++ (first :: tail).drop o1) := by
          rw [drop_eq_toList_append hcidBytes, hlength, hcidNext]
        _ = first :: (cidByte.toList ++ (nad.toList ++ payload)) := by
          rw [hnadBytes, hdrop, hnadNext]
    · intro hsome
      obtain ⟨n, hn⟩ := Option.isSome_iff_exists.mp hsome
      exact (hnadAt n hn).2

/-! ## Both ways -/

/-- The upper half of the CID byte is not kept. -/
def clearCid (data : List UInt8) : List UInt8 :=
  match data with
  | first :: cid :: rest =>
    if PcbFlags.contains first PcbFlags.cidFollowing then first :: (cid &&& 0x0F) :: rest
    else first :: cid :: rest
  | data => data

/-- Clearing a CID byte moves nothing. -/
theorem length_clearCid (data : List UInt8) : (clearCid data).length = data.length := by
  rcases data with _ | ⟨first, _ | ⟨cid, rest⟩⟩
  · rfl
  · rfl
  · rw [clearCid]
    split <;> rfl

/-- What is read and written again. -/
theorem bytes_fromCrcVerified [Build] {data : List UInt8} {b : Block}
    (h : fromCrcVerified data = .ok b) : b.bytes = clearCid data := by
  obtain ⟨first, cidByte, rfl, hpcb, -, hmap, hcid, hnad⟩ := fromCrcVerified_eq_ok h
  obtain ⟨-, hbyte, hfollow⟩ := Pcb.wireByte_tryFrom hpcb
  rw [bytes, prologue, hcid, hnad, hbyte, ← hmap, List.append_assoc]
  rw [← hcid] at hfollow
  cases cidByte with
  | some byte =>
    rw [← Option.isSome_map (f := Cid.value), ← hmap, Option.isSome_map, Option.isSome_some] at hfollow
    show _ = if _ then _ else _
    rw [if_pos hfollow.symm]
    rfl
  | none =>
    rw [← Option.isSome_map (f := Cid.value), ← hmap, Option.isSome_map, Option.isSome_none] at hfollow
    cases hrest : b.nad.toList ++ b.payload with
    | nil => rfl
    | cons x rest =>
      show _ = if _ then _ else _
      rw [← hfollow, if_neg (by simp)]
      rfl

/-- **Decoding undoes encoding, and encoding undoes decoding** up to the upper half of the CID byte. -/
theorem codec [Build] :
    (∀ b : Block, b.WellFormed →
      (∀ data, b.toBytesWithoutCrc = .ok data → ∃ back, fromCrcVerified data = .ok back ∧ b.Same back) ∧
      (∀ data, b.toVec = .ok data → ∃ back, tryFrom data = .ok back ∧ b.Same back)) ∧
    (∀ data b, fromCrcVerified data = .ok b →
      ∀ again, b.toBytesWithoutCrc = .ok again → again = clearCid data) := by
  refine ⟨?_, ?_⟩
  · intro b hb
    have hpayload : ∀ {data}, b.toBytesWithoutCrc = .ok data →
        data = b.bytes ∧ Fits frameCap b.payload.length := by
      intro data hdata
      obtain ⟨hfits, rfl⟩ := toBytesWithoutCrc_eq_ok.mp hdata
      have hlen := b.length_bytes
      exact ⟨rfl, hfits.mono (by omega)⟩
    constructor
    · intro data hdata
      obtain ⟨rfl, hfits⟩ := hpayload hdata
      exact ⟨b.wire, fromCrcVerified_bytes hb hfits, b.same_wire⟩
    · intro data hdata
      obtain ⟨body, hbody, hclosed⟩ := Res.bind_eq_ok.mp hdata
      obtain ⟨rfl, hfits⟩ := hpayload hbody
      obtain ⟨-, rfl⟩ := appendCrcA_eq_ok.mp hclosed
      exact ⟨b.wire, tryFrom_withCrc_bytes hb hfits, b.same_wire⟩
  · intro data b h again hagain
    obtain ⟨-, rfl⟩ := toBytesWithoutCrc_eq_ok.mp hagain
    exact bytes_fromCrcVerified h

/-- An I-Block whose flags were left behind by a builder, and a frame whose CID byte has an upper
    half. -/
theorem codec_sample : let : Build := Build.heapless
    (∃ back, fromCrcVerified [0x0A, 0x03, 0x01] = .ok back ∧
      Same ⟨{ Pcb.new .iBlock with flags := PcbFlags.all }, some 3, none, [0x01]⟩ back) ∧
    ∃ b, fromCrcVerified [0x0A, 0x53, 0x01] = .ok b ∧
      ∃ again, b.toBytesWithoutCrc = .ok again ∧ again = [0x0A, 0x03, 0x01] := by
  intro _
  constructor
  · have hwf : WellFormed ⟨{ Pcb.new .iBlock with flags := PcbFlags.all }, some 3, none, [0x01]⟩ :=
      ⟨⟨rfl, rfl⟩, fun h => by cases h⟩
    exact (codec.1 _ hwf).1 _ rfl
  · refine ⟨_, rfl, _, rfl, ?_⟩
    exact codec.2 [0x0A, 0x53, 0x01] _ rfl _ rfl

end Block

end Iso14443
