/-
  The ATS as a language: which bytes are one, and when one comes back from its bytes.

  1. **The cursor** (`takeIf_eq_ok`, `fromCrcVerified_eq_ok`): one field of the parser at a time.
     A field that is announced is read where the cursor stands and moves it by one, any other keeps
     its default and leaves the cursor alone.  `Parsed` is what the parser does, in these terms.
  2. **The grammar** (`InGrammar`), in terms of the bytes alone, and written apart from the cursor:
     TL, then either nothing at all or T0, the interface bytes T0 announces, and historical bytes.
     What can be wrong is an FSCI above 8, a half of TB(1) that is 15, a TL that does not count the
     bytes, and too few of them.
  3. **The positions** (`Reads`): where each field is read, by the presence bits before it.
     `fromCrcVerified_iff_grammar` is the agreement: the parser accepts exactly the grammar, and
     what it gives is what the positions say.
  4. **There and back.**  Every ATS that the library hands out is canonical: what is not announced
     has its default (`Made.canonical`).  So what `to_bytes` makes is read back exactly when TL can
     count it (`roundTrips_iff`).  The length byte is a narrowing cast of the length, and an ATS of
     256 bytes or more that fits the buffer is emitted with a wrong TL.
-/
import Iso14443.Ats

namespace Iso14443

/-- The interface bytes a format announces. -/
def Format.announced (f : Format) : Nat :=
  f.taTransmitted.toNat + f.tbTransmitted.toNat + f.tcTransmitted.toNat

namespace Ats

/-! ## The cursor

  The parser as a chain of fields.  The four fields are read by one function, so one lemma serves
  for all of them. -/

/-- A field of the parser: read at `offset` if it is announced, else its default. -/
def Field {α : Type} (present : Bool) (body : List UInt8) (offset : Nat) (absent : α)
    (read : UInt8 → Res TypeAError α) (value : α) : Prop :=
  if present then ∃ b, body[offset]? = some b ∧ read b = .ok value else value = absent

/-- The cursor reads a byte when it is announced, and moves on by one exactly then. -/
theorem takeIf_eq_ok {α : Type} {present : Bool} {body : List UInt8} {offset : Nat} {absent : α}
    {read : UInt8 → Res TypeAError α} {value : α} {next : Nat} :
    takeIf present body offset absent read = .ok (value, next) ↔
      Field present body offset absent read value ∧ next = offset + present.toNat := by
  cases present with
  | false => simp [takeIf, Field, eq_comm]
  | true =>
    cases hb : body[offset]? with
    | none => simp [takeIf, takeByte, Field, hb]
    | some b =>
      constructor
      · intro h
        simp only [takeIf, takeByte, hb, if_true, Res.okOr_some, Res.ok_bind] at h
        obtain ⟨v, hv, h⟩ := Res.bind_eq_ok.mp h
        obtain ⟨rfl, rfl⟩ := Prod.mk.inj (Res.ok.inj h)
        exact ⟨⟨b, hb, hv⟩, rfl⟩
      · rintro ⟨⟨b', hb', hv⟩, rfl⟩
        obtain rfl : b = b' := Option.some.inj (hb.symm.trans hb')
        simp [takeIf, takeByte, hb, hv]

/-- Behind TL, and behind T0 when there is one. -/
def bodyStart (ats : Ats) : Nat := 1 + (decide (1 < ats.length)).toNat

/-- **What the parser does.**  The cursor stands behind TL, behind T0 if there is one, and then
    behind each interface byte in turn. -/
structure Parsed (body : List UInt8) (ats : Ats) : Prop where
  head : body.head? = some ats.length
  tl : ats.length.toNat = body.length
  format : Field (1 < ats.length) body 1 {} Format.tryFrom ats.format
  ta : Field ats.format.taTransmitted body ats.bodyStart 0 (fun b => .ok (b &&& taAll)) ats.ta
  tb : Field ats.format.tbTransmitted body (ats.bodyStart + ats.format.taTransmitted.toNat) {}
    Tb.tryFrom ats.tb
  tc : Field ats.format.tcTransmitted body
    (ats.bodyStart + ats.format.taTransmitted.toNat + ats.format.tbTransmitted.toNat) Tc.cidSupp
    (fun b => .ok (b &&& (Tc.nadSupp ||| Tc.cidSupp))) ats.tc
  fits : ats.bodyStart + ats.format.announced ≤ body.length
  historical : ats.historicalBytes = body.drop (ats.bodyStart + ats.format.announced)

/-- The parser succeeds on what `Parsed` describes and on nothing else.  `Parsed` follows the
    cursor; the grammar, which does not, is compared with it below. -/
theorem fromCrcVerified_eq_ok [Build] {body : List UInt8} {ats : Ats} :
    fromCrcVerified body = .ok ats ↔ Parsed body ats := by
  constructor
  · intro h
    obtain ⟨length, hhead, h⟩ := Res.bind_eq_ok.mp h
    split at h
    · cases h
    · rename_i hlen
      -- four steps of the cursor, and then the historical bytes
      obtain ⟨⟨format, o1⟩, hf, h⟩ := Res.bind_eq_ok.mp h
      obtain ⟨⟨ta, o2⟩, hta, h⟩ := Res.bind_eq_ok.mp h
      obtain ⟨⟨tb, o3⟩, htb, h⟩ := Res.bind_eq_ok.mp h
      obtain ⟨⟨tc, o4⟩, htc, h⟩ := Res.bind_eq_ok.mp h
      obtain ⟨hformat, rfl⟩ := takeIf_eq_ok.mp hf
      obtain ⟨hTa, rfl⟩ := takeIf_eq_ok.mp hta
      obtain ⟨hTb, rfl⟩ := takeIf_eq_ok.mp htb
      obtain ⟨hTc, rfl⟩ := takeIf_eq_ok.mp htc
      dsimp only at h
      split at h
      · rename_i hle
        obtain ⟨hist, hh, h⟩ := Res.bind_eq_ok.mp h
        obtain ⟨-, rfl⟩ := tryExtend_eq_ok.mp hh
        obtain rfl := Res.ok.inj h
        constructor
        · cases hb : body.head? with
          | none => simp [hb] at hhead
          | some b => simpa [hb] using hhead
        · exact not_not.mp hlen
        · exact hformat
        · exact hTa
        · exact hTb
        · exact hTc
        · simpa only [bodyStart, Format.announced, Nat.add_assoc] using hle
        · simp only [bodyStart, Format.announced, Nat.add_assoc, List.nil_append]
      · cases h
  · -- each field is read where `Parsed` has it
    intro h
    have hle := h.fits
    have hhist := h.historical
    have hfit : Fits frameCap (([] : List UInt8).length +
        (body.drop (ats.bodyStart + ats.format.announced)).length) := by
      have hmax := ats.length.toNat_lt
      have htl := h.tl
      apply fits_frameCap
      simp only [List.length_nil, List.length_drop]
      omega
    simp only [Format.announced, ← Nat.add_assoc] at hle hhist hfit
    have hformat : takeIf (1 < ats.length) body 1 {} Format.tryFrom =
        .ok (ats.format, ats.bodyStart) := takeIf_eq_ok.mpr ⟨h.format, rfl⟩
    rw [fromCrcVerified, h.head, Res.okOr_some, Res.ok_bind, if_neg (not_not.mpr h.tl), hformat,
      Res.ok_bind]
    dsimp only
    rw [takeIf_eq_ok.mpr ⟨h.ta, rfl⟩, Res.ok_bind]
    dsimp only
    rw [takeIf_eq_ok.mpr ⟨h.tb, rfl⟩, Res.ok_bind]
    dsimp only
    rw [takeIf_eq_ok.mpr ⟨h.tc, rfl⟩, Res.ok_bind]
    dsimp only
    rw [if_pos hle, tryExtend_of_fits hfit, Res.ok_bind, List.nil_append, ← hhist]

/-! ## The bytes of a format and of TB(1)

  When the two decoders that can fail succeed, as conditions on the byte. -/

/-- The low four bits of T0 are the FSCI, and there are nine of them. -/
theorem fsci_tryFrom_eq_some {v : UInt8} {f : Fsci} : Fsci.tryFrom v = some f ↔ f.toByte = v := by
  revert v
  apply Byte.forall_of_fin
  cases f <;> decide +kernel

/-- The nine values of FSCI that are defined. -/
theorem fsci_exists {v : UInt8} : (∃ f : Fsci, f.toByte = v) ↔ v ≤ 8 := by
  constructor
  · rintro ⟨f, rfl⟩
    cases f <;> decide
  · intro h
    have hall : ∀ v : UInt8, v ≤ 8 → (Fsci.tryFrom v).isSome :=
      Byte.forall_of_fin (by decide +kernel)
    obtain ⟨f, hf⟩ := Option.isSome_iff_exists.mp (hall v h)
    exact ⟨f, fsci_tryFrom_eq_some.mp hf⟩

/-- Does T0 announce the interface byte of this bit? -/
def announces (t0 bit : UInt8) : Bool := t0 &&& bit = bit

/-- When a format byte is read, and as what. -/
theorem format_tryFrom_eq_ok {t0 : UInt8} {f : Format} :
    Format.tryFrom t0 = .ok f ↔ f.fsci.toByte = t0 &&& 0b00001111 ∧
      f.taTransmitted = announces t0 0b00010000 ∧ f.tbTransmitted = announces t0 0b00100000 ∧
      f.tcTransmitted = announces t0 0b01000000 := by
  obtain ⟨fsci, ta, tb, tc⟩ := f
  constructor
  · intro h
    obtain ⟨g, hg, h⟩ := Res.bind_eq_ok.mp h
    obtain ⟨rfl, rfl, rfl, rfl⟩ := Format.mk.inj (Res.ok.inj h)
    refine ⟨fsci_tryFrom_eq_some.mp ?_, rfl, rfl, rfl⟩
    cases ho : Fsci.tryFrom (t0 &&& 0b00001111) with
    | none => simp [ho] at hg
    | some f => simpa [ho] using hg
  · rintro ⟨hf, hta, htb, htc⟩
    obtain rfl : ta = _ := hta
    obtain rfl : tb = _ := htb
    obtain rfl : tc = _ := htc
    rw [Format.tryFrom, fsci_tryFrom_eq_some.mpr hf]
    rfl

/-- The two halves of TB(1). -/
theorem tb_tryFrom_eq_ok {b : UInt8} {tb : Tb} : Tb.tryFrom b = .ok tb ↔
    tb.sfgi.val = (b &&& 0x0F).toNat ∧ tb.fwi.val = (b >>> 4).toNat := by
  obtain ⟨sfgi, fwi⟩ := tb
  rw [← Cid.new_eq_some, ← Cid.new_eq_some, Tb.tryFrom]
  cases hs : Cid.new (b &&& 0x0F) with
  | none => simp
  | some s =>
    cases hw : Cid.new (b >>> 4) with
    | none => simp
    | some w => simp [Tb.mk.injEq]

/-! ## The grammar

  The presence bits are taken from the byte T0 itself, and the positions are counted from them; no
  parser is mentioned until the two are compared at the end. -/

/-- The interface bytes that T0 announces. -/
def interfaceBytes (t0 : UInt8) : Nat :=
  (announces t0 0b00010000).toNat + (announces t0 0b00100000).toNat +
    (announces t0 0b01000000).toNat

/-- What may follow T0: at least the interface bytes it announces, and among them no TB(1) with a
    half of 15. -/
structure AfterT0 (t0 : UInt8) (tail : List UInt8) : Prop where
  fsci : t0 &&& 0b00001111 ≤ 8
  interface : interfaceBytes t0 ≤ tail.length
  tb : announces t0 0b00100000 → ∀ b ∈ tail[(announces t0 0b00010000).toNat]?,
    b &&& 0x0F ≤ 14 ∧ b >>> 4 ≤ 14

/-- **The grammar of an ATS**: TL counts all of it, and what follows TL is nothing or starts with
    a T0 that fits it. -/
def InGrammar (body : List UInt8) : Prop :=
  ∃ tl rest, body = tl :: rest ∧ tl.toNat = body.length ∧
    (body.length = 1 ∨ ∃ t0 tail, rest = t0 :: tail ∧ AfterT0 t0 tail)

/-- Does the body announce the interface byte of this bit?  Without T0 it announces none. -/
def bodyAnnounces (body : List UInt8) (bit : UInt8) : Bool :=
  body[1]?.elim false fun t0 => announces t0 bit

/-- TL, and T0 when there is one. -/
def headerLength (body : List UInt8) : Nat := 1 + (decide (1 < body.length)).toNat

/-- Where TB(1) stands: behind TA(1), if that is announced. -/
def tbAt (body : List UInt8) : Nat := headerLength body + (bodyAnnounces body 0b00010000).toNat

/-- Where TC(1) stands. -/
def tcAt (body : List UInt8) : Nat := tbAt body + (bodyAnnounces body 0b00100000).toNat

/-- Where the historical bytes begin. -/
def historicalAt (body : List UInt8) : Nat := tcAt body + (bodyAnnounces body 0b01000000).toNat

/-- The interface byte of a bit, if it is announced. -/
def interfaceByte (body : List UInt8) (bit : UInt8) (position : Nat) : Option UInt8 :=
  if bodyAnnounces body bit then body[position]? else none

/-- Every field is read where the presence bits before it put it, or is its default.  The positions
    are computed from the body alone (`headerLength`, `tbAt`, `tcAt`, `historicalAt`), not by a
    cursor as in the source; `total` says that they account for every byte. -/
structure Reads (body : List UInt8) (ats : Ats) : Prop where
  tl : body.head? = some ats.length
  fsci : ats.format.fsci.toByte = body[1]?.elim Fsci.fsc32.toByte (· &&& 0b00001111)
  taTransmitted : ats.format.taTransmitted = bodyAnnounces body 0b00010000
  tbTransmitted : ats.format.tbTransmitted = bodyAnnounces body 0b00100000
  tcTransmitted : ats.format.tcTransmitted = bodyAnnounces body 0b01000000
  ta : ats.ta = (interfaceByte body 0b00010000 (headerLength body)).elim 0 (· &&& taAll)
  sfgi : ats.tb.sfgi.val = (interfaceByte body 0b00100000 (tbAt body)).elim 0
    fun b => (b &&& 0x0F).toNat
  fwi : ats.tb.fwi.val = (interfaceByte body 0b00100000 (tbAt body)).elim 4 fun b => (b >>> 4).toNat
  tc : ats.tc = (interfaceByte body 0b01000000 (tcAt body)).elim Tc.cidSupp
    (· &&& (Tc.nadSupp ||| Tc.cidSupp))
  historical : ats.historicalBytes = body.drop (historicalAt body)
  total : headerLength body + ats.format.announced + ats.historicalBytes.length = ats.length.toNat

/-- A field that is read without checks. -/
theorem field_ok {α : Type} {present : Bool} {body : List UInt8} {offset : Nat} {absent : α}
    {f : UInt8 → α} {value : α} :
    Field present body offset absent (fun b => .ok (f b)) value ↔
      (present = true → offset < body.length) ∧
        value = (if present then body[offset]? else none).elim absent f := by
  cases present with
  | false => simp [Field]
  | true =>
    rw [Field, if_pos rfl, if_pos rfl]
    constructor
    · rintro ⟨b, hb, hv⟩
      rw [hb]
      exact ⟨fun _ => (List.getElem?_eq_some_iff.mp hb).1, (Res.ok.inj hv).symm⟩
    · rintro ⟨hlt, hv⟩
      have hb := List.getElem?_eq_getElem (hlt rfl)
      rw [hb] at hv
      exact ⟨_, hb, congrArg Res.ok hv.symm⟩

/-- TB(1) is read with one check for each half. -/
theorem field_tb {present : Bool} {body : List UInt8} {offset : Nat} {value : Tb} :
    Field present body offset {} Tb.tryFrom value ↔
      (present = true → offset < body.length) ∧
      value.sfgi.val = (if present then body[offset]? else none).elim 0
        (fun b => (b &&& 0x0F).toNat) ∧
      value.fwi.val = (if present then body[offset]? else none).elim 4
        (fun b => (b >>> 4).toNat) := by
  cases present with
  | false =>
    have hdefault : ∀ tb : Tb, tb = {} ↔ tb.sfgi.val = 0 ∧ tb.fwi.val = 4 := by
      rintro ⟨sfgi, fwi⟩
      rw [Tb.mk.injEq, Fin.ext_iff, Fin.ext_iff]
      rfl
    simp [Field, hdefault]
  | true =>
    rw [Field, if_pos rfl, if_pos rfl]
    constructor
    · rintro ⟨b, hb, hv⟩
      rw [hb]
      exact ⟨fun _ => (List.getElem?_eq_some_iff.mp hb).1, tb_tryFrom_eq_ok.mp hv⟩
    · rintro ⟨hlt, hv⟩
      have hb := List.getElem?_eq_getElem (hlt rfl)
      rw [hb] at hv
      exact ⟨_, hb, tb_tryFrom_eq_ok.mpr hv⟩

/-- T0 is read with one check, on the FSCI. -/
theorem field_format {body : List UInt8} {present : Bool} {value : Format}
    (hpresent : present = decide (1 < body.length)) :
    Field present body 1 {} Format.tryFrom value ↔
      value.fsci.toByte = body[1]?.elim Fsci.fsc32.toByte (· &&& 0b00001111) ∧
      value.taTransmitted = bodyAnnounces body 0b00010000 ∧
      value.tbTransmitted = bodyAnnounces body 0b00100000 ∧
      value.tcTransmitted = bodyAnnounces body 0b01000000 := by
  cases hb : body[1]? with
  | none =>
    have hge := List.getElem?_eq_none_iff.mp hb
    obtain rfl : present = false := by simpa [hpresent] using hge
    have hdefault : ∀ f : Format, f = {} ↔ f.fsci.toByte = Fsci.fsc32.toByte ∧
        f.taTransmitted = false ∧ f.tbTransmitted = false ∧ f.tcTransmitted = false := by
      rintro ⟨fsci, ta, tb, tc⟩
      cases fsci <;> revert ta tb tc <;> decide
    simp only [Field, Bool.false_eq_true, if_false, bodyAnnounces, hb, Option.elim_none, hdefault]
  | some t0 =>
    have hlt := (List.getElem?_eq_some_iff.mp hb).1
    obtain rfl : present = true := by simpa [hpresent] using hlt
    simp only [Field, if_true, bodyAnnounces, hb, Option.elim_some, Option.some.injEq,
      ← format_tryFrom_eq_ok]
    constructor
    · rintro ⟨_, rfl, h⟩; exact h
    · intro h; exact ⟨t0, rfl, h⟩

/-- The grammar by positions. -/
theorem inGrammar_iff {body : List UInt8} : InGrammar body ↔
    (∃ tl, body.head? = some tl ∧ tl.toNat = body.length) ∧
      ∀ t0, body[1]? = some t0 → AfterT0 t0 (body.drop 2) := by
  rcases body with _ | ⟨tl, _ | ⟨t0, tail⟩⟩
  · simp [InGrammar]
  · simp [InGrammar]
  · simp [InGrammar]

/-- The presence bits are those of T0. -/
theorem bodyAnnounces_eq {body : List UInt8} {t0 : UInt8} (h : body[1]? = some t0) (bit : UInt8) :
    bodyAnnounces body bit = announces t0 bit := by
  rw [bodyAnnounces, h, Option.elim_some]

/-- A body without T0 announces nothing. -/
theorem bodyAnnounces_none {body : List UInt8} (h : body[1]? = none) (bit : UInt8) :
    bodyAnnounces body bit = false := by
  rw [bodyAnnounces, h, Option.elim_none]

/-- In the grammar everything that is announced is there. -/
theorem InGrammar.historicalAt_le {body : List UInt8} (h : InGrammar body) :
    historicalAt body ≤ body.length := by
  obtain ⟨⟨tl, hhead, -⟩, hafter⟩ := inGrammar_iff.mp h
  have hpos : 0 < body.length := by
    cases body with
    | nil => cases hhead
    | cons _ _ => exact Nat.succ_pos _
  cases hb : body[1]? with
  | none =>
    have hge := List.getElem?_eq_none_iff.mp hb
    have hheader : headerLength body = 1 := by simp [headerLength, Nat.not_lt.mpr hge]
    simp only [historicalAt, tcAt, tbAt, bodyAnnounces_none hb, hheader, Bool.toNat_false]
    exact hpos
  | some t0 =>
    have hlt := (List.getElem?_eq_some_iff.mp hb).1
    have hheader : headerLength body = 2 := by simp [headerLength, hlt]
    have hle := (hafter t0 hb).interface
    rw [interfaceBytes, List.length_drop] at hle
    simp only [historicalAt, tcAt, tbAt, bodyAnnounces_eq hb, hheader]
    omega

/-- In the grammar TB(1) has no half of 15. -/
theorem InGrammar.tb {body : List UInt8} (h : InGrammar body) {b : UInt8}
    (hb : interfaceByte body 0b00100000 (tbAt body) = some b) : b &&& 0x0F ≤ 14 ∧ b >>> 4 ≤ 14 := by
  obtain ⟨-, hafter⟩ := inGrammar_iff.mp h
  rw [interfaceByte] at hb
  split at hb
  · rename_i hpresent
    cases h1 : body[1]? with
    | none => rw [bodyAnnounces_none h1] at hpresent; cases hpresent
    | some t0 =>
      have hlt := (List.getElem?_eq_some_iff.mp h1).1
      have hheader : headerLength body = 2 := by simp [headerLength, hlt]
      rw [bodyAnnounces_eq h1] at hpresent
      refine (hafter t0 h1).tb hpresent b ?_
      rw [List.getElem?_drop, ← bodyAnnounces_eq h1, ← hheader]
      exact hb
  · cases hb

/-- TL tells whether there is a T0. -/
theorem one_lt_tl {tl : UInt8} {n : Nat} (h : tl.toNat = n) : decide (1 < tl) = decide (1 < n) := by
  subst h
  exact decide_eq_decide.mpr UInt8.lt_iff_toNat_lt

/-- Where the interface bytes begin can be told from the body or from its TL. -/
theorem bodyStart_eq {body : List UInt8} {ats : Ats} (htl : ats.length.toNat = body.length) :
    ats.bodyStart = headerLength body := by
  rw [bodyStart, one_lt_tl htl, headerLength]

/-- What was parsed was read at its position. -/
theorem Parsed.reads {body : List UInt8} {ats : Ats} (h : Parsed body ats) : Reads body ats := by
  have hstart := bodyStart_eq h.tl
  have hfits := h.fits
  have hhist := h.historical
  obtain ⟨hfsci, hta, htb, htc⟩ := (field_format (one_lt_tl h.tl)).mp h.format
  obtain ⟨-, hTa⟩ := field_ok.mp h.ta
  obtain ⟨-, hsfgi, hfwi⟩ := field_tb.mp h.tb
  obtain ⟨-, hTc⟩ := field_ok.mp h.tc
  rw [hstart] at hfits hhist hTa hsfgi hfwi hTc
  rw [hta] at hTa
  rw [hta, htb] at hsfgi hfwi
  rw [hta, htb, htc] at hTc
  refine ⟨h.head, hfsci, hta, htb, htc, hTa, hsfgi, hfwi, hTc, ?_, ?_⟩
  · rw [hhist, Format.announced, hta, htb, htc]
    simp only [historicalAt, tcAt, tbAt, Nat.add_assoc]
  · rw [hhist, h.tl, List.length_drop]
    omega

/-- What was parsed is in the grammar: each step of the cursor that succeeds has found its byte
    where the grammar wants it. -/
theorem Parsed.inGrammar {body : List UInt8} {ats : Ats} (h : Parsed body ats) :
    InGrammar body := by
  have hr := h.reads
  have hfits := h.fits
  rw [bodyStart_eq h.tl, Format.announced, hr.taTransmitted, hr.tbTransmitted,
    hr.tcTransmitted] at hfits
  refine inGrammar_iff.mpr ⟨⟨ats.length, h.head, h.tl⟩, ?_⟩
  intro t0 h1
  have hlt := (List.getElem?_eq_some_iff.mp h1).1
  have hheader : headerLength body = 2 := by simp [headerLength, hlt]
  constructor
  · apply fsci_exists.mp
    exact ⟨_, by rw [hr.fsci, h1, Option.elim_some]⟩
  · rw [interfaceBytes, List.length_drop]
    rw [hheader, bodyAnnounces_eq h1, bodyAnnounces_eq h1, bodyAnnounces_eq h1] at hfits
    omega
  · intro hpresent b hb
    -- the two halves were read into fields that hold no 15
    have hbyte : interfaceByte body 0b00100000 (tbAt body) = some b := by
      rw [interfaceByte, tbAt, bodyAnnounces_eq h1, if_pos hpresent, hheader, bodyAnnounces_eq h1,
        ← List.getElem?_drop]
      exact hb
    have hsfgi := hr.sfgi
    have hfwi := hr.fwi
    rw [hbyte, Option.elim_some] at hsfgi hfwi
    have hs := ats.tb.sfgi.isLt
    have hf := ats.tb.fwi.isLt
    constructor
    · show (b &&& 0x0F).toNat ≤ 14
      omega
    · show (b >>> 4).toNat ≤ 14
      omega

/-- A field that is announced before a point of the body is inside it. -/
theorem lt_of_announced {present : Bool} {i j n : Nat} (h : i + present.toNat + j ≤ n)
    (hp : present = true) : i < n := by
  subst hp
  rw [Bool.toNat_true] at h
  omega

/-- What is in the grammar is parsed, to what is read. -/
theorem Reads.parsed {body : List UInt8} {ats : Ats} (hr : Reads body ats) (hg : InGrammar body) :
    Parsed body ats := by
  have hle := hg.historicalAt_le
  obtain ⟨⟨tl, hhead, htl⟩, -⟩ := inGrammar_iff.mp hg
  obtain rfl : ats.length = tl := Option.some.inj (hr.tl.symm.trans hhead)
  have hstart := bodyStart_eq htl
  rw [historicalAt, tcAt, tbAt] at hle
  constructor
  · exact hhead
  · exact htl
  · exact (field_format (one_lt_tl htl)).mpr
      ⟨hr.fsci, hr.taTransmitted, hr.tbTransmitted, hr.tcTransmitted⟩
  · rw [hr.taTransmitted, hstart]
    rw [Nat.add_assoc] at hle
    exact field_ok.mpr ⟨lt_of_announced hle, hr.ta⟩
  · rw [hr.taTransmitted, hr.tbTransmitted, hstart]
    exact field_tb.mpr ⟨lt_of_announced hle, hr.sfgi, hr.fwi⟩
  · rw [hr.taTransmitted, hr.tbTransmitted, hr.tcTransmitted, hstart]
    exact field_ok.mpr ⟨lt_of_announced (j := 0) hle, hr.tc⟩
  · rw [hstart, Format.announced, hr.taTransmitted, hr.tbTransmitted, hr.tcTransmitted]
    omega
  · rw [hr.historical, hstart, Format.announced, hr.taTransmitted, hr.tbTransmitted,
      hr.tcTransmitted]
    simp only [historicalAt, tcAt, tbAt, Nat.add_assoc]

/-- **The parser is the grammar and its reading.** -/
theorem parsed_iff {body : List UInt8} {ats : Ats} :
    Parsed body ats ↔ InGrammar body ∧ Reads body ats := by
  constructor
  · intro h
    exact ⟨h.inGrammar, h.reads⟩
  · rintro ⟨hg, hr⟩
    exact hr.parsed hg

/-- Everything in the grammar can be read: the values are given position by position, so that
    nothing is left to check but their types. -/
theorem InGrammar.reads {body : List UInt8} (h : InGrammar body) : ∃ ats, Reads body ats := by
  have hle := h.historicalAt_le
  obtain ⟨⟨tl, hhead, htl⟩, hafter⟩ := inGrammar_iff.mp h
  have hfsci : ∃ f : Fsci, f.toByte = body[1]?.elim Fsci.fsc32.toByte (· &&& 0b00001111) := by
    cases h1 : body[1]? with
    | none => exact ⟨.fsc32, rfl⟩
    | some t0 => exact fsci_exists.mpr (hafter t0 h1).fsci
  have htb : ∃ tb : Tb,
      tb.sfgi.val = (interfaceByte body 0b00100000 (tbAt body)).elim 0
        (fun b => (b &&& 0x0F).toNat) ∧
      tb.fwi.val = (interfaceByte body 0b00100000 (tbAt body)).elim 4
        fun b => (b >>> 4).toNat := by
    cases hb : interfaceByte body 0b00100000 (tbAt body) with
    | none => exact ⟨{}, rfl, rfl⟩
    | some b =>
      obtain ⟨hs, hf⟩ := h.tb hb
      have hs : (b &&& 0x0F).toNat ≤ 14 := hs
      have hf : (b >>> 4).toNat ≤ 14 := hf
      exact ⟨⟨⟨_, Nat.lt_succ_of_le hs⟩, ⟨_, Nat.lt_succ_of_le hf⟩⟩, rfl, rfl⟩
  obtain ⟨fsci, hfsci⟩ := hfsci
  obtain ⟨tb, hsfgi, hfwi⟩ := htb
  refine ⟨⟨tl, ⟨fsci, bodyAnnounces body 0b00010000, bodyAnnounces body 0b00100000,
    bodyAnnounces body 0b01000000⟩, _, tb, _, _⟩, hhead, hfsci, rfl, rfl, rfl, rfl, hsfgi, hfwi, rfl,
    rfl, ?_⟩
  rw [List.length_drop, htl, Format.announced]
  simp only [historicalAt, tcAt, tbAt] at hle ⊢
  omega

/-- **The parser accepts exactly the grammar**, and what it gives is what the positions say. -/
theorem fromCrcVerified_iff_grammar [Build] (body : List UInt8) :
    ((∃ ats, fromCrcVerified body = .ok ats) ↔ InGrammar body) ∧
      ∀ ats, fromCrcVerified body = .ok ats ↔ InGrammar body ∧ Reads body ats := by
  have hiff : ∀ ats, fromCrcVerified body = .ok ats ↔ InGrammar body ∧ Reads body ats := by
    intro ats
    exact fromCrcVerified_eq_ok.trans parsed_iff
  refine ⟨?_, hiff⟩
  constructor
  · rintro ⟨ats, h⟩
    exact ((hiff ats).mp h).1
  · intro h
    obtain ⟨ats, hr⟩ := h.reads
    exact ⟨ats, (hiff ats).mpr ⟨h, hr⟩⟩

/-! ## There and back

  The condition is about the size alone: TL counts up to 255 bytes, and without `alloc` the buffer
  holds 256, so there is one size between them. -/

/-- The bytes an ATS needs: TL, T0, the interface bytes and the historical bytes. -/
def size (self : Ats) : Nat := 2 + self.format.announced + self.historicalBytes.length

/-- An optional byte is one byte or none. -/
theorem length_optional (present : Bool) (byte : UInt8) :
    (optional present byte).length = present.toNat := by
  cases present <;> rfl

/-- An ATS is written in as many bytes as its fields ask for. -/
theorem length_bytes_eq_size (self : Ats) : self.bytes.length = self.size := by
  rw [length_bytes, rest, size, Format.announced]
  simp only [List.length_append, length_optional]
  omega

/-- An optional byte is pushed when there is room. -/
theorem pushIf_of_fits [Build] {present : Bool} {v : List UInt8} {b : UInt8}
    (h : Fits frameCap (v.length + present.toNat)) :
    pushIf present v b = .ok (v ++ optional present b) := by
  cases present with
  | false => simp [pushIf, optional]
  | true => exact tryPush_of_fits h

/-- `to_bytes` fails for want of room, and for nothing else.  The buffer grows by one push at a
    time, so the last one decides. -/
theorem toBytes_iff [Build] {self : Ats} {data : FrameVec} :
    self.toBytes = .ok data ↔ Fits frameCap self.size ∧ data = self.bytes := by
  constructor
  · intro h
    refine ⟨?_, toBytes_eq_ok h⟩
    obtain rfl := toBytes_eq_ok h
    obtain ⟨d0, h0, h⟩ := Res.bind_eq_ok.mp h
    obtain ⟨d1, h1, h⟩ := Res.bind_eq_ok.mp h
    obtain ⟨d2, h2, h⟩ := Res.bind_eq_ok.mp h
    obtain ⟨d3, h3, h⟩ := Res.bind_eq_ok.mp h
    obtain ⟨d4, h4, h⟩ := Res.bind_eq_ok.mp h
    obtain ⟨d5, h5, h⟩ := Res.bind_eq_ok.mp h
    -- the last push is the one that needs the most room
    obtain ⟨hfits, rfl⟩ := tryExtend_eq_ok.mp h5
    have hlen := congrArg List.length (Res.ok.inj h)
    rw [List.length_set, List.length_append, length_bytes_eq_size] at hlen
    rw [← hlen]
    exact hfits
  · rintro ⟨hfits, rfl⟩
    have hsize := self.length_bytes_eq_size
    have hroom : ∀ {m n : Nat}, m + n ≤ self.size → Fits frameCap (m + n) := fun h => hfits.mono h
    rw [size, Format.announced] at hroom
    rw [toBytes, tryPush_of_fits (hroom (by simp; omega)), Res.ok_bind,
      tryPush_of_fits (hroom (by simp; omega)), Res.ok_bind,
      pushIf_of_fits (hroom (by simp; omega)), Res.ok_bind,
      pushIf_of_fits (hroom (by simp [length_optional]; omega)), Res.ok_bind,
      pushIf_of_fits (hroom (by simp [length_optional]; omega)), Res.ok_bind,
      tryExtend_of_fits (hroom (by simp [length_optional]; omega)), Res.ok_bind]
    have hlen : ∀ n : Nat, n + 1 + 1 = 2 + n := fun n => by omega
    simp [bytes, rest, tbByte, hlen]

/-- An ATS the library hands out: parsed, or made by `new` of defined flags, and given any
    historical bytes. -/
inductive Made [Build] : Ats → Prop where
  | parsed {body : List UInt8} {ats : Ats} (h : fromCrcVerified body = .ok ats) : Made ats
  | new (fsci : Fsci) (ta : UInt8) (tb : Tb) (tc : UInt8) (hta : ta &&& taAll = ta)
      (htc : tc &&& (Tc.nadSupp ||| Tc.cidSupp) = tc) : Made (new fsci ta tb tc)
  | given {ats : Ats} (h : Made ats) (historicalBytes : FrameVec) :
      Made { ats with historicalBytes }

/-- Masking twice is masking once. -/
theorem and_and_self (b m : UInt8) : b &&& m &&& m = b &&& m := by
  rw [UInt8.and_assoc, UInt8.and_self]

/-- A parsed ATS holds defined flags only, and defaults where nothing was announced. -/
theorem Parsed.canonical {body : List UInt8} {ats : Ats} (h : Parsed body ats) : ats.Canonical := by
  have hta := (field_ok.mp h.ta).2
  have htc := (field_ok.mp h.tc).2
  constructor
  · rw [hta]
    cases (if ats.format.taTransmitted = true then body[ats.bodyStart]? else none) with
    | none => rfl
    | some b => exact and_and_self b taAll
  · rw [htc]
    generalize (if ats.format.tcTransmitted = true then _ else none : Option UInt8) = o
    cases o with
    | none => rfl
    | some b => exact and_and_self b _
  · intro hp
    rw [hta, hp]
    rfl
  · intro hp
    have htb := h.tb
    rw [hp] at htb
    exact htb
  · intro hp
    rw [htc, hp]
    rfl

/-- Every ATS that the code builds or parses is canonical: what is not announced has its default. -/
theorem Made.canonical [Build] {ats : Ats} (h : Made ats) : ats.Canonical := by
  induction h with
  | parsed h => exact (fromCrcVerified_eq_ok.mp h).canonical
  | new fsci ta tb tc hta htc => exact canonical_new fsci tb hta htc []
  | given h historicalBytes ih => exact ⟨ih.ta, ih.tc, ih.taAbsent, ih.tbAbsent, ih.tcAbsent⟩

/-- Two ATS that say the same.  TL is no part of what an ATS says: `new` leaves it at zero, and
    encoding computes it. -/
structure SameFields (ats back : Ats) : Prop where
  format : back.format = ats.format
  ta : back.ta = ats.ta
  tb : back.tb = ats.tb
  tc : back.tc = ats.tc
  historicalBytes : back.historicalBytes = ats.historicalBytes

/-- What is emitted starts with its length and is read back, and what TL cannot count is not
    emitted. -/
structure RoundTrips [Build] (ats : Ats) : Prop where
  tl : ∀ data, ats.toBytes = .ok data → ∃ tl rest, data = tl :: rest ∧ tl.toNat = data.length
  back : ∀ data, ats.toBytes = .ok data →
    ∃ back, fromCrcVerified data = .ok back ∧ SameFields ats back
  tooLong : 255 < ats.size → ∃ e, ats.toBytes = .err e

/-- **Decoding undoes encoding exactly when TL can count the bytes**, or the buffer could not hold
    them anyway. -/
theorem roundTrips_iff [Build] {self : Ats} (h : Made self) :
    RoundTrips self ↔ self.size ≤ 255 ∨ ¬ Fits frameCap self.size := by
  have hlength := self.length_bytes_eq_size
  constructor
  · intro hr
    by_contra hcon
    obtain ⟨hbig, hfits⟩ := not_or.mp hcon
    obtain ⟨e, he⟩ := hr.tooLong (Nat.lt_of_not_le hbig)
    rw [toBytes_iff.mpr ⟨not_not.mp hfits, rfl⟩] at he
    cases he
  · intro hcond
    have hsmall : ∀ data, self.toBytes = .ok data → self.size ≤ 255 ∧ data = self.bytes := by
      intro data hd
      obtain ⟨hfits, rfl⟩ := toBytes_iff.mp hd
      rcases hcond with hle | hno
      · exact ⟨hle, rfl⟩
      · exact absurd hfits hno
    constructor
    · intro data hd
      obtain ⟨hle, rfl⟩ := hsmall data hd
      refine ⟨_, _, rfl, ?_⟩
      rw [UInt8.toNat_ofNat', ← length_bytes, hlength]
      omega
    · intro data hd
      obtain ⟨hle, rfl⟩ := hsmall data hd
      refine ⟨_, fromCrcVerified_bytes h.canonical (by omega), ?_⟩
      exact ⟨rfl, rfl, rfl, rfl, rfl⟩
    · intro hbig
      rcases self.toBytes_returns.cases with ⟨data, hd⟩ | he
      · have hle := (hsmall data hd).1
        omega
      · exact he

/-- An ATS from `new` with five historical bytes. -/
theorem roundTrips_iff_new : let : Build := Build.heapless
    RoundTrips { new .fsc32 0x80 {} Tc.cidSupp with historicalBytes := [1, 2, 3, 4, 5] } ↔
      (10 ≤ 255 ∨ ¬ Fits frameCap 10) := by
  intro _
  exact roundTrips_iff (.given (.new .fsc32 0x80 {} Tc.cidSupp (by decide) (by decide)) _)

/-- An ATS of 256 bytes fits the buffer: it is emitted, with TL = 0. -/
theorem not_roundTrips : let : Build := Build.heapless
    ¬ ∀ ats, Made ats → Fits frameCap ats.historicalBytes.length → RoundTrips ats := by
  intro _ hall
  have hsize : ∀ l : FrameVec, l.length = 251 → ({ new .fsc32 0 {} Tc.cidSupp with
      historicalBytes := l } : Ats).size = 256 := fun l hl => congrArg (5 + ·) hl
  have hlen : (List.replicate 251 (0 : UInt8)).length = 251 := List.length_replicate
  generalize List.replicate 251 (0 : UInt8) = l at hlen
  have hmade := Made.given (.new .fsc32 0 {} Tc.cidSupp (by decide) (by decide)) l
  have hroom : l.length ≤ 256 := by omega
  obtain ⟨e, he⟩ := (hall _ hmade (fits_frameCap hroom)).tooLong (by rw [hsize l hlen]; decide)
  rw [toBytes_iff.mpr ⟨fits_frameCap (by rw [hsize l hlen]), rfl⟩] at he
  cases he

end Ats

end Iso14443
