/-
  `src/type_a/activation.rs`: does the UID say which card was selected?

  The UID is put together from the anticollision answers, and the first byte of every level but the
  last one is left out of it, for the cascade tag.  How many levels there are is what the SAKs say,
  and nothing compares the byte that is left out with the tag: a card may answer with another byte
  there, and be selected by it.

  1. **UIDs and levels.**  `levelsOf` are the levels a UID stands for, with the tags and check
     bytes put back; `levelsOf_joined`: a UID stands for the levels it was made of exactly when
     what was left out of them was the tag.  This is about bytes, and has nothing to do with the
     activation.
  2. **The calls.**  `Transcript` is the list of calls of an activation that succeeds, whatever the
     transceiver: the request, and for each of at most three levels an anticollision answered with
     five bytes and a SELECT with the same five.  `doActivate_transcript` reads it off the code.
  3. **The answer.**  `Identifies`: the UID has one of the three sizes, every answer was checked,
     and what was selected is what the UID stands for.  `activated_identifies_iff` puts 1 and 2
     together, and has the consequence: among such activations no two that selected different bytes
     report the same UID.

  `not_identifies` has two cards that are selected by different bytes and report one UID.
-/
import Iso14443.Activation
import Iso14443.PcdStep

namespace Iso14443

namespace Activation

/-! ## UIDs and their levels

  Bytes alone.  A UID of four, seven or ten bytes stands for one, two or three levels. -/

/-- `0x88`. -/
def cascadeTag : UInt8 := 0x88

/-- The check byte of a level. -/
def checkByte (bytes : List UInt8) : UInt8 := bytes.foldl (· ^^^ ·) 0

/-- Four bytes and their check byte. -/
def withCheck (bytes : List UInt8) : List UInt8 := bytes ++ [checkByte bytes]

/-- The levels of a UID: three bytes behind a tag as long as more than four are left. -/
def levelsOf : List UInt8 → List (List UInt8)
  | a :: b :: c :: d :: e :: rest =>
    withCheck [cascadeTag, a, b, c] :: levelsOf (d :: e :: rest)
  | last => [withCheck last]

/-- The UID of some levels: the first byte of every level but the last one is left out. -/
def joined : List (List UInt8) → List UInt8
  | [] => []
  | [last] => last.take 4
  | level :: next :: levels => (level.take 4).drop 1 ++ joined (next :: levels)

/-- Five bytes, the last one the check byte of the others. -/
def ValidLevel (level : List UInt8) : Prop := level.length = 5 ∧ checkByte level = 0

/-- Five bytes, by name. -/
theorem eq_of_length_five {l : List UInt8} (h : l.length = 5) : ∃ a b c d e, l = [a, b, c, d, e] := by
  have hfour : (l.drop 1).length = 4 := by rw [List.length_drop, h]
  obtain ⟨a, ha⟩ := List.length_eq_one_iff.mp (show (l.take 1).length = 1 by simp [h])
  obtain ⟨b, c, d, e, hbcde⟩ := List.length_eq_four.mp hfour
  exact ⟨a, b, c, d, e, by rw [← List.take_append_drop 1 l, ha, hbcde]; rfl⟩

/-- A valid answer is four bytes and their check byte. -/
theorem ValidLevel.eq {level : List UInt8} (h : ValidLevel level) :
    ∃ a b c d, level = withCheck [a, b, c, d] := by
  obtain ⟨hlen, hcheck⟩ := h
  obtain ⟨a, b, c, d, e, rfl⟩ := eq_of_length_five hlen
  refine ⟨a, b, c, d, ?_⟩
  have he : checkByte [a, b, c, d] = e := by
    simp only [checkByte, List.foldl_cons, List.foldl_nil] at hcheck ⊢
    exact UInt8.xor_eq_zero_iff.mp hcheck
  rw [withCheck, he]
  rfl

/-- A UID of valid levels is long enough for each of them. -/
theorem length_joined {levels : List (List UInt8)} (hne : levels ≠ [])
    (h : ∀ level ∈ levels, ValidLevel level) : (joined levels).length = 3 * levels.length + 1 := by
  induction levels with
  | nil => exact absurd rfl hne
  | cons level levels ih =>
    have hlevel := (h level List.mem_cons_self).1
    cases levels with
    | nil => simp [joined, hlevel]
    | cons next levels =>
      have hrest := ih (by simp) fun l hl => h l (List.mem_cons_of_mem _ hl)
      rw [joined, List.length_append, hrest]
      simp [hlevel]
      omega

/-- **A UID stands for the levels it was made of exactly when what was left out was the tag.**
    Reading the levels back puts a tag in front of three bytes while more than four are left. -/
theorem levelsOf_joined {levels : List (List UInt8)} (hne : levels ≠ [])
    (h : ∀ level ∈ levels, ValidLevel level) :
    levelsOf (joined levels) = levels ↔ ∀ level ∈ levels.dropLast, level.head? = some cascadeTag := by
  induction levels with
  | nil => exact absurd rfl hne
  | cons level levels ih =>
    obtain ⟨a, b, c, d, rfl⟩ := (h level List.mem_cons_self).eq
    cases levels with
    | nil => simp [joined, withCheck, levelsOf]
    | cons next levels =>
      have hvalid : ∀ l ∈ next :: levels, ValidLevel l := fun l hl => h l (List.mem_cons_of_mem _ hl)
      have hlen := length_joined (by simp) hvalid
      have ih := ih (by simp) hvalid
      rw [joined, List.dropLast_cons_of_ne_nil (by simp)]
      -- at least five bytes: the first three belong to this level
      obtain ⟨x, y, rest, hrest⟩ : ∃ x y rest, joined (next :: levels) = x :: y :: rest := by
        rcases hj : joined (next :: levels) with _ | ⟨x, _ | ⟨y, rest⟩⟩
        · rw [hj] at hlen; simp at hlen
        · rw [hj] at hlen; simp at hlen
        · exact ⟨x, y, rest, rfl⟩
      have hsplit : levelsOf (((withCheck [a, b, c, d]).take 4).drop 1 ++ joined (next :: levels)) =
          withCheck [cascadeTag, b, c, d] :: levelsOf (joined (next :: levels)) := by
        rw [hrest]
        rfl
      rw [hsplit, List.cons_eq_cons, ih, List.forall_mem_cons]
      constructor
      · rintro ⟨htag, hrest⟩
        refine ⟨?_, hrest⟩
        rw [← htag]
        rfl
      · rintro ⟨htag, hrest⟩
        refine ⟨?_, hrest⟩
        obtain rfl : a = cascadeTag := Option.some.inj htag
        rfl

/-- What the loop of `build_activation` puts together. -/
theorem uidParts_eq_joined (uidCls : List (Vector UInt8 5)) (i : Nat) :
    uidParts (i + uidCls.length) i uidCls = joined (uidCls.map Vector.toList) := by
  induction uidCls generalizing i with
  | nil => rfl
  | cons cl uidCls ih =>
    rw [uidParts, uidPart, List.length_cons, ← Nat.add_assoc, Nat.add_right_comm, ih]
    cases uidCls with
    | nil => simp [joined]
    | cons next uidCls =>
      rw [if_pos (by simp)]
      rfl

/-! ## The calls of an activation

  Read off the log, for any transceiver: what was asked, what was answered, what was selected. -/

variable {T E : Type}

/-- The two calls of a level. -/
def levelCalls (hwCrc : Bool) (sel : UInt8) (level : List UInt8) (sak : FrameVec) :
    List (Frame × Except E FrameVec) :=
  [(.bitOriented [sel, 0x20], .ok level),
    (.standard (closed hwCrc (sel :: 0x70 :: level)), .ok sak)]

/-- The calls of some levels, each answered with its five bytes and a SAK. -/
def levelsCalls (hwCrc : Bool) : List UInt8 → List (List UInt8 × FrameVec) →
    List (Frame × Except E FrameVec)
  | sel :: sels, (level, sak) :: levels =>
    levelCalls hwCrc sel level sak ++ levelsCalls hwCrc sels levels
  | _, _ => []

/-- The answers to the anticollision commands of a log. -/
def anticollisions (log : List (Frame × Except E FrameVec)) : List FrameVec :=
  log.filterMap fun call => match call with
    | (.bitOriented _, .ok answer) => some answer
    | _ => none

/-- The SELECT commands of a log: the only standard frames of an activation. -/
def selects (log : List (Frame × Except E FrameVec)) : List FrameVec :=
  log.filterMap fun call => match call with
    | (.standard data, _) => some data
    | _ => none

/-- The SELECT commands that select some levels. -/
def selectFrames (hwCrc : Bool) (sels : List UInt8) (levels : List (List UInt8)) : List FrameVec :=
  List.zipWith (fun sel level => closed hwCrc (sel :: 0x70 :: level)) sels levels

/-- The anticollision answers in the calls of some levels are those levels. -/
theorem anticollisions_levelsCalls (hwCrc : Bool) {sels : List UInt8}
    {levels : List (List UInt8 × FrameVec)} (h : levels.length ≤ sels.length) :
    anticollisions (levelsCalls hwCrc sels levels : List (Frame × Except E FrameVec)) =
      levels.map Prod.fst := by
  induction levels generalizing sels with
  | nil => cases sels <;> rfl
  | cons level levels ih =>
    cases sels with
    | nil => cases h
    | cons sel sels =>
      rw [levelsCalls, anticollisions, List.filterMap_append, ← anticollisions, ← anticollisions,
        ih (Nat.le_of_succ_le_succ h)]
      rfl

/-- The SELECT commands in these calls select those levels. -/
theorem selects_levelsCalls (hwCrc : Bool) (sels : List UInt8)
    (levels : List (List UInt8 × FrameVec)) :
    selects (levelsCalls hwCrc sels levels : List (Frame × Except E FrameVec)) =
      selectFrames hwCrc sels (levels.map Prod.fst) := by
  induction levels generalizing sels with
  | nil => cases sels <;> rfl
  | cons level levels ih =>
    cases sels with
    | nil => rfl
    | cons sel sels =>
      rw [levelsCalls, selects, List.filterMap_append, ← selects, ← selects, ih]
      rfl

/-- **The calls of an activation that succeeds**: the request, and the two calls of each of at most
    three levels. -/
structure Transcript (hwCrc : Bool) (uid : FrameVec) (log : List (Frame × Except E FrameVec)) :
    Prop where
  calls : ∃ byte atqa levels, log = (.short [byte], .ok atqa) ::
    levelsCalls hwCrc [selCl1, selCl2, selCl3] levels ∧ levels ≠ [] ∧ levels.length ≤ 3 ∧
    (∀ level ∈ levels, ValidLevel level.1) ∧ uid = joined (levels.map Prod.fst)

section Runs

variable [Build] [PcdTransceiver T E]

/-- Is the CRC left to the transceiver? -/
def usesHwCrc (t : T) : Bool :=
  match (PcdTransceiver.tryEnableHwCrc t).1 with
  | .ok _ => true
  | .error _ => false

omit [Build] in
/-- A call that brought an answer is the last one of the log. -/
theorem transceive_ok {frame : Frame} {t t' : Tally T E} {answer : FrameVec}
    (h : (transceive frame : Act (Tally T E) (ActivationError E) FrameVec).run t =
      (.ok answer, t')) : t'.log = t.log ++ [(frame, .ok answer)] := by
  rcases hp : PcdTransceiver.transceive t.inner frame with ⟨result, inner⟩
  have hcall := Pcd.transceive_tally hp
  simp only [transceive, hcall] at h
  cases result with
  | error e => cases h
  | ok a =>
    cases h
    rfl

/-- What `do_anticollision` gives back is a valid level, and the answer to its command. -/
theorem doAnticollision_ok {sel : UInt8} {t t' : Tally T E} {level : Vector UInt8 5}
    (h : (doAnticollision sel : Act (Tally T E) (ActivationError E) _).run t = (.ok level, t')) :
    ValidLevel level.toList ∧ t'.log = t.log ++ [(.bitOriented [sel, 0x20], .ok level.toList)] := by
  have hfits : Fits frameCap 2 := fits_frameCap (by decide)
  have hnvb : NumberOfValidBits.anticollision.toByte = 0x20 := rfl
  simp only [doAnticollision, hnvb] at h
  rw [Act.run_bind, run_lift, tryPush_of_fits (hfits.mono (by simp))] at h
  simp only [Res.mapErr_ok] at h
  rw [Act.run_bind, run_lift, tryPush_of_fits (hfits.mono (by simp))] at h
  simp only [Res.mapErr_ok, List.nil_append, List.cons_append] at h
  obtain ⟨resp, t1, hcall, h⟩ := Act.run_bind_eq_ok.mp h
  have hlog := transceive_ok hcall
  split at h
  · cases h
  · rename_i hlen
    obtain ⟨a, b, c, d, e, rfl⟩ := eq_of_length_five (not_not.mp hlen)
    simp only [Act.run_bind, run_lift, Res.index, List.getElem?_cons_zero, List.getElem?_cons_succ,
      Res.unwrap_some, Res.mapErr_ok, copyFromSlice] at h
    split at h
    · cases h
    · rename_i hbcc
      cases h
      refine ⟨⟨rfl, ?_⟩, hlog⟩
      simpa [checkByte] using hbcc

/-- What `do_select` reads its SAK from is the answer to the SELECT of that level. -/
theorem doSelect_ok {sel : UInt8} {level : Vector UInt8 5} {hwCrc : Bool} {t t' : Tally T E}
    {sak : Sak}
    (h : (doSelect sel level hwCrc : Act (Tally T E) (ActivationError E) Sak).run t =
      (.ok sak, t')) :
    ∃ answer, t'.log =
      t.log ++ [(.standard (closed hwCrc (sel :: 0x70 :: level.toList)), .ok answer)] := by
  have hfits : Fits frameCap 7 := fits_frameCap (by decide)
  have hnvb : NumberOfValidBits.select.toByte = 0x70 := rfl
  simp only [doSelect, hnvb] at h
  rw [Act.run_bind, run_lift, tryPush_of_fits (hfits.mono (by simp))] at h
  simp only [Res.mapErr_ok] at h
  rw [Act.run_bind, run_lift, tryPush_of_fits (hfits.mono (by simp))] at h
  simp only [Res.mapErr_ok] at h
  rw [Act.run_bind, run_lift, tryExtend_of_fits (hfits.mono (by simp))] at h
  simp only [Res.mapErr_ok, List.nil_append, List.cons_append] at h
  rw [Act.run_bind, run_lift, frameOf_of_fits _ (by simp)] at h
  simp only [Res.mapErr_ok] at h
  obtain ⟨answer, t1, hcall, h⟩ := Act.run_bind_eq_ok.mp h
  refine ⟨answer, ?_⟩
  -- reading the SAK makes no call
  have hsame : t' = t1 := by
    cases hwCrc with
    | false => exact (congrArg Prod.snd h).symm
    | true =>
      rw [readSak, if_pos rfl] at h
      split at h
      · cases h
      · obtain ⟨byte, t2, hbyte, h⟩ := Act.run_bind_eq_ok.mp h
        exact (congrArg Prod.snd h).symm.trans (congrArg Prod.snd hbyte).symm
  rw [hsame]
  exact transceive_ok hcall

/-- One level: what comes after it starts behind its two calls. -/
theorem level_ok {α : Type} {sel : UInt8} {hwCrc : Bool} {t t' : Tally T E} {value : α}
    {rest : Vector UInt8 5 → Sak → Act (Tally T E) (ActivationError E) α}
    (h : (do
      let level ← doAnticollision sel
      let sak ← doSelect sel level hwCrc
      rest level sak : Act (Tally T E) (ActivationError E) α).run t = (.ok value, t')) :
    ∃ level sak answer t1, ValidLevel level.toList ∧
      t1.log = t.log ++ levelCalls hwCrc sel level.toList answer ∧
      (rest level sak).run t1 = (.ok value, t') := by
  obtain ⟨level, t1, hanti, h⟩ := Act.run_bind_eq_ok.mp h
  obtain ⟨sak, t2, hselect, h⟩ := Act.run_bind_eq_ok.mp h
  obtain ⟨hvalid, hlog⟩ := doAnticollision_ok hanti
  obtain ⟨answer, hlog'⟩ := doSelect_ok hselect
  refine ⟨level, sak, answer, t2, hvalid, ?_, h⟩
  rw [hlog', hlog, List.append_assoc]
  rfl

omit [PcdTransceiver T E] in
/-- What the levels bring to the UID, given back. -/
theorem buildActivation_ok {atqa : AtqA} {sak : Sak} {levels : List (Vector UInt8 5)} {n : Nat}
    (hn : n = levels.length) (hpos : 1 ≤ n) (hlen : n ≤ 3) {t t' : Tally T E} {act : Activation}
    (h : (lift (buildActivation atqa sak levels n) :
      Act (Tally T E) (ActivationError E) Activation).run t = (.ok act, t')) :
    act.uid = joined (levels.map Vector.toList) ∧ t' = t := by
  subst hn
  rw [run_lift, buildActivation_eq _ _ hpos hlen] at h
  cases h
  refine ⟨?_, rfl⟩
  have hparts := uidParts_eq_joined levels 0
  rw [Nat.zero_add] at hparts
  exact hparts

/-- **An activation that succeeds has a transcript**: the log is the request, and for every level of
    the UID an anticollision and a SELECT with the same five bytes. -/
theorem doActivate_transcript {req : Command} (hreq : req = .reqA ∨ req = .wupA) {t : T}
    {t' : Tally T E} {act : Activation}
    (h : (doActivate req : Act (Tally T E) (ActivationError E) Activation).run ⟨t, []⟩ =
      (.ok act, t')) : Transcript (usesHwCrc t) act.uid t'.log := by
  obtain ⟨byte, -, hframe⟩ := toFrame_request hreq
  rw [doActivate] at h
  obtain ⟨hwCrc, t1, hprobe, h⟩ := Act.run_bind_eq_ok.mp h
  obtain ⟨frame, t2, hlift, h⟩ := Act.run_bind_eq_ok.mp h
  obtain ⟨resp, t3, hcall, h⟩ := Act.run_bind_eq_ok.mp h
  obtain ⟨atqa, t4, hatqa, h⟩ := Act.run_bind_eq_ok.mp h
  obtain rfl : usesHwCrc t = hwCrc := Res.ok.inj (congrArg Prod.fst hprobe)
  have hlog1 : t1.log = [] := (congrArg (fun p => p.2.log) hprobe).symm
  rw [run_lift, hframe] at hlift
  obtain ⟨rfl, rfl⟩ : Frame.short [byte] = frame ∧ t1 = t2 :=
    ⟨Res.ok.inj (congrArg Prod.fst hlift), congrArg Prod.snd hlift⟩
  obtain rfl : t3 = t4 := congrArg Prod.snd hatqa
  have hlog3 := transceive_ok hcall
  rw [hlog1, List.nil_append] at hlog3
  -- one level after the other, until a SAK says that the UID is complete
  obtain ⟨cl1, sak1, answer1, t5, hvalid1, hlog5, h⟩ := level_ok h
  split at h
  · obtain ⟨huid, rfl⟩ := buildActivation_ok rfl (by simp) (by simp) h
    refine ⟨byte, resp, [(cl1.toList, answer1)], ?_, by simp, by simp, ?_, huid⟩
    · rw [hlog5, hlog3]
      simp [levelsCalls]
    · simpa using hvalid1
  · obtain ⟨cl2, sak2, answer2, t6, hvalid2, hlog6, h⟩ := level_ok h
    split at h
    · obtain ⟨huid, rfl⟩ := buildActivation_ok rfl (by simp) (by simp) h
      refine ⟨byte, resp, [(cl1.toList, answer1), (cl2.toList, answer2)], ?_, by simp, by simp, ?_,
        huid⟩
      · rw [hlog6, hlog5, hlog3]
        simp [levelsCalls]
      · simpa using ⟨hvalid1, hvalid2⟩
    · obtain ⟨cl3, sak3, answer3, t7, hvalid3, hlog7, h⟩ := level_ok h
      split at h
      · obtain ⟨huid, rfl⟩ := buildActivation_ok rfl (by simp) (by simp) h
        refine ⟨byte, resp, [(cl1.toList, answer1), (cl2.toList, answer2), (cl3.toList, answer3)], ?_,
          by simp, by simp, ?_, huid⟩
        · rw [hlog7, hlog6, hlog5, hlog3]
          simp [levelsCalls]
        · simpa using ⟨hvalid1, hvalid2, hvalid3⟩
      · cases h

end Runs

/-! ## What the UID says

  The levels that were selected against those the UID stands for. -/

/-- A run of `activate` or `wakeup` that succeeds, with its calls, over any transceiver.  The calls
    say what was selected, byte by byte; the activation says what the reader makes of it. -/
inductive Activated [Build] (hwCrc : Bool) (act : Activation)
    (log : List (Frame × Except E FrameVec)) : Prop where
  | activate {T : Type} [PcdTransceiver T E] (t : T) (t' : Tally T E) (hcrc : usesHwCrc t = hwCrc)
      (hlog : t'.log = log) (h : (activate : Act (Tally T E) (ActivationError E) _).run ⟨t, []⟩ =
        (.ok act, t')) : Activated hwCrc act log
  | wakeup {T : Type} [PcdTransceiver T E] (t : T) (t' : Tally T E) (hcrc : usesHwCrc t = hwCrc)
      (hlog : t'.log = log) (h : (wakeup : Act (Tally T E) (ActivationError E) _).run ⟨t, []⟩ =
        (.ok act, t')) : Activated hwCrc act log

variable {hwCrc : Bool} {act : Activation} {log : List (Frame × Except E FrameVec)}

/-- What an activation reports is what its calls tell. -/
theorem Activated.transcript [Build] (h : Activated hwCrc act log) :
    Transcript hwCrc act.uid log := by
  cases h with
  | activate t t' hcrc hlog h =>
    subst hcrc hlog
    exact doActivate_transcript (Or.inl rfl) h
  | wakeup t t' hcrc hlog h =>
    subst hcrc hlog
    exact doActivate_transcript (Or.inr rfl) h

/-- The five bytes each SELECT of a log selects. -/
def selectedLevels (log : List (Frame × Except E FrameVec)) : List (List UInt8) :=
  (selects log).map fun data => (data.drop 2).take 5

/-- The UID has one of the three sizes, every anticollision answer was checked, and what was selected
    is what the UID stands for. -/
structure Identifies (hwCrc : Bool) (uid : FrameVec) (log : List (Frame × Except E FrameVec)) :
    Prop where
  size : uid.length = 4 ∨ uid.length = 7 ∨ uid.length = 10
  checked : ∀ answer ∈ anticollisions log, ValidLevel answer
  selected : selects log = selectFrames hwCrc [selCl1, selCl2, selCl3] (levelsOf uid)

/-- The card put the cascade tag in front of every level but the last one. -/
def TagsLeftOut (log : List (Frame × Except E FrameVec)) : Prop :=
  ∀ answer ∈ (anticollisions log).dropLast, answer.head? = some cascadeTag

/-- Two frames that are closed to the same bytes are the same. -/
theorem closed_injective {data data' : List UInt8} (h : closed hwCrc data = closed hwCrc data') :
    data = data' := by
  cases hwCrc with
  | true => exact h
  | false =>
    have hopen := congrArg splitCrcA (show withCrc data = withCrc data' from h)
    rw [splitCrcA_withCrc, splitCrcA_withCrc] at hopen
    exact Res.ok.inj hopen

/-- The SELECT commands say which levels they select. -/
theorem selectFrames_injective {sels : List UInt8} {levels levels' : List (List UInt8)}
    (hlen : levels.length ≤ sels.length) (hlen' : levels'.length ≤ sels.length)
    (h : selectFrames hwCrc sels levels = selectFrames hwCrc sels levels') : levels = levels' := by
  induction sels generalizing levels levels' with
  | nil =>
    rw [List.length_eq_zero_iff.mp (Nat.le_zero.mp hlen),
      List.length_eq_zero_iff.mp (Nat.le_zero.mp hlen')]
  | cons sel sels ih =>
    cases levels with
    | nil =>
      cases levels' with
      | nil => rfl
      | cons level' levels' => cases h
    | cons level levels =>
      cases levels' with
      | nil => cases h
      | cons level' levels' =>
        obtain ⟨hfirst, hrest⟩ := List.cons.inj h
        have hlevel := closed_injective hfirst
        rw [ih (Nat.le_of_succ_le_succ hlen) (Nat.le_of_succ_le_succ hlen') hrest]
        rw [(List.cons.inj (List.cons.inj hlevel).2).2]

/-- A UID of three levels or fewer stands for three levels or fewer. -/
theorem length_levelsOf_le (uid : List UInt8) : 3 * (levelsOf uid).length ≤ uid.length + 1 ∨
    (levelsOf uid).length = 1 := by
  fun_induction levelsOf uid with
  | case1 a b c d e rest ih =>
    left
    simp only [List.length_cons] at ih ⊢
    omega
  | case2 last => right; rfl

/-- The bytes each SELECT selects, read off its frame. -/
theorem map_selectFrames {sels : List UInt8} {levels : List (List UInt8)}
    (hlen : levels.length ≤ sels.length) (h : ∀ level ∈ levels, ValidLevel level) :
    (selectFrames hwCrc sels levels).map (fun data => (data.drop 2).take 5) = levels := by
  induction sels generalizing levels with
  | nil =>
    rw [List.length_eq_zero_iff.mp (Nat.le_zero.mp hlen)]
    rfl
  | cons sel sels ih =>
    cases levels with
    | nil => rfl
    | cons level levels =>
      have hfive := (h level List.mem_cons_self).1
      have hrest := ih (Nat.le_of_succ_le_succ hlen) fun l hl => h l (List.mem_cons_of_mem _ hl)
      have hhead : ((closed hwCrc (sel :: 0x70 :: level)).drop 2).take 5 = level := by
        cases hwCrc with
        | true => exact List.take_of_length_le (Nat.le_of_eq hfive)
        | false => exact List.take_left' hfive
      rw [selectFrames, List.zipWith_cons_cons, List.map_cons, hhead, ← selectFrames, hrest]

/-- What a transcript says about the levels: they are the anticollision answers, what was selected,
    and what the UID was made of. -/
structure Levels (hwCrc : Bool) (uid : FrameVec) (levels : List (List UInt8))
    (log : List (Frame × Except E FrameVec)) : Prop where
  ne : levels ≠ []
  three : levels.length ≤ 3
  valid : ∀ level ∈ levels, ValidLevel level
  uid : uid = joined levels
  answers : anticollisions log = levels
  selects : selects log = selectFrames hwCrc [selCl1, selCl2, selCl3] levels

/-- The calls of an activation go through one to three levels, whose answers make up the UID. -/
theorem Transcript.levels {uid : FrameVec} (h : Transcript hwCrc uid log) :
    ∃ levels, Levels hwCrc uid levels log := by
  obtain ⟨byte, atqa, levels, rfl, hne, hthree, hvalid, huid⟩ := h.calls
  refine ⟨levels.map Prod.fst, ?_, ?_, ?_, huid, ?_, ?_⟩
  · simpa using hne
  · simpa using hthree
  · intro level hl
    obtain ⟨pair, hpair, rfl⟩ := List.mem_map.mp hl
    exact hvalid pair hpair
  · exact anticollisions_levelsCalls hwCrc hthree
  · exact selects_levelsCalls hwCrc _ levels

/-- **The UID says what was selected exactly when what was left out of it was the tag.** -/
theorem Levels.identifies_iff {uid : FrameVec} {levels : List (List UInt8)}
    (h : Levels hwCrc uid levels log) : Identifies hwCrc uid log ↔ TagsLeftOut log := by
  have hlen := length_joined h.ne h.valid
  have hpos := List.length_pos_iff.mpr h.ne
  have hthree := h.three
  rw [TagsLeftOut, h.answers, ← levelsOf_joined h.ne h.valid, ← h.uid]
  rw [← h.uid] at hlen
  constructor
  · intro hid
    have hsel := hid.selected
    rw [h.selects] at hsel
    refine (selectFrames_injective hthree ?_ hsel).symm
    rcases length_levelsOf_le uid with hle | hone
    · show _ ≤ 3
      omega
    · rw [hone]
      decide
  · intro hlevels
    refine ⟨by omega, ?_, ?_⟩
    · rw [h.answers]
      exact h.valid
    · rw [h.selects, hlevels]

/-- Where only tags were left out, the levels that were selected are those of the UID. -/
theorem Levels.selectedLevels_eq {uid : FrameVec} {levels : List (List UInt8)}
    (h : Levels hwCrc uid levels log) (htags : TagsLeftOut log) :
    selectedLevels log = levelsOf uid := by
  rw [TagsLeftOut, h.answers, ← levelsOf_joined h.ne h.valid, ← h.uid] at htags
  rw [selectedLevels, h.selects, htags]
  exact map_selectFrames h.three h.valid

/-- **The UID that an activation reports says what was selected exactly when only tags were left
    out of it**, and then no two activations that selected different bytes report the same UID. -/
theorem activated_identifies_iff [Build] {E' : Type} {hwCrc' : Bool} {act' : Activation}
    {log' : List (Frame × Except E' FrameVec)} (h : Activated hwCrc act log)
    (h' : Activated hwCrc' act' log') :
    (Identifies hwCrc act.uid log ↔ TagsLeftOut log) ∧
      (TagsLeftOut log → TagsLeftOut log' → act.uid = act'.uid →
        selectedLevels log = selectedLevels log') := by
  obtain ⟨levels, hlevels⟩ := h.transcript.levels
  obtain ⟨levels', hlevels'⟩ := h'.transcript.levels
  refine ⟨hlevels.identifies_iff, ?_⟩
  intro htags htags' huid
  rw [hlevels.selectedLevels_eq htags, hlevels'.selectedLevels_eq htags', huid]

/-! ## Two cards, one UID

  The two answers differ in the byte that is dropped, and in the check byte with it. -/

/-- A card of two levels that answers the first anticollision with this byte in the tag's place; the
    transceiver leaves the CRC out. -/
def twoLevels (first : UInt8) : Pcd.Scripted :=
  ⟨[[0x44, 0x00], [first, 1, 2, 3, first ^^^ 1 ^^^ 2 ^^^ 3], [0x04], [4, 5, 6, 7, 4 ^^^ 5 ^^^ 6 ^^^ 7],
    [0x20]]⟩

/-- The calls of its activation. -/
def twoLevelsCalls (first : UInt8) : List (Frame × Except Unit FrameVec) :=
  (.short [0x26], .ok [0x44, 0x00]) ::
    (levelCalls true selCl1 [first, 1, 2, 3, first ^^^ 1 ^^^ 2 ^^^ 3] [0x04] ++
      levelCalls true selCl2 [4, 5, 6, 7, 4 ^^^ 5 ^^^ 6 ^^^ 7] [0x20])

/-- A card of two levels with its cascade tag is activated. -/
theorem activated_tagged : let : Build := Build.heapless
    ∃ act : Activation, act.uid = [1, 2, 3, 4, 5, 6, 7] ∧
      Activated true act (twoLevelsCalls 0x88) := by
  intro _
  exact ⟨_, rfl, .activate (twoLevels 0x88) ⟨⟨[]⟩, twoLevelsCalls 0x88⟩ rfl rfl rfl⟩

/-- The same with another byte in the tag's place. -/
theorem activated_untagged : let : Build := Build.heapless
    ∃ act : Activation, act.uid = [1, 2, 3, 4, 5, 6, 7] ∧
      Activated true act (twoLevelsCalls 0x08) := by
  intro _
  exact ⟨_, rfl, .activate (twoLevels 0x08) ⟨⟨[]⟩, twoLevelsCalls 0x08⟩ rfl rfl rfl⟩

/-- The first card is identified by its UID, the second one is not. -/
theorem activated_identifies_iff_twoLevels : let : Build := Build.heapless
    Identifies true [1, 2, 3, 4, 5, 6, 7] (twoLevelsCalls 0x88) ∧
      ¬ Identifies true [1, 2, 3, 4, 5, 6, 7] (twoLevelsCalls 0x08) := by
  intro _
  obtain ⟨act, huid, h⟩ := activated_tagged
  obtain ⟨act', huid', h'⟩ := activated_untagged
  rw [← huid]
  refine ⟨(activated_identifies_iff h h').1.mpr ?_, ?_⟩
  · intro answer ha
    obtain rfl : answer = [0x88, 1, 2, 3, 0x88 ^^^ 1 ^^^ 2 ^^^ 3] := List.mem_singleton.mp ha
    rfl
  · rw [huid, ← huid']
    intro hid
    have htag := (activated_identifies_iff h' h).1.mp hid _ (List.mem_singleton.mpr rfl)
    cases htag

/-- **Two cards that are selected by different bytes and report one UID.** -/
theorem not_identifies : let : Build := Build.heapless
    ¬ ∀ (hwCrc hwCrc' : Bool) (act act' : Activation) (log log' : List (Frame × Except Unit FrameVec)),
      Activated hwCrc act log → Activated hwCrc' act' log' → act.uid = act'.uid →
        selectedLevels log = selectedLevels log' := by
  intro _ hall
  obtain ⟨act, huid, h⟩ := activated_tagged
  obtain ⟨act', huid', h'⟩ := activated_untagged
  have hsame := hall _ _ _ _ _ _ h h' (huid.trans huid'.symm)
  cases hsame

end Activation

end Iso14443
