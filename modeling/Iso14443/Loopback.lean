/-
  Loopback: a reader and a card that `connect` has brought together (`example/loopback.rs`, with
  any commands and any responses).

  * `loopback`          — over a link that loses nothing every exchange of every sequence is
                          delivered, and nothing is ever sent again.
  * `exchange_recovers` — over a link that never fails three times in a row, once the reader has
                          the first I-Block of the response, the response is delivered all the
                          same.

  Both are read off `Iso14443.Dialogue`, the first one at `m = 1` and the second one at `m = 3`:
  what is left to do is to say what the limits have to allow (`Setting.Admits`, `Affords`), to see
  that an exchange over a link that loses nothing is delivered and leaves such a link in step for
  the next one (`Looped`, `Lossless.exchange`), and the induction over the exchanges
  (`exchanging_loops`).
-/
import Iso14443.Agreement
import Iso14443.Dialogue
import Mathlib.Algebra.Order.BigOperators.Group.List
import Mathlib.Algebra.Order.Group.Nat

namespace Iso14443

open ProtocolHandler

/-- An application that gives these responses, one after the other, once it was handed `n` APDUs. -/
def scripted (n : Nat) (responses : List (List UInt8)) (handed : List ChainVec) : List UInt8 :=
  responses.getD (handed.length - n - 1) []

/-- **What a command and its response need of the limits** where nothing is lost: a command that is
    not empty, room for both in the chains and the buffers of the sides that assemble them, and a
    frame for every block. -/
structure Setting.Admits [Build] (g : Setting) (p : List UInt8 × List UInt8) : Prop where
  command : p.1 ≠ []
  commandLen : p.1.length ≤ g.cardLimits.maxChainLen
  responseLen : p.2.length ≤ g.limits.maxChainLen
  commandFits : Fits chainCap p.1.length
  responseFits : Fits chainCap p.2.length
  frames : g.commandBlocks p.1 + g.responseBlocks p.2 - 1 ≤ g.limits.maxFrames
  cardFrames : g.commandBlocks p.1 + g.responseBlocks p.2 - 1 ≤ g.cardLimits.maxFrames

/-- Limits that admit an exchange afford it without losses. -/
theorem Setting.Admits.affords [Build] {g : Setting} {p : List UInt8 × List UInt8}
    (h : g.Admits p) : g.Affords 1 0 p.1 p.2 := by
  have hframes := h.cardFrames
  have hblocks : g.responseBlocks p.2 = g.responseBlocks p.2 - 1 + 1 := rfl
  refine ⟨h.commandLen, h.commandFits, h.responseLen, h.responseFits, h.frames, ?_, by omega⟩
  omega

namespace Reader

open Pcd

variable [Build]

/-- **One exchange of a loopback**: the card is handed the command, the reader gets the response, the
    calls are those of the dialogue, each of them once, and reader and card are in step. -/
structure Looped (e : Run.Event Reader (List UInt8) (Res (PcdError Unit) ChainVec))
    (p : List UInt8 × List UInt8) : Prop where
  command : e.input = p.1
  handed : e.after.card.handed = e.before.card.handed ++ [p.1]
  response : e.output = .ok p.2
  calls : calls e.after = calls e.before ++
    e.before.setting.dialogue e.before.handler.blockNumber p.1 p.2
  inStep : e.after.InStep

/-- Between two exchanges of a link that loses nothing any more: reader and card are in step, and the
    card has counted no frame. -/
structure Lossless (respond : List ChainVec → List UInt8) (s : Reader) (w : Wire) : Prop where
  linked : Linked respond s w
  inStep : s.InStep
  fates : w.fates = []
  frames : s.card.session.picc.handler.counters.frames = 0

/-- **One exchange more**, within the limits: it is one of a loopback, and the next one finds the same
    again, with the same session parameters. -/
theorem Lossless.exchange {respond : List ChainVec → List UInt8} {s : Reader} {w : Wire}
    (h : Lossless respond s w) {apdu resp : List UInt8} (hwithin : s.setting.Admits (apdu, resp))
    (hresp : resp = respond (s.card.handed ++ [apdu])) {fuel : Nat}
    (hcommand : s.setting.commandBlocks apdu ≤ fuel)
    (hresponse : s.setting.responseBlocks resp ≤ fuel) :
    ∃ w', Lossless respond (exchanging fuel s apdu).2 w' ∧
      setting (exchanging fuel s apdu).2 = s.setting ∧
      Looped (Run.event (exchanging fuel) s apdu) (apdu, resp) := by
  have haff : s.setting.Affords 1 s.card.session.picc.handler.counters.frames apdu resp := by
    rw [h.frames]
    exact hwithin.affords
  have hfirst : ∀ i < s.setting.commandBlocks apdu, w.fates.getD i .delivered = .delivered := by
    simp [h.fates]
  have hpatient : Fate.Patient 1 (w.fates.drop (s.setting.commandBlocks apdu)) := by
    rw [h.fates, List.drop_nil]
    exact .nil Nat.one_pos
  obtain ⟨s', w', hrun, hl, hdelivered, k, hk⟩ := exchange_delivers h.linked h.inStep hwithin.command
    hresp Nat.one_pos (by decide) haff hfirst hpatient hcommand hresponse
  have hevent : (exchanging fuel s apdu).2 = s' := congrArg Prod.snd hrun
  have hfates : w'.fates = [] := by rw [hk, h.fates, List.drop_nil]
  obtain ⟨log, hlog, hretold⟩ := hdelivered.talk
  rw [hretold.eq] at hlog
  rw [hevent]
  refine ⟨w', ⟨hl, hdelivered.inStep, hfates, Nat.lt_one_iff.mp hdelivered.frames⟩,
    hdelivered.setting, ⟨rfl, ?_, congrArg Prod.fst hrun, ?_, ?_⟩⟩
  · rw [Run.event_after, hevent]
    exact hdelivered.handed
  · rw [Run.event_after, hevent]
    exact hlog
  · rw [Run.event_after, hevent]
    exact hdelivered.inStep

/-- **The run of a loopback**, from any state in step.  The induction is on the pairs that are left;
    `i` of them are done. -/
theorem exchanging_loops {responses : List (List UInt8)} {n fuel : Nat}
    (pairs : List (List UInt8 × List UInt8)) : ∀ {s : Reader} {w : Wire} {i : Nat},
    Lossless (scripted n responses) s w → s.card.handed.length = n + i →
    responses.drop i = pairs.map Prod.snd → (∀ p ∈ pairs, s.setting.Admits p) →
    (∀ p ∈ pairs, s.setting.commandBlocks p.1 + s.setting.responseBlocks p.2 ≤ fuel) →
    List.Forall₂ Looped (Run.trace (exchanging fuel) s (pairs.map Prod.fst)) pairs := by
  induction pairs with
  | nil =>
    intros
    exact .nil
  | cons p pairs ih =>
    intro s w i h hlen hresponses hadmits hfuel
    obtain ⟨apdu, resp⟩ := p
    have hblocks := hfuel _ (List.mem_cons_self ..)
    dsimp only at hblocks
    rw [List.map_cons] at hresponses
    -- the response of the pair is the one the application gives now
    have hget : responses[i]? = some resp := by
      have h0 : (responses.drop i)[0]? = some resp := by rw [hresponses]; rfl
      rwa [List.getElem?_drop, Nat.add_zero] at h0
    have hresp : resp = scripted n responses (s.card.handed ++ [apdu]) := by
      rw [scripted, List.length_append, hlen, List.length_singleton, List.getD_eq_getElem?_getD,
        show n + i + 1 - n - 1 = i by omega, hget]
      rfl
    obtain ⟨w', hnext, hsetting, hlooped⟩ := h.exchange (hadmits _ (List.mem_cons_self ..)) hresp
      (by omega : _ ≤ fuel) (by omega)
    rw [List.map_cons, Run.trace_cons]
    refine .cons hlooped (ih hnext (i := i + 1) ?_ ?_ ?_ ?_)
    · rw [show (exchanging fuel s apdu).2.card.handed = s.card.handed ++ [apdu] from hlooped.handed,
        List.length_append, hlen, List.length_singleton, Nat.add_assoc]
    · rw [← List.drop_drop, hresponses]
      rfl
    · rw [hsetting]
      exact fun p hp => hadmits p (List.mem_cons_of_mem _ hp)
    · rw [hsetting]
      exact fun p hp => hfuel p (List.mem_cons_of_mem _ hp)

/-- **Loopback.**  A reader and a card that `connect` has brought together over a link that loses
    nothing, under any limits that each command and its response keep to: in every exchange of every
    sequence the card is handed exactly the command, `exchange` returns exactly the response, no block
    is sent twice, and the block numbers are opposite again. -/
theorem loopback {card : Card} {fsdi : Fsdi} {cid : Cid} {s : Reader} {ats : Ats}
    {t : Tally Link Unit} (pairs : List (List UInt8 × List UInt8)) (limits : Limits)
    (hcall : card.session.call = some .waitForRats)
    (hrespond : card.respond = scripted card.handed.length (pairs.map Prod.snd))
    (hconnect : (connect fsdi cid).run (⟨⟨card, []⟩, []⟩ : Tally Link Unit) = (.ok (s, ats), t))
    (hadmits : ∀ p ∈ pairs, (setting (s.setLimits limits)).Admits p) :
    ∃ enough, ∀ fuel ≥ enough, List.Forall₂ Looped
      (Run.trace (exchanging fuel) (s.setLimits limits) (pairs.map Prod.fst)) pairs := by
  obtain ⟨hhandler, cardCid, h⟩ := connect_linked hcall hconnect
  rw [hrespond] at h
  have hl := h.withHandler (k := s.handler.setLimits limits) h.role
  have hpeer := h.shows.handler
  have hstep : InStep (s.setLimits limits) := by
    refine ⟨h.shows.call, ?_, ?_⟩
    · exact congrArg ProtocolHandler.chain hpeer
    · refine (congrArg ProtocolHandler.blockNumber hpeer).trans ?_
      show (1 : Fin 2) = 1 - s.handler.blockNumber
      rw [hhandler]
      exact (show (1 : Fin 2) = 1 - 0 by decide)
  let blocks := fun p : List UInt8 × List UInt8 =>
    (setting (s.setLimits limits)).commandBlocks p.1 +
      (setting (s.setLimits limits)).responseBlocks p.2
  refine ⟨(pairs.map blocks).sum, fun fuel hfuel => ?_⟩
  have hlossless := Lossless.mk hl hstep rfl (congrArg (fun h => h.counters.frames) hpeer)
  refine exchanging_loops (i := 0) pairs hlossless ?_ rfl hadmits fun p hp => ?_
  · rw [Nat.add_zero]
    exact congrArg List.length h.shows.handed
  · exact Nat.le_trans (List.le_sum_of_mem (List.mem_map_of_mem (f := blocks) hp)) hfuel

/-- A card that answers the first command with a response of two I-Blocks, and the second with
    nothing. -/
def scriptedCard : Card := { echoCard with respond := scripted 0 [twoChunks, []] }

/-- The reader, connected to it. -/
def scriptedReader : Reader :=
  { echoReader [] with
    transceiver := ⟨⟨scriptedCard.started ⟨.fsd16, 3⟩ (.standard echoAts), []⟩,
      [(.standard [0xe0, 0x03], .ok echoAts)]⟩ }

omit [Build] in
/-- A short command with a long response, and a long one with an empty response. -/
theorem loopback_sample : let : Build := Build.heap
    ∃ enough, ∀ fuel ≥ enough, List.Forall₂ Looped
      (Run.trace (exchanging fuel) (scriptedReader.setLimits Limits.default) [[7], twoChunks])
      [([7], twoChunks), (twoChunks, [])] := by
  intro _
  have hconnect : (connect .fsd16 3).run (⟨⟨scriptedCard, []⟩, []⟩ : Tally Link Unit) =
      (.ok (scriptedReader, { Ats.new .fsc16 0 {} Tc.cidSupp with length := 5 }),
        scriptedReader.transceiver) := rfl
  refine loopback [([7], twoChunks), (twoChunks, [])] Limits.default rfl rfl hconnect ?_
  intro p hp
  rcases List.mem_pair.mp hp with rfl | rfl
  · exact ⟨by decide, by decide, by decide, by decide, by decide, by decide, by decide⟩
  · exact ⟨by decide, by decide, by decide, by decide, by decide, by decide, by decide⟩

/-! ## Recovery

  One exchange whose answers may get lost, from the first I-Block of the response on. -/

variable {respond : List ChainVec → List UInt8} {s : Reader} {w : Wire}

/-- **Recovery while a response comes in.**  Reader and card are in step, and the command arrives with
    its answer, the first I-Block of the response.  From then on any frame of the reader and any answer
    of the card may be lost, as long as no three calls in a row fail.  Within the budgets `exchange`
    returns the response: its I-Blocks have come in once each and in their order, after fewer than
    three calls that failed, and reader and card are in step again. -/
theorem exchange_recovers (h : Linked respond s w) (hstep : s.InStep) {apdu resp : List UInt8}
    (hne : apdu ≠ []) (hresp : resp = respond (s.card.handed ++ [apdu]))
    (haff : s.setting.Affords 3 s.card.session.picc.handler.counters.frames apdu resp)
    (hfirst : ∀ i < s.setting.commandBlocks apdu, w.fates.getD i .delivered = .delivered)
    (hpatient : Fate.Patient 3 (w.fates.drop (s.setting.commandBlocks apdu))) :
    ∃ enough, ∀ fuel ≥ enough, ∃ s' w', (exchange fuel apdu).run s = (.ok resp, s') ∧
      Linked respond s' w' ∧ s.Delivered 3 apdu resp s' := by
  refine ⟨s.setting.commandBlocks apdu + s.setting.responseBlocks resp, fun fuel hfuel => ?_⟩
  obtain ⟨s', w', hrun, hl, hdelivered, -⟩ := exchange_delivers h hstep hne hresp (by decide)
    (by decide) haff hfirst hpatient (by omega : _ ≤ fuel) (by omega)
  exact ⟨s', w', hrun, hl, hdelivered⟩

omit [Build] in
/-- A command of two I-Blocks arrives; then an answer is lost, and the next frame. -/
theorem exchange_recovers_sample : let : Build := Build.heap
    ∃ enough, ∀ fuel ≥ enough, ∃ s' w', (exchange fuel twoChunks).run
        (echoReader [.delivered, .delivered, .answerLost, .frameLost]) = (.ok twoChunks, s') ∧
      Linked (answering id) s' w' ∧
      (echoReader [.delivered, .delivered, .answerLost, .frameLost]).Delivered 3 twoChunks twoChunks
        s' := by
  intro _
  obtain ⟨-, cardCid, hl⟩ := connect_linked rfl
    (connect_echoReader [.delivered, .delivered, .answerLost, .frameLost])
  have hfirst : ∀ i < 2, [Fate.delivered, .delivered, .answerLost, .frameLost].getD i .delivered =
      .delivered := by decide
  have hpatient : Fate.Patient 3 [.answerLost, .frameLost] := by decide
  refine exchange_recovers hl ⟨rfl, rfl, rfl⟩ (by decide) rfl ?_ hfirst hpatient
  exact ⟨by decide, by decide, by decide, by decide, by decide, by decide, by decide⟩

end Reader

end Iso14443
