/-
  A reader and the card thread do what their `Meeting` says.

  * `Meets`            — the meeting, and the program of the reader with the thread behind the air.
                         It has one constructor for each phase of the meeting, which names the
                         relation between the two sides that holds there (`Iso14443.ThreadSteps`).
  * `Meets.step`       — one operation that fits: it succeeds, with what the meeting gives, and the
                         meeting it leads to is met.
  * `encounter`        — every sequence of operations that fit, session after session.

  This is the top of the development: an abstract machine without a frame, and the code of both
  sides with a thread in between that simulates it step by step.
-/
import Iso14443.ThreadSteps

namespace Iso14443

open Air

/-- **The meeting, and what is behind it.** One constructor for each phase, which names the relation
    between reader and thread that holds there.  It is the simulation relation of `encounter`. -/
inductive Meets [Build] (host : Host) : Meeting → ReaderSession (Tally Air Unit) → Prop
  /-- The thread has served its sessions. -/
  | gone {handed t} (h : Hosts host t.inner) (hh : t.inner.thread.card.handed = handed) :
      Meets host ⟨.away, 0, handed⟩ (.field t)
  | away {handed n t} (h : Hosts host t.inner) (ha : Away host handed n t.inner.thread) :
      Meets host ⟨.away, n + 1, handed⟩ (.field t)
  | selected {handed n t} (h : Hosts host t.inner) (hs : Selected host handed n t.inner.thread) :
      Meets host ⟨.selected, n + 1, handed⟩ (.field t)
  | joined {handed n g frames pcd} (h : Hosts host pcd.transceiver.inner)
      (hj : Joined host handed n g frames pcd) :
      Meets host ⟨.joined g frames, n + 1, handed⟩ (.session pcd)
  | parted {handed left pcd} (h : Hosts host pcd.transceiver.inner)
      (hh : pcd.transceiver.inner.thread.card.handed = handed)
      (ha : ∀ n, left = n + 1 → Away host handed n pcd.transceiver.inner.thread) :
      Meets host ⟨.parted, left, handed⟩ (.session pcd)

namespace Meets

variable [Build] {host : Host} {m : Meeting} {s : ReaderSession (Tally Air Unit)}

/-- The application was handed what the meeting says. -/
theorem handed (h : Meets host m s) : s.transceiver.inner.thread.card.handed = m.handed := by
  cases h with
  | gone h hh => exact hh
  | away h ha => exact ha.handed_eq
  | selected h hs => exact hs.handed_eq
  | joined h hj => exact hj.holds.handed_eq
  | parted h hh ha => exact hh

/-- **One operation.** By the phase of the meeting and the operation: those that do not fit are
    excluded, and for each of the others `Iso14443.ThreadSteps` has the case. -/
theorem step (h : Meets host m s) {op : ReaderOp} (hfits : m.Fits host op) :
    (s.step op).1 = some (.ok (m.step host op).1) ∧ Meets host (m.step host op).2 (s.step op).2 := by
  -- what the card brings along is what it was
  have hkept : ∀ {s : ReaderSession (Tally Air Unit)}, Hosts host s.transceiver.inner →
      Hosts host (s.step op).2.transceiver.inner := by
    intro s hs
    exact ReaderSession.keeps_step (I := fun t : Tally Air Unit => Hosts host t.inner)
      (fun t frame ht => ht.transceive frame) (fun t ht => ht) hs op
  cases h with
  | gone h hh =>
    cases op with
    | activate | wakeup => exact absurd hfits (Nat.lt_irrefl 0)
    | connect | setLimits | pps | exchange | deselect | release => exact hfits.elim
  | @away handed n t h ha =>
    have hact : ∀ req : Command, (req = .reqA ∨ req = .wupA) → ∃ t', (Activation.doActivate req).run t =
        ((.ok host.activation, t') : Res (ActivationError Unit) Activation × Tally Air Unit) ∧
          Selected host handed n t'.inner.thread := fun _ hreq => activate_air h ha hreq
    have hnext := hkept (s := .field t) h
    cases op with
    | activate =>
      obtain ⟨t', hrun, hsel⟩ := hact .reqA (Or.inl rfl)
      simp only [ReaderSession.step, ReaderSession.onField, Activation.activate, hrun] at hnext ⊢
      exact ⟨rfl, .selected hnext hsel⟩
    | wakeup =>
      obtain ⟨t', hrun, hsel⟩ := hact .wupA (Or.inr rfl)
      simp only [ReaderSession.step, ReaderSession.onField, Activation.wakeup, hrun] at hnext ⊢
      exact ⟨rfl, .selected hnext hsel⟩
    | connect | setLimits | pps | exchange | deselect | release => exact hfits.elim
  | @selected handed n t h hs =>
    have hnext := hkept (s := .field t) h
    cases op with
    | connect fsdi cid =>
      obtain ⟨pcd, t', hrun, hj⟩ := connect_air h hs fsdi cid
      simp only [ReaderSession.step, hrun] at hnext ⊢
      exact ⟨rfl, .joined hnext hj⟩
    | activate | wakeup | setLimits | pps | exchange | deselect | release => exact hfits.elim
  | @joined handed n g frames pcd h hj =>
    have hnext := hkept (s := .session pcd) h
    cases op with
    | setLimits limits =>
      obtain ⟨w, hl, hfates⟩ := hj.linked
      refine ⟨rfl, .joined h ⟨hj.holds, ⟨w, hl.withHandler hl.role, hfates⟩, ?_, ?_, hj.frames_eq⟩⟩
      · exact ⟨hj.inStep.call, hj.inStep.chain, hj.inStep.number⟩
      · rw [← hj.setting]
        rfl
    | pps dri dsi =>
      obtain ⟨pcd', hrun, hj'⟩ := pps_air h hj hfits dri dsi
      simp only [ReaderSession.step, ReaderSession.onSession, hrun] at hnext ⊢
      exact ⟨rfl, .joined hnext hj'⟩
    | exchange fuel apdu =>
      obtain ⟨hne, haff, hcommand, hresponse⟩ := hfits
      obtain ⟨pcd', hrun, hj'⟩ := exchange_air hj hne haff hcommand hresponse
      simp only [ReaderSession.step, ReaderSession.onSession, hrun] at hnext ⊢
      exact ⟨rfl, .joined hnext hj'⟩
    | deselect =>
      obtain ⟨pcd', hrun, hh, ha⟩ := deselect_air h hj hfits
      simp only [ReaderSession.step, ReaderSession.onSession, hrun] at hnext ⊢
      exact ⟨rfl, .parted hnext hh ha⟩
    | activate | wakeup | connect | release => exact hfits.elim
  | @parted handed left pcd h hh ha =>
    cases op with
    | release =>
      refine ⟨rfl, ?_⟩
      cases left with
      | zero => exact .gone h hh
      | succ n => exact .away h (ha n rfl)
    | activate | wakeup | connect | setLimits | pps | exchange | deselect => exact hfits.elim

end Meets

/-! ## Every sequence of operations

  The induction over the program of the reader, from the moment in which the card thread is
  started. -/

/-- The thread as it is started: the card is built, and waits to be activated. -/
def Host.thread [Build] (host : Host) (sessions : Nat) : CardThread :=
  CardThread.call
    { card := { session := .built ⟨⟨host.hwCrc⟩, []⟩ host.config host.limits, respond := host.respond }
      sessions }
    .waitForActivation

/-- The program of a reader, before its first operation. -/
def Host.reader [Build] (host : Host) (sessions : Nat) : ReaderSession (Tally Air Unit) :=
  .field ⟨⟨host.thread sessions, []⟩, []⟩

/-- The start. -/
theorem Meets.start [Build] (host : Host) (sessions : Nat) :
    Meets host ⟨.away, sessions + 1, []⟩ (host.reader sessions) := by
  let built : PiccSession (Logged Antenna) := .built ⟨⟨host.hwCrc⟩, []⟩ host.config host.limits
  have hnew : built.picc.hwCrc = host.hwCrc := by
    simp only [built, PiccSession.built, Picc.setLimits, Picc.new, PiccTransceiver.tryEnableHwCrc]
    cases host.hwCrc <;> rfl
  have hbuilt : PiccSession.Orderly built.picc built :=
    ⟨⟨rfl, rfl, fun level hl => (by cases hl), Nat.le_refl 256⟩, fun _ hcall => (by cases hcall)⟩
  refine .away ⟨rfl, rfl, built.picc, hnew, rfl, ?_⟩ ⟨⟨rfl, rfl, rfl⟩, rfl, rfl⟩
  exact (hbuilt.step (E := Unit) (.call .waitForActivation)).2

/-- **A reader and a card thread do what their meeting says.**  Over a link that loses nothing, every
    operation of every sequence that fits succeeds, session after session: an activation gives the UID
    of the card, `connect` its ATS, `exchange` the response to its command; and the application of the
    card is handed each command once, and nothing else. -/
theorem encounter [Build] (host : Host) (sessions : Nat) {ops : List ReaderOp}
    (hfits : ∀ e ∈ Run.trace (Meeting.step host) ⟨.away, sessions + 1, []⟩ ops,
      e.before.Fits host e.input) :
    List.Forall₂ (fun e e' => e'.output = some (.ok e.output) ∧
        e'.after.transceiver.inner.thread.card.handed = e.after.handed)
      (Run.trace (Meeting.step host) ⟨.away, sessions + 1, []⟩ ops)
      (Run.trace ReaderSession.step (host.reader sessions) ops) := by
  have hstep : ∀ (m : Meeting) (s : ReaderSession (Tally Air Unit)) (op op' : ReaderOp),
      Meets host m s → op = op' →
      ¬ (Run.event (Meeting.step host) m op).before.Fits host (Run.event (Meeting.step host) m op).input ∨
        ((s.step op').1 = some (.ok (m.step host op).1) ∧
          Meets host (m.step host op).2 (s.step op').2) := by
    rintro m s op _ hm rfl
    by_cases hop : m.Fits host op
    · exact Or.inr (hm.step hop)
    · exact Or.inl hop
  have hsame : List.Forall₂ (fun op op' : ReaderOp => op = op') ops ops :=
    List.forall₂_same.mpr fun _ _ => rfl
  have hruns := Run.trace_follows (Meeting.step host)
    (W := fun value output => output = some (Res.ok value)) hstep (Meets.start host sessions) hsame
    fun e he => not_not_intro (hfits e he)
  exact hruns.imp fun e e' h => ⟨h.1, h.2.handed⟩

/-- The card of `example/loopback.rs`: it answers a command by the command and `90 00`. -/
def exampleHost [Build] : Host where
  uid := .triple #v[0xde, 0xad, 0xbe, 0xef, 0xca, 0xfe, 0xba, 0xbe, 0x13, 0x37]
  ats := Ats.new .fsc16 0x80 {} Tc.cidSupp
  hwCrc := false
  limits := Limits.default
  respond handed := handed.getLastD [] ++ [0x90, 0x00]
  canonical := Ats.canonical_new _ _ (by decide) (by decide) []
  length_le := by decide

/-- The reader of `example/loopback.rs`. -/
def exampleOps : List ReaderOp :=
  [.activate, .connect .fsd16 0, .pps .dx2 .dx2, .exchange 4 [0x00, 0xa4, 0x04, 0x00],
    .exchange 4 ((List.range 30).map UInt8.ofNat), .deselect, .release,
    .wakeup, .connect .fsd16 0, .exchange 4 [0x00, 0xb0, 0x00, 0x00, 0x04], .deselect, .release]

/-- The example: two sessions. -/
theorem encounter_sample : let : Build := Build.heap
    List.Forall₂ (fun e e' => e'.output = some (.ok e.output) ∧
        e'.after.transceiver.inner.thread.card.handed = e.after.handed)
      (Run.trace (Meeting.step exampleHost) ⟨.away, 2, []⟩ exampleOps)
      (Run.trace ReaderSession.step (exampleHost.reader 1) exampleOps) := by
  have hfits : let : Build := Build.heap
      ∀ e ∈ Run.trace (Meeting.step exampleHost) ⟨.away, 2, []⟩ exampleOps,
        e.before.Fits exampleHost e.input := by decide +kernel
  intro _
  exact encounter exampleHost 1 hfits

end Iso14443
