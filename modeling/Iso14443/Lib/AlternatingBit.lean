/-
  The receiver of an alternating bit protocol.

  A sender numbers its messages by turns with 0 and 1, and sends some of them again.  What the
  receiver makes of them is told from the messages alone: it awaits one number, takes a part that
  carries it, and drops a part that does not.

  * `Kind`            — what a message is to the receiver: a part with its number; an
                        acknowledgement with its number, which moves the turn on without a part;
                        something that makes both sides start over; or nothing of these.
  * `Receiver`        — the number that is awaited, and the parts so far.
  * `take`, `gather`  — one message, and a list of them.
  * `Linked`          — the parts carry alternating numbers, up to the one that is awaited.

  `Linked` is an invariant as long as no acknowledgement comes between two parts (`Linked.take`),
  and that the parts are a sublist of the messages needs no assumption (`parts_gather`).  Together
  they are what can be promised whatever the sender does: each part was sent, in this order, and
  taken once for each time its number came round.
-/
import Mathlib.Data.List.Chain

namespace AlternatingBit

/-- What a message is to the receiver.  The messages themselves are of any type; a protocol says of
    each of its own which kind it is. -/
inductive Kind where
  /-- A part of a transfer. -/
  | part (number : Fin 2)
  /-- An acknowledgement: the turn passes without a part. -/
  | ack (number : Fin 2)
  /-- Both sides start over. -/
  | restart
  | other
deriving DecidableEq

/-- The number that is awaited, and the parts so far. -/
structure Receiver (μ : Type) where
  awaits : Fin 2
  parts : List μ := []

variable {μ : Type} (kind : μ → Kind) (first : Fin 2)

/-- A message comes in. -/
def take (r : Receiver μ) (m : μ) : Receiver μ :=
  match kind m with
  | .part n => if n = r.awaits then ⟨1 - r.awaits, r.parts ++ [m]⟩ else r
  | .ack n => if n = r.awaits then { r with awaits := 1 - r.awaits } else r
  | .restart => ⟨first, []⟩
  | .other => r

/-- A list of messages. -/
def gather (r : Receiver μ) (ms : List μ) : Receiver μ := ms.foldl (take kind first) r

variable {kind first} {r : Receiver μ} {m : μ}

/-- One message more is one step more. -/
theorem gather_concat (r : Receiver μ) (ms : List μ) (m : μ) :
    gather kind first r (ms ++ [m]) = take kind first (gather kind first r ms) m := by
  rw [gather, List.foldl_append]
  rfl

/-! ## One message

  One lemma for each kind of message, and the four cases together. -/

/-- The awaited part is taken in, and the next number awaited. -/
theorem take_part (h : kind m = .part r.awaits) :
    take kind first r m = ⟨1 - r.awaits, r.parts ++ [m]⟩ := by
  simp only [take, h, if_true]

/-- The awaited acknowledgement brings nothing, but the next number is awaited after it. -/
theorem take_ack (h : kind m = .ack r.awaits) :
    take kind first r m = { r with awaits := 1 - r.awaits } := by
  simp only [take, h, if_true]

/-- A restart forgets the parts, and awaits the first number again. -/
theorem take_restart (h : kind m = .restart) : take kind first r m = ⟨first, []⟩ := by
  simp only [take, h]

/-- Any other message changes nothing. -/
theorem take_none (hpart : kind m ≠ .part r.awaits) (hack : kind m ≠ .ack r.awaits)
    (hrestart : kind m ≠ .restart) : take kind first r m = r := by
  rw [take]
  cases hkind : kind m with
  | part n =>
    rw [hkind] at hpart
    exact if_neg fun h => hpart (congrArg Kind.part h)
  | ack n =>
    rw [hkind] at hack
    exact if_neg fun h => hack (congrArg Kind.ack h)
  | restart => exact absurd hkind hrestart
  | other => rfl

/-- **What a message can do**: it brings a part, moves the number, starts over, or does nothing. -/
theorem take_cases (first : Fin 2) (r : Receiver μ) (m : μ) :
    (kind m = .part r.awaits ∧ take kind first r m = ⟨1 - r.awaits, r.parts ++ [m]⟩) ∨
    (kind m = .ack r.awaits ∧ take kind first r m = { r with awaits := 1 - r.awaits }) ∨
    (kind m = .restart ∧ take kind first r m = ⟨first, []⟩) ∨ take kind first r m = r := by
  by_cases hpart : kind m = .part r.awaits
  · exact Or.inl ⟨hpart, take_part hpart⟩
  by_cases hack : kind m = .ack r.awaits
  · exact Or.inr (Or.inl ⟨hack, take_ack hack⟩)
  by_cases hrestart : kind m = .restart
  · exact Or.inr (Or.inr (Or.inl ⟨hrestart, take_restart hrestart⟩))
  · exact Or.inr (Or.inr (Or.inr (take_none hpart hack hrestart)))

/-! ## Where the parts come from

  What a list of messages leaves with the receiver, whatever the messages are. -/

/-- **The parts are messages, in their order**, each at most once. -/
theorem parts_gather (ms : List μ) : ∀ r : Receiver μ,
    (gather kind first r ms).parts.Sublist (r.parts ++ ms) := by
  induction ms with
  | nil =>
    intro r
    rw [List.append_nil]
    exact List.Sublist.refl _
  | cons m ms ih =>
    intro r
    have htake : (take kind first r m).parts.Sublist (r.parts ++ [m]) := by
      rcases take_cases first r m with ⟨-, h⟩ | ⟨-, h⟩ | ⟨-, h⟩ | h <;> rw [h]
      · exact List.sublist_append_left _ _
      · exact List.nil_sublist _
      · exact List.sublist_append_left _ _
    have hrest := (ih (take kind first r m)).trans (htake.append_right ms)
    rwa [List.append_assoc] at hrest

/-- The second part carries the number after that of the first. -/
def Next (kind : μ → Kind) (p q : μ) : Prop := ∃ n, kind p = .part n ∧ kind q = .part (1 - n)

/-- **The parts carry alternating numbers**, up to the one that is awaited. -/
structure Linked (kind : μ → Kind) (r : Receiver μ) : Prop where
  chain : List.IsChain (Next kind) r.parts
  awaits : ∀ p ∈ r.parts.getLast?, kind p = .part (1 - r.awaits)

/-- Nothing has come in yet. -/
theorem linked_nil (n : Fin 2) : Linked kind ⟨n, []⟩ := ⟨.nil, fun _ h => by cases h⟩

/-- The numbers go on alternating, unless the turn passes between two parts.  A part with the
    number that is awaited follows one with the other number, which is what `Linked` says of the
    last one. -/
theorem Linked.take (h : Linked kind r) (first : Fin 2) (hack : kind m = .ack r.awaits → r.parts = []) :
    Linked kind (take kind first r m) := by
  have hturn : ∀ n : Fin 2, 1 - (1 - n) = n := by decide
  rcases take_cases first r m with ⟨hm, htake⟩ | ⟨hm, htake⟩ | ⟨-, htake⟩ | htake
  · rw [htake]
    constructor
    · refine List.isChain_append.mpr ⟨h.chain, .singleton _, ?_⟩
      intro p hp q hq
      obtain rfl : m = q := Option.some.inj hq
      refine ⟨1 - r.awaits, h.awaits p hp, ?_⟩
      rw [hturn]
      exact hm
    · intro p hp
      rw [List.getLast?_concat] at hp
      obtain rfl : m = p := Option.some.inj hp
      rw [hturn]
      exact hm
  · rw [htake]
    refine ⟨h.chain, ?_⟩
    intro p hp
    rw [hack hm] at hp
    cases hp
  · rw [htake]
    exact linked_nil first
  · rw [htake]
    exact h

end AlternatingBit
