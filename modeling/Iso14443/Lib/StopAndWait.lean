/-
  A sender that cuts its data into chunks, and waits for each to be acknowledged.

  * `chunk`     — chunk `k` of the data: what stands between the borders `k * size` and
                  `(k + 1) * size`.
  * `Moment`    — what a sender does that matters here: it sends a frame, or is acknowledged.
                  `stamped` writes on each frame how many acknowledgements came before it.
  * `Paced`     — the invariant of such a sender: what it sends after `k` acknowledgements is chunk
                  `k`, and with the repetitions taken out it has sent the chunks `0, …, n - 1`.
  * `Delivers`  — what follows for the data.

  Which frames are chunks is a parameter: a sender also sends frames that are none (requests to
  repeat, answers to other requests), and these do not count.  The invariant is kept by one moment
  at a time; nothing is assumed of the acknowledgements, which may come too early or twice, since a
  chunk is always the one after as many as came.
-/
import Mathlib.Data.List.Destutter
import Mathlib.Data.List.Range

namespace StopAndWait

/-! ## Chunks

  Cutting a list by a size, and putting it together again. -/

section Chunks

variable {α : Type} {data : List α} {size k : Nat}

/-- Chunk `k`: `data[k * size .. min((k + 1) * size, len)]`. -/
def chunk (data : List α) (size k : Nat) : List α :=
  (data.take (min ((k + 1) * size) data.length)).drop (k * size)

/-- How many chunks there are: no data make one, which is empty. -/
def chunkCount (data : List α) (size : Nat) : Nat := (data.length - 1) / size + 1

/-- A chunk is no longer than its size. -/
theorem length_chunk_le : (chunk data size k).length ≤ size := by
  rw [chunk, List.length_drop, List.length_take, Nat.succ_mul]
  omega

/-- The chunks, put together again. -/
theorem flatMap_chunk (data : List α) (size n : Nat) :
    (List.range n).flatMap (chunk data size) = data.take (n * size) := by
  induction n with
  | zero => simp
  | succ n ih =>
    have hchunk : chunk data size n = (data.drop (n * size)).take size := by
      rw [chunk, List.drop_take, List.take_eq_take_iff, List.length_drop, Nat.succ_mul]
      omega
    rw [List.range_succ, List.flatMap_append, ih, List.flatMap_singleton, hchunk, Nat.succ_mul,
      List.take_add]

/-- A chunk that does not reach the end of the data has another one after it. -/
theorem succ_lt_chunkCount (hsize : 0 < size) :
    k + 1 < chunkCount data size ↔ (k + 1) * size < data.length := by
  have hpos : 0 < (k + 1) * size := Nat.mul_pos (Nat.succ_pos k) hsize
  rw [chunkCount, Nat.add_lt_add_iff_right, Nat.lt_iff_add_one_le, Nat.le_div_iff_mul_le hsize]
  omega

/-- A chunk that begins inside the data is one of them. -/
theorem lt_chunkCount (hsize : 0 < size) (hk : k = 0 ∨ k * size < data.length) :
    k < chunkCount data size := by
  cases k with
  | zero => exact Nat.succ_pos _
  | succ k => exact (succ_lt_chunkCount hsize).mpr (hk.resolve_left (Nat.succ_ne_zero k))

/-- A chunk that reaches the end of the data is the last one. -/
theorem chunkCount_of_last (hsize : 0 < size) (hk : k < chunkCount data size)
    (hlast : ¬ (k + 1) * size < data.length) : chunkCount data size = k + 1 := by
  have hnot : ¬ k + 1 < chunkCount data size := fun h => hlast ((succ_lt_chunkCount hsize).mp h)
  omega

/-- The chunks reach the end of the data. -/
theorem length_le_chunkCount (hsize : 0 < size) : data.length ≤ chunkCount data size * size := by
  have h : ¬ (data.length - 1) / size + 1 < chunkCount data size := Nat.lt_irrefl _
  exact Nat.le_of_not_lt fun hlt => h ((succ_lt_chunkCount hsize).mpr hlt)

end Chunks

/-! ## What a sender does

  The history of a sender as a list of moments, and the chunk number on each frame. -/

/-- A frame that goes out, or an acknowledgement that comes in. -/
inductive Moment (φ : Type) where
  | sent (frame : φ)
  | acked
deriving DecidableEq, Repr

section Moments

variable {φ : Type}

/-- The frames, each under the number of acknowledgements before it; there were `k` already. -/
def stamped : Nat → List (Moment φ) → List (Nat × φ)
  | _, [] => []
  | k, .sent frame :: l => (k, frame) :: stamped k l
  | k, .acked :: l => stamped (k + 1) l

/-- The acknowledgements. -/
def acks : List (Moment φ) → Nat
  | [] => 0
  | .sent _ :: l => acks l
  | .acked :: l => acks l + 1

/-- The acknowledgements of two stretches add up. -/
@[simp] theorem acks_append (l m : List (Moment φ)) : acks (l ++ m) = acks l + acks m := by
  induction l with
  | nil => simp [acks]
  | cons a l ih => cases a <;> simp [acks, ih]; omega

/-- The second stretch is stamped from the acknowledgements of the first one on. -/
theorem stamped_append (k : Nat) (l m : List (Moment φ)) :
    stamped k (l ++ m) = stamped k l ++ stamped (k + acks l) m := by
  induction l generalizing k with
  | nil => rfl
  | cons a l ih =>
    cases a with
    | sent frame => rw [List.cons_append, stamped, ih]; rfl
    | acked => rw [List.cons_append, stamped, ih, Nat.add_right_comm]; rfl

/-- The stamps of the frames that carry a chunk. -/
def chunkNumbers (isChunk : φ → Bool) (l : List (Moment φ)) : List Nat :=
  ((stamped 0 l).filter fun p => isChunk p.2).map Prod.fst

/-- A frame at the end. -/
theorem stamped_concat (l : List (Moment φ)) (f : φ) :
    stamped 0 (l ++ [.sent f]) = stamped 0 l ++ [(acks l, f)] := by
  rw [stamped_append, Nat.zero_add]
  rfl

/-- Another frame adds a number if it carries a chunk, and none otherwise. -/
theorem chunkNumbers_concat (isChunk : φ → Bool) (l : List (Moment φ)) (f : φ) :
    chunkNumbers isChunk (l ++ [.sent f]) =
      if isChunk f then chunkNumbers isChunk l ++ [acks l] else chunkNumbers isChunk l := by
  rw [chunkNumbers, stamped_concat, List.filter_append, List.map_append, List.filter_singleton]
  cases isChunk f with
  | true => rfl
  | false => exact List.append_nil _

/-- The same, with the repetitions taken out. -/
def distinctNumbers (isChunk : φ → Bool) (l : List (Moment φ)) : List Nat :=
  (chunkNumbers isChunk l).destutter (· ≠ ·)

end Moments

/-! ## Repetitions at the end

  How `List.destutter` goes on when one more element comes: it is a repetition, or it is not. -/

/-- One element more is a repetition, or it is kept. -/
theorem destutter'_concat (a b : Nat) (l : List Nat) :
    (l ++ [a]).destutter' (· ≠ ·) b =
      if (l.destutter' (· ≠ ·) b).getLast? = some a then l.destutter' (· ≠ ·) b
      else l.destutter' (· ≠ ·) b ++ [a] := by
  induction l generalizing b with
  | nil => by_cases h : b = a <;> simp [h]
  | cons c l ih =>
    by_cases h : b = c
    · rw [List.cons_append, List.destutter'_cons_neg _ (not_not.mpr h),
        List.destutter'_cons_neg _ (not_not.mpr h), ih]
    · obtain ⟨d, t, hd⟩ := List.exists_cons_of_ne_nil (List.destutter'_ne_nil l (· ≠ ·) (a := c))
      rw [List.cons_append, List.destutter'_cons_pos _ h, List.destutter'_cons_pos _ h, ih, hd,
        List.getLast?_cons_cons]
      split <;> rfl

/-- Another entry is dropped exactly where it repeats the last one kept. -/
theorem destutter_concat (a : Nat) (l : List Nat) :
    (l ++ [a]).destutter (· ≠ ·) =
      if (l.destutter (· ≠ ·)).getLast? = some a then l.destutter (· ≠ ·)
      else l.destutter (· ≠ ·) ++ [a] := by
  cases l with
  | nil => rfl
  | cons b l => exact destutter'_concat a b l

/-- **The next number, or the last one again.** -/
theorem destutter_concat_range {l : List Nat} {k n : Nat} (h : l.destutter (· ≠ ·) = List.range n)
    (hn : n = k ∨ n = k + 1) : (l ++ [k]).destutter (· ≠ ·) = List.range (k + 1) := by
  rw [destutter_concat, h]
  rcases hn with rfl | rfl
  · have hlast : (List.range n).getLast? ≠ some n := by
      intro hlast
      exact Nat.lt_irrefl n (List.mem_range.mp (List.mem_of_getLast? hlast))
    rw [if_neg hlast, List.range_succ]
  · rw [if_pos (by simp [List.range_succ])]

/-! ## The invariant

  Kept by each moment: an acknowledgement, a frame that is no chunk, and the chunk that is due. -/

section Paced

variable {φ : Type}

/-- After a history `l` of a sender whose chunk `k` is carried by `frame k`, the first `n` chunks out
    of `count` have been sent. -/
structure Paced (isChunk : φ → Bool) (short : φ → Prop) (frame : Nat → φ) (count n : Nat)
    (l : List (Moment φ)) : Prop where
  /-- Every frame is short enough. -/
  short : ∀ p ∈ stamped 0 l, short p.2
  /-- Every frame with a chunk is the one that is due. -/
  due : ∀ p ∈ stamped 0 l, isChunk p.2 = true → p.1 < n ∧ p.2 = frame p.1
  inOrder : distinctNumbers isChunk l = List.range n
  le : n ≤ count

variable {isChunk : φ → Bool} {short : φ → Prop} {frame frame' : Nat → φ} {count n k : Nat}
  {l : List (Moment φ)} {f : φ}

/-- Nothing was sent. -/
theorem Paced.nil : Paced isChunk short frame count 0 [] where
  short := by simp [stamped]
  due := by simp [stamped]
  inOrder := rfl
  le := Nat.zero_le _

/-- An acknowledgement sends nothing. -/
theorem Paced.acked (h : Paced isChunk short frame count n l) :
    Paced isChunk short frame count n (l ++ [.acked]) := by
  have hstamped : stamped 0 (l ++ [.acked]) = stamped 0 l := by
    rw [stamped_append]
    exact List.append_nil _
  refine ⟨?_, ?_, ?_, h.le⟩
  · rw [hstamped]; exact h.short
  · rw [hstamped]; exact h.due
  · rw [distinctNumbers, chunkNumbers, hstamped]; exact h.inOrder

/-- A short frame without a chunk. -/
theorem Paced.other (h : Paced isChunk short frame count n l) (hf : isChunk f = false)
    (hshort : short f) : Paced isChunk short frame count n (l ++ [.sent f]) := by
  refine ⟨?_, ?_, ?_, h.le⟩
  · rw [stamped_concat]
    intro p hp
    rcases List.mem_append.mp hp with hp | hp
    · exact h.short p hp
    · rw [List.mem_singleton.mp hp]; exact hshort
  · rw [stamped_concat]
    intro p hp hc
    rcases List.mem_append.mp hp with hp | hp
    · exact h.due p hp hc
    · rw [List.mem_singleton.mp hp, hf] at hc; cases hc
  · rw [distinctNumbers, chunkNumbers_concat, hf, if_neg Bool.false_ne_true]
    exact h.inOrder

/-- **The chunk that is due**, sent for the first time or again. -/
theorem Paced.chunk (h : Paced isChunk short frame count n l) (hk : acks l = k)
    (hn : n = k ∨ n = k + 1) (hcount : k < count) (hc : isChunk (frame k) = true)
    (hshort : short (frame k)) :
    Paced isChunk short frame count (k + 1) (l ++ [.sent (frame k)]) := by
  refine ⟨?_, ?_, ?_, hcount⟩
  · rw [stamped_concat]
    intro p hp
    rcases List.mem_append.mp hp with hp | hp
    · exact h.short p hp
    · rw [List.mem_singleton.mp hp]; exact hshort
  · rw [stamped_concat, hk]
    intro p hp hchunk
    rcases List.mem_append.mp hp with hp | hp
    · obtain ⟨hlt, heq⟩ := h.due p hp hchunk
      exact ⟨by omega, heq⟩
    · rw [List.mem_singleton.mp hp]; exact ⟨Nat.lt_succ_self k, rfl⟩
  · rw [distinctNumbers, chunkNumbers_concat, hc, if_pos rfl, hk]
    exact destutter_concat_range h.inOrder hn

/-- The frames that are not due yet do not matter. -/
theorem Paced.congr (h : Paced isChunk short frame count n l)
    (hframe : ∀ k < n, frame k = frame' k) : Paced isChunk short frame' count n l where
  short := h.short
  due p hp hc := ⟨(h.due p hp hc).1, (h.due p hp hc).2.trans (hframe _ (h.due p hp hc).1)⟩
  inOrder := h.inOrder
  le := h.le

/-! ## What it means for the data

  The chunks that were sent, once each and in order, are the data. -/

/-- What the history of a sender says of its data: every frame with a chunk carries the one that is
    due, with the repetitions taken out the chunks were sent in order, and if the sender is done, they
    are the data. -/
structure Delivers {α : Type} (isChunk : φ → Bool) (short : φ → Prop) (frame : Nat → φ)
    (data : List α) (size : Nat) (done : Prop) (l : List (Moment φ)) : Prop where
  short : ∀ p ∈ stamped 0 l, short p.2
  due : ∀ p ∈ stamped 0 l, isChunk p.2 = true →
    p.2 = frame p.1 ∧ (p.1 = 0 ∨ p.1 * size < data.length)
  inOrder : ∃ n, distinctNumbers isChunk l = List.range n
  whole : done → distinctNumbers isChunk l ≠ [] ∧
    (distinctNumbers isChunk l).flatMap (StopAndWait.chunk data size) = data

/-- **A sender that keeps pace delivers.** -/
theorem Paced.delivers {α : Type} {data : List α} {size : Nat} {done : Prop} (hsize : 0 < size)
    (h : Paced isChunk short frame (chunkCount data size) n l)
    (hdone : done → n = chunkCount data size) :
    Delivers isChunk short frame data size done l where
  short := h.short
  due p hp hc := by
    obtain ⟨hlt, heq⟩ := h.due p hp hc
    refine ⟨heq, ?_⟩
    cases hk : p.1 with
    | zero => exact Or.inl rfl
    | succ k =>
      rw [hk] at hlt
      exact Or.inr ((succ_lt_chunkCount hsize).mp (Nat.lt_of_lt_of_le hlt h.le))
  inOrder := ⟨n, h.inOrder⟩
  whole hd := by
    obtain rfl := hdone hd
    rw [h.inOrder, flatMap_chunk, List.take_of_length_le (length_le_chunkCount hsize)]
    exact ⟨by simp [chunkCount, List.range_succ], rfl⟩

end Paced

end StopAndWait
