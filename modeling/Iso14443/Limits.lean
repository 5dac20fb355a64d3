/-
  `src/type_a/limits.rs`: the per-exchange work limits and the counters checked against them.

  A `Limits` value carries the bounds of its machine types, so "every `Limits` the type can hold"
  is every Lean value of the structure.  The counters are natural numbers that are only ever
  increased by the saturating increment of their type.

  There are two kinds of counters, and what the limits can promise depends on it: frames and
  extensions in total are counted over the whole exchange, while retransmissions and extensions in
  a row start over whenever the exchange is carried forward (`noteProgress`).  A `u8` counter
  saturates at 255 and is compared with `>`, so a limit of 255 is never passed; this is where
  `Iso14443.LimitsExact` finds that the documented bound fails.
-/
import Iso14443.Basic

namespace Iso14443

/-- `DEFAULT_MAX_CHAIN_LEN`. -/
def defaultMaxChainLen [Build] : Nat := if Build.alloc then 4096 else 1024

/-- `Limits`: what a peer may ask of one exchange.  The fields are natural numbers, and their
    integer types are bounds on them, discharged by evaluation where a value is written down. -/
structure Limits where
  maxFrames : Nat
  maxRetransmissions : Nat
  maxConsecutiveWtx : Nat
  maxTotalWtx : Nat
  maxChainLen : Nat
  /-- `max_frames: u16`. -/
  frames_le : maxFrames ≤ u16Max := by decide
  /-- `max_retransmissions: u8`. -/
  retransmissions_le : maxRetransmissions ≤ u8Max := by decide
  /-- `max_consecutive_wtx: u8`. -/
  consecutiveWtx_le : maxConsecutiveWtx ≤ u8Max := by decide
  /-- `max_total_wtx: u16`. -/
  totalWtx_le : maxTotalWtx ≤ u16Max := by decide
deriving DecidableEq

/-- `Limits::default`. -/
def Limits.default [Build] : Limits where
  maxFrames := 512
  maxRetransmissions := 3
  maxConsecutiveWtx := 8
  maxTotalWtx := 32
  maxChainLen := defaultMaxChainLen

/-- `Counters`, all zero by default: what an exchange has used of its limits so far. -/
structure Counters where
  frames : Nat := 0
  retransmissions : Nat := 0
  consecutiveWtx : Nat := 0
  totalWtx : Nat := 0
deriving DecidableEq, Repr

namespace Counters

/-- `Counters::reset`. -/
def reset : Counters := {}

/-- `Counters::note_progress`: the counters that bound a run of unproductive blocks start over. -/
def noteProgress (c : Counters) : Counters := { c with retransmissions := 0, consecutiveWtx := 0 }

/-- One more frame. -/
def countFrame (c : Counters) : Counters := { c with frames := saturatingIncr u16Max c.frames }

/-- One more retransmission. -/
def countRetransmission (c : Counters) : Counters :=
  { c with retransmissions := saturatingIncr u8Max c.retransmissions }

/-- One more S(WTX) in a row. -/
def countConsecutiveWtx (c : Counters) : Counters :=
  { c with consecutiveWtx := saturatingIncr u8Max c.consecutiveWtx }

/-- One more S(WTX). -/
def countTotalWtx (c : Counters) : Counters :=
  { c with totalWtx := saturatingIncr u16Max c.totalWtx }

end Counters

end Iso14443
