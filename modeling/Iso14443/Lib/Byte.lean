/-
  Bytes: how a statement about every byte is checked.

  A fact about the bit patterns of one byte is decided by evaluation at the 256 values; the
  kernel does that quickly, `simp` and `omega` do not see through the bit operations.  The
  statement is moved to `Fin 256`, whose values can be run through.
-/
import Mathlib.Data.Fintype.Fin

namespace Byte

/-- A property that holds of the 256 values holds of every byte. -/
theorem forall_of_fin {p : UInt8 → Prop} (h : ∀ i : Fin 256, p (UInt8.ofFin i)) (b : UInt8) : p b :=
  h b.toFin

end Byte
