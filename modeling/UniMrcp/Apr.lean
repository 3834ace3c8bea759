import Mathlib.Algebra.Ring.Int.Defs
import Mathlib.Algebra.Ring.Nat

/-!
# Scalars of the runtime library
-/

namespace UniMrcp

abbrev Bytes := List UInt8

/-- Subtraction of two `apr_size_t` values, which wraps around when it borrows. -/
def sizeSub (a b : Nat) : Nat := if b ≤ a then a - b else a + 2 ^ 64 - b

theorem sizeSub_of_le {a b : Nat} (h : b ≤ a) : sizeSub a b = a - b := if_pos h

end UniMrcp
