import Countoff.Fault

/-!
# Outlets

An outlet takes a text as a whole, or refuses it with a fault, and can say in words what it is.
-/

namespace Countoff

/-- Where a text is written to, with effects in `m`. -/
structure Outlet (m : Type → Type) where
  write : String → m (Except Fault Unit)
  describe : m String

end Countoff
