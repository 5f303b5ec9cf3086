import Countoff.Outlet

/-!
# Buffers

An outlet in memory that counts the attempts to write to it and keeps, in order, the texts of
those that it does not refuse. Which attempts it refuses is settled beforehand, by their number.
-/

namespace Countoff

/-- The attempts made on a buffer and the texts it has kept. -/
structure Buffer where
  attempts : Nat := 0
  stored : List String := []
  deriving DecidableEq

namespace Buffer

/-- A buffer; `refuses` tells of an attempt by its number, counted from one, whether it is
refused. -/
def outlet (refuses : Nat → Bool) : Outlet (StateM Buffer) where
  write text := fun buffer =>
    let attempt := buffer.attempts + 1
    if refuses attempt then
      (.error (.storage (.other s!"write {attempt} refused")), { buffer with attempts := attempt })
    else (.ok (), ⟨attempt, buffer.stored ++ [text]⟩)
  describe := fun buffer => (s!"buffer#{buffer.stored.length}", buffer)

end Buffer

end Countoff
