import Gatehouse.Time.Timestamp

/-! # The persistence marker

When the background run last persisted; the earliest timestamp until it has. -/

namespace Gatehouse

/-- When the last persistence run has succeeded. -/
structure Marker where
  value : Timestamp

namespace Marker

/-- No run has succeeded yet. -/
def initial : Marker := ⟨.earliest⟩

def set (_ : Marker) (t : Timestamp) : Marker := ⟨t⟩

end Marker

end Gatehouse
