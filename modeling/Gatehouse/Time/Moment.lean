import Gatehouse.Number.Binary64

/-! # Moments

Moments of the event loop are counted in seconds, and so are the spans between them. Both are
doubles: a sum or a difference is the nearest double to the exact one. -/

namespace Gatehouse.Moment

/-- The nearest double; a number out of reach of the doubles stays as it is. -/
def nearest (q : Rat) : Rat := (Binary64.ofRat q).toRat?.getD q

/-- The moment that comes `seconds` after another. -/
def after (time seconds : Rat) : Rat := nearest (time + seconds)

/-- The seconds from one moment until another. -/
def span (start stop : Rat) : Rat := nearest (stop - start)

/-- Timers less than this apart go off together. -/
def resolution : Rat := nearest (mkRat 1 1000000000)

/-- The first moment at which a timer does not go off together with one at `time`. -/
def soon (time : Rat) : Rat := after time resolution

end Gatehouse.Moment
