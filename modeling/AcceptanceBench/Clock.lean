/-!
The clock that waits go by. The threads of a system cannot sleep for any length of time: what its
timers cannot count is refused. A clock that is simulated has no such bound.
-/

namespace AcceptanceBench

/-- A clock, by the greatest number of seconds that a sleep may be asked for, if there is one. -/
class Clock where
  longest : Option Rat

namespace Clock

/-- Whether a sleep of some seconds is refused. -/
def refuses [Clock] (seconds : Rat) : Bool :=
  Clock.longest.any (· < seconds)

/-- The clock of threads whose timers count nanoseconds in 64 bits, to the last whole second. -/
@[reducible] def threads : Clock := ⟨some 9223372036⟩

/-- A simulated clock, which is meant where no other one is given. -/
instance (priority := low) simulated : Clock := ⟨none⟩

end Clock

end AcceptanceBench
