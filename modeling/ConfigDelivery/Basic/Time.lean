/-!
# Instants and durations

Time is counted in microseconds on a clock that never runs backwards. A clock
holds whole seconds in a signed word of 64 bits, so instants have an end.
-/

namespace ConfigDelivery

/-- A span of time in microseconds. -/
abbrev Duration := Nat

/-- A point of time, in microseconds since the clock started. -/
abbrev Instant := Nat

namespace Duration

/-- A number of milliseconds. -/
def ofMillis (count : Nat) : Duration := count * 1000

/-- A number of seconds. -/
def ofSeconds (count : Nat) : Duration := count * 1000000

/-- The whole milliseconds of a duration. -/
def toMillis (duration : Duration) : Nat := duration / 1000

end Duration

/-- The first point of time that a clock cannot show. -/
def Instant.limit : Nat := Duration.ofSeconds 0x8000000000000000

/-- The instant a duration after another one, unless the clock cannot show it. -/
def Instant.after? (instant : Instant) (duration : Duration) : Option Instant :=
  if instant + duration < Instant.limit then some (instant + duration) else none

end ConfigDelivery
