/-!
# Stopping a machine from outside

A machine asks its watchdog between instructions, once every `pollEvery` of them, whether to stop.
A `Watchdog` is the sequence of its answers: `answers n` is what it says when it is asked after `n`
earlier questions.
-/

namespace Reprise

/-- Decides whether a run is cut short. -/
structure Watchdog where
  /-- The instructions between two questions; zero counts as one. -/
  pollEvery : Nat
  /-- The answer to the question that `n` others came before. -/
  answers : Nat → Bool
  /-- The questions asked so far. -/
  asked : Nat := 0

namespace Watchdog

/-- The instructions between two questions unless told otherwise. -/
def defaultInterval : Nat := 100

/-- The largest interval there is. -/
def longestInterval : Nat := UInt64.size - 1

/-- Never stops a machine, and is hardly ever asked. -/
def never : Watchdog := { pollEvery := longestInterval, answers := fun _ => false }

/-- Says the same whenever it is asked; a flag watchdog between two changes of its flag. -/
def flag (raised : Bool) (interval : Nat) : Watchdog :=
  { pollEvery := interval, answers := fun _ => raised }

/-- The same watchdog with another flag. -/
def withFlag (w : Watchdog) (raised : Bool) : Watchdog := { w with answers := fun _ => raised }

/-- Asks once. -/
def ask (w : Watchdog) : Bool × Watchdog := (w.answers w.asked, { w with asked := w.asked + 1 })

/-- What the watchdog would answer now. -/
def shouldStop (w : Watchdog) : Bool := w.answers w.asked

end Watchdog

/-- A time budget in nanoseconds, counted from its start. -/
structure Deadline where
  budget : Nat

namespace Deadline

/-- Budgets from here on lie beyond every instant, and never run out. -/
def horizon : Nat := Nat.pow 2 63 * 1000000000

/-- The time left after some time has passed, `none` if the budget never runs out. -/
def remaining (d : Deadline) (elapsed : Nat) : Option Nat :=
  if d.budget < horizon then some (d.budget - elapsed) else none

/-- Whether the budget has run out. -/
def hasPassed (d : Deadline) (elapsed : Nat) : Bool := d.remaining elapsed == some 0

/-- Stops a machine once the budget has run out, given the time at each question. -/
def watchdog (d : Deadline) (clock : Nat → Nat) (interval : Nat) :
    Watchdog :=
  { pollEvery := interval, answers := fun n => d.hasPassed (clock n) }

end Deadline

end Reprise
