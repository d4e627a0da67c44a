import PriceOverlay.Controller.Decisions
/-!
# The times of decision cycles

Cycles run one at a time, driven by ticks. The first tick is due at once. A tick that is
handled when it is due, or at most five milliseconds later, makes the next one due an
interval after it was due; one handled later makes the next one due an interval after it
was handled, so that no tick is made up for that was more than a little late. The shutdown
ends the loop and abandons the cycle in flight.

All times are milliseconds since the loop started.
-/
namespace PriceOverlay

/-- How late a tick may be handled and still count as on time. -/
def tickTolerance : Nat := 5

/-- How a cycle ends. -/
inductive CycleEnd where
  | completed
  /-- By the shutdown. -/
  | abandoned (p : Progress)
  /-- With its analysis, and the loop ends with it. -/
  | brokenOff
  deriving DecidableEq, Repr

/-- One cycle: when it starts, how long it takes to report its duration, how long it waits after
that for the record of health, and how it ends. -/
structure ScheduledCycle where
  start : Nat
  work : Nat
  wait : Nat
  ending : CycleEnd
  deriving DecidableEq, Repr

namespace ScheduledCycle

def finish (c : ScheduledCycle) : Nat := c.start + c.work + c.wait

def completed (c : ScheduledCycle) : Bool := c.ending = .completed

/-- Whether the duration of the cycle was reported. -/
def reported (c : ScheduledCycle) : Bool :=
  match c.ending with
  | .completed => true
  | .abandoned p => p.reported
  | .brokenOff => false

end ScheduledCycle

/-- When the tick after one is due. -/
def nextDue (interval due handled : Nat) : Nat :=
  if due + tickTolerance < handled then handled + interval else due + interval

end PriceOverlay
