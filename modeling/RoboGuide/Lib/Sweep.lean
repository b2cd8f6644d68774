import RoboGuide.Lib.OrdMap

/-!
# `RoboGuide.Lib.Sweep`: weighted half-open intervals

Bookings of units over half-open intervals, and the sweep that tests whether a further
booking fits under a capacity: collect the changes of the load by instant, then add them up
in order.
-/

namespace RoboGuide.Lib

/-- Units booked from `start` up to `stop`, or without end. -/
structure Booking where
  start : Nat
  stop : Option Nat
  units : Nat
deriving DecidableEq

namespace Sweep

/-- Add `d` to the change at instant `t`. -/
def addChange (changes : OrdMap Nat Int) (t : Nat) (d : Int) : OrdMap Nat Int :=
  changes.insert t ((changes.get? t).getD 0 + d)

/-- The booking shares no instant with the window from `start` to `stop`. -/
def outside (start : Nat) (stop : Option Nat) (b : Booking) : Bool :=
  (stop.any fun e => decide (e ≤ b.start)) || b.stop.any fun e => decide (e ≤ start)

def addBooking (start : Nat) (stop : Option Nat) (changes : OrdMap Nat Int) (b : Booking) :
    OrdMap Nat Int :=
  if outside start stop b then changes
  else
    let changes := addChange changes (max start b.start) b.units
    match b.stop with
    | some last => if stop.all fun e => decide (last < e) then addChange changes last (-b.units)
        else changes
    | none => changes

/-- The changes of the load over the window, starting with `units` at its start. -/
def changes (bs : List Booking) (start : Nat) (stop : Option Nat) (units : Nat) : OrdMap Nat Int :=
  bs.foldl (addBooking start stop) (addChange ∅ start units)

def bounded (capacity : Nat) : Int → List Int → Bool
  | _, [] => true
  | total, d :: ds =>
    decide (0 ≤ total + d) && decide (total + d ≤ capacity) && bounded capacity (total + d) ds

/-- `units` more fit under `capacity` from `start` to `stop`. -/
def fits (bs : List Booking) (start : Nat) (stop : Option Nat) (units capacity : Nat) : Bool :=
  decide (units ≤ capacity) && (stop.all fun e => decide (start < e)) &&
    bounded capacity 0 (changes bs start stop units).values

end Sweep

end RoboGuide.Lib
