/-!
# Distribution over slots

A number of vehicles is shared out as evenly as possible over slots, some of which take only so
many. In each round all slots that are not full get the same number and the first ones one more;
what does not fit is left for the next round.
-/

namespace RoadTraffic

/-- What a slot has been given, and how much it takes at most. -/
structure Share where
  cap : Option Nat
  given : Nat
  deriving DecidableEq, Repr

namespace Share

/-- Whether a slot takes no more. -/
def isFull (s : Share) : Bool :=
  match s.cap with
  | some cap => decide (cap ≤ s.given)
  | none => false

/-- How many of the vehicles offered to a slot it takes. -/
def accepts (s : Share) (offered : Nat) : Nat :=
  match s.cap with
  | some cap => min offered (cap - s.given)
  | none => offered

/-- Offers `base` vehicles to every slot that is not full, and one more to the first `rest` of
them. Answers what was not taken. -/
def handOut (base : Nat) : Nat → List Share → Nat × List Share
  | _, [] => (0, [])
  | rest, s :: ss =>
    if s.isFull then
      let (left, ss) := handOut base rest ss
      (left, s :: ss)
    else
      let offered := base + if 0 < rest then 1 else 0
      let taken := s.accepts offered
      let (left, ss) := handOut base (rest - 1) ss
      (offered - taken + left, { s with given := s.given + taken } :: ss)

/-- Hands vehicles out in rounds. Every round gives away one vehicle at least, so that there are
no more rounds than vehicles. -/
def rounds : Nat → Nat → List Share → List Share
  | 0, _, ss => ss
  | limit + 1, remaining, ss =>
    let takers := (ss.filter (!·.isFull)).length
    if remaining = 0 ∨ takers = 0 then ss
    else
      let (left, ss) := handOut (remaining / takers) (remaining % takers) ss
      rounds limit left ss

end Share

/-- How many of `total` vehicles each slot gets, by the limits of the slots. -/
def distribute (total : Nat) (caps : List (Option Nat)) : List Nat :=
  (Share.rounds total total (caps.map fun cap => ⟨cap, 0⟩)).map (·.given)

end RoadTraffic
