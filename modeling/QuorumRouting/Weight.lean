/-!
Weights as shares. Any list of raw weights becomes a list of shares of one whole: infinite weights
split it among themselves, weights that do not count are no better than zero, and where all
weights are negligible everybody gets the same share.
-/

set_option autoImplicit false

namespace QuorumRouting.Weight

/-- Below this sum per weight the weights are negligible. -/
def negligiblePerItem : Float := 1e-9

def isInfinite (weight : Float) : Bool :=
  weight == 1.0 / 0.0

def usable (weight : Float) : Float :=
  if weight.isNaN || weight < 0.0 then 0.0 else weight

def total (weights : List Float) : Float :=
  weights.foldl (· + ·) 0.0

def largest (weights : List Float) : Float :=
  weights.foldl (fun most weight => if most < weight then weight else most) 0.0

def equalShare (count : Nat) : Float :=
  1.0 / Float.ofNat count

/-- Shares in proportion to usable weights. When their sum is too large for a double they are
first divided by the largest. -/
def proportional (weights : List Float) : List Float :=
  let sum := total weights
  if sum.isFinite then weights.map (fun weight => weight / 1.0 / sum)
  else
    let scale := largest weights
    let scaled := total (weights.map (fun weight => weight / scale))
    weights.map (fun weight => weight / scale / scaled)

def shares (weights : List Float) : List Float :=
  let infinite := weights.countP isInfinite
  if 0 < infinite then
    weights.map (fun weight => if isInfinite weight then equalShare infinite else 0.0)
  else
    let sound := weights.map usable
    if total sound < negligiblePerItem * Float.ofNat weights.length then
      weights.map (fun _ => equalShare weights.length)
    else proportional sound

theorem length_proportional (weights : List Float) :
    (proportional weights).length = weights.length := by
  unfold proportional
  by_cases finite : (total weights).isFinite = true
  · rw [if_pos finite, List.length_map]
  · rw [if_neg finite, List.length_map]

theorem length_shares (weights : List Float) : (shares weights).length = weights.length := by
  unfold shares
  by_cases infinite : 0 < weights.countP isInfinite
  · rw [if_pos infinite, List.length_map]
  · rw [if_neg infinite]
    by_cases negligible :
        total (weights.map usable) < negligiblePerItem * Float.ofNat weights.length
    · rw [if_pos negligible, List.length_map]
    · rw [if_neg negligible, length_proportional, List.length_map]

end QuorumRouting.Weight
