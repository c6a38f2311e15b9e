import Remedy.Pattern.Shape

/-!
# The weight of patterns

A pattern is refused if the machine that searches for it would be too large.  The weight of a
shape is the size of that machine in bytes: each state counts thirty-two, and more if it has many
ways out.
-/

namespace Remedy.Pattern

open Unicode (CharSet)

/-- The size of one state of a machine. -/
def stateWeight : Nat := 32

/-- The largest machine that is accepted. -/
def weightLimit : Nat := 10 * 1024 * 1024

/-- The size of the states for a set of characters. -/
def setWeight (chars : CharSet) : Nat :=
  match chars.ranges with
  | [] => stateWeight
  | [(first, last)] =>
      if first = last then
        stateWeight * (if first < 0x80 then 1 else if first < 0x800 then 2
          else if first < 0x10000 then 3 else 4)
      else if last < 0x80 then stateWeight
      else 8 * stateWeight
  | ranges =>
      if ranges.all fun r => r.2 < 0x80 then 2 * stateWeight + 8 * ranges.length
      else 2 * stateWeight * ranges.length

namespace Shape

mutual

/-- The weight of a shape. -/
def weight : Shape → Nat
  | .empty | .look _ => stateWeight
  | .set chars => setWeight chars
  | .repetition least most? _ body =>
      let one := body.weight
      match most? with
      | none => (max least 1) * one + 2 * stateWeight
      | some most => most * one + (most - least) * (stateWeight + 8) + stateWeight
  | .group _ body => body.weight + 2 * stateWeight
  | .choice branches => weights branches + 8 * branches.length + 2 * stateWeight
  | .sequence parts => weights parts

/-- The weight of some shapes together. -/
def weights : List Shape → Nat
  | [] => 0
  | shape :: rest => shape.weight + weights rest

end

/-- Holds for shapes whose machine is not too large. -/
def isLight (shape : Shape) : Bool :=
  shape.weight ≤ weightLimit

end Shape

end Remedy.Pattern
