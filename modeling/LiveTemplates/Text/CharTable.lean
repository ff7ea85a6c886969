/-!
# Tables of characters

A property of characters is a set of code points, written as closed ranges. A case mapping moves
runs of code points by one distance each, and sends a few single ones to several.
-/

namespace LiveTemplates.Text

/-- A set of code points, as closed ranges in ascending order. -/
structure CharSet where
  ranges : List (Nat × Nat)

/-- Whether a character lies in one of the ranges. -/
def CharSet.contains (s : CharSet) (c : Char) : Bool :=
  s.ranges.any fun r => r.1 ≤ c.toNat && c.toNat ≤ r.2

/--
Every `step`-th code point from `first` to `last`. The first one is sent to `target` and the others
keep their distance to it.
-/
structure CaseRun where
  first : Nat
  last : Nat
  step : Nat
  target : Nat

/-- Whether a code point belongs to a run. -/
def CaseRun.covers (r : CaseRun) (n : Nat) : Bool :=
  r.first ≤ n && n ≤ r.last && (n - r.first) % r.step == 0

/-- A case mapping. A character in none of its entries stays as it is. -/
structure CaseMap where
  runs : List CaseRun
  /-- Code points that are sent to several. -/
  expansions : List (Nat × List Nat)

/-- The characters that one character is sent to. -/
def CaseMap.apply (m : CaseMap) (c : Char) : List Char :=
  match m.runs.find? (·.covers c.toNat) with
  | some r => [Char.ofNat (r.target + (c.toNat - r.first))]
  | none =>
    match m.expansions.lookup c.toNat with
    | some ns => ns.map Char.ofNat
    | none => [c]

end LiveTemplates.Text
