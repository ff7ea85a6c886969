/-!
# Numbers of double precision

A finite number is a sign and `significand · 2 ^ exponent`, where the significand has at most 53
bits and the exponent is at least -1074. Reading a decimal takes the nearest such number, and of two
equally near ones the one with an even significand. Writing one takes the fewest digits that are
read back as the same number, and of those the nearest.

All of it is integer arithmetic: a positive number is a quotient of two naturals.
-/

namespace LiveTemplates

/-- A number of double precision. -/
inductive Binary64
  | finite (negative : Bool) (significand : Nat) (exponent : Int)
  | infinite (negative : Bool)
  | notANumber
deriving DecidableEq, Repr

namespace Binary64

/-- The quotient, rounded to the nearest natural, a half to the even one. -/
def roundQuotient (num den : Nat) : Nat :=
  let q := num / den
  let twice := 2 * (num % den)
  if twice < den then q
  else if den < twice then q + 1
  else q + q % 2

/-- `n · base ^ e` as a quotient of two naturals. -/
def scaled (n base : Nat) (e : Int) : Nat × Nat :=
  (n * Nat.pow base e.toNat, Nat.pow base (-e).toNat)

/-- The least significand that takes all 53 bits, `2 ^ 52`. -/
def leastFull : Nat := Nat.pow 2 52

/-- The number nearest to a positive quotient. -/
def ofQuotient (negative : Bool) (num den : Nat) : Binary64 :=
  let guess : Int := (num.log2 : Int) - den.log2 - 52
  -- The quotient has 53 or 54 bits above `guess`.
  let (n, d) := scaled 1 2 (-guess)
  let tooLarge := 2 * leastFull * (den * d) ≤ num * n
  let tooSmall := num * n < leastFull * (den * d)
  let exponent : Int :=
    max (if tooLarge then guess + 1 else if tooSmall then guess - 1 else guess) (-1074)
  let (n, d) := scaled 1 2 (-exponent)
  let significand := roundQuotient (num * n) (den * d)
  let (significand, exponent) :=
    if significand = 2 * leastFull then (leastFull, exponent + 1) else (significand, exponent)
  if 971 < exponent then .infinite negative else .finite negative significand exponent

/-- The number nearest to `± digits · 10 ^ exponent`. -/
def ofDecimal (negative : Bool) (digits : Nat) (exponent : Int) : Binary64 :=
  let size : Int := (Nat.toDigits 10 digits).length
  if digits = 0 then .finite negative 0 0
  else if 310 < size + exponent then .infinite negative
  else if size + exponent < -330 then .finite negative 0 0
  else
    let (n, d) := scaled digits 10 exponent
    ofQuotient negative n d

/-- The number nearest to an integer. -/
def ofInt (n : Int) : Binary64 :=
  if n = 0 then .finite false 0 0 else ofQuotient (decide (n < 0)) n.natAbs 1

/-- Whether a number is finite. -/
def isFinite : Binary64 → Bool
  | .finite .. => true
  | _ => false

/-- The number nearest to `num / den` times a number. -/
def scale (num den : Nat) : Binary64 → Binary64
  | .finite negative s e =>
    if s = 0 then .finite negative 0 0
    else
      let (n, d) := scaled s 2 e
      ofQuotient negative (n * num) (d * den)
  | x => x

/-- The integer nearest to a finite number, a half to the even one. -/
def round? : Binary64 → Option Int
  | .finite negative s e =>
    let (n, d) := scaled s 2 e
    let k : Int := roundQuotient n d
    some (if negative then -k else k)
  | _ => none

/-- The integer that a number is, if it is one. -/
def toInt? : Binary64 → Option Int
  | .finite negative s e =>
    let (n, d) := scaled s 2 e
    if n % d = 0 then some (if negative then -(n / d : Nat) else (n / d : Nat)) else none
  | _ => none

/-! ## Writing -/

/-- A decimal `digits · 10 ^ exponent`. -/
structure Decimal where
  digits : Nat
  exponent : Int

/--
The multiple of `10 ^ exponent` that is nearest to the number, if it is one of those read back as
the number. These lie between the midpoints to the two neighbours.
-/
def onGrid? (s : Nat) (e grid : Int) : Option Decimal :=
  -- In units of a quarter of the last place: the number, and the midpoints below and above it.
  let low := if s = leastFull ∧ -1074 < e then 4 * s - 1 else 4 * s - 2
  let (unit, unitDen) := scaled 1 2 (e - 2)
  let (step, stepDen) := scaled 1 10 grid
  let inside := fun (k : Nat) =>
    let k' := k * step * unitDen
    let lo := low * unit * stepDen
    let hi := (4 * s + 2) * unit * stepDen
    if s % 2 = 0 then lo ≤ k' ∧ k' ≤ hi else lo < k' ∧ k' < hi
  let num := 4 * s * unit * stepDen
  let den := step * unitDen
  let k := roundQuotient num den
  let other := if num < k * den then k - 1 else k + 1
  if 0 < k ∧ inside k then some ⟨k, grid⟩
  else if 0 < other ∧ inside other then some ⟨other, grid⟩
  else none

/-- The shortest decimal that is read back as `s · 2 ^ e`, found on grids from coarse to fine. -/
def shortestFrom (s : Nat) (e : Int) : Nat → Int → Decimal
  | 0, grid => ⟨s, grid⟩
  | tries + 1, grid =>
    match onGrid? s e grid with
    | some d => d
    | none => shortestFrom s e tries (grid - 1)

/-- The shortest decimal that is read back as `s · 2 ^ e`. -/
def shortest (s : Nat) (e : Int) : Decimal :=
  let (n, d) := scaled s 2 e
  let guess : Int := (Nat.toDigits 10 n).length - (Nat.toDigits 10 d).length
  shortestFrom s e 22 (guess + 1)

/-- Digits without their trailing zeros, and how many those are. -/
def stripZeros (fuel n : Nat) : Nat × Nat :=
  match fuel with
  | 0 => (n, 0)
  | fuel + 1 =>
    if n % 10 = 0 ∧ n ≠ 0 then
      let (m, k) := stripZeros fuel (n / 10)
      (m, k + 1)
    else (n, 0)

/--
A number as text. It is written without an exponent if its first digit stands for at least `10⁻⁴`
and for less than `10¹⁶`, and it always has a point or an exponent, which has two digits or more.
-/
def toString : Binary64 → String
  | .notANumber => "nan"
  | .infinite negative => if negative then "-inf" else "inf"
  | .finite negative s e =>
    let sign := if negative then "-" else ""
    if s = 0 then sign ++ "0.0"
    else
      let d := shortest s e
      let (m, zeros) := stripZeros 400 d.digits
      let digits := Nat.toDigits 10 m
      -- The number is `0.digits · 10 ^ point`.
      let point : Int := digits.length + d.exponent + zeros
      let text :=
        if -4 < point ∧ point ≤ 0 then
          "0." ++ String.ofList (List.replicate (-point).toNat '0' ++ digits)
        else if 0 < point ∧ point ≤ 16 then
          let whole := digits.take point.toNat
          let fraction := digits.drop point.toNat
          String.ofList (whole ++ List.replicate (point.toNat - whole.length) '0') ++ "."
            ++ (if fraction.isEmpty then "0" else String.ofList fraction)
        else
          let power := point - 1
          let powerDigits := Nat.toDigits 10 power.natAbs
          String.ofList (digits.take 1)
            ++ (if digits.length = 1 then "" else "." ++ String.ofList (digits.drop 1))
            ++ "e" ++ (if power < 0 then "-" else "+")
            ++ String.ofList (List.replicate (2 - powerDigits.length) '0' ++ powerDigits)
      sign ++ text

end Binary64

end LiveTemplates
