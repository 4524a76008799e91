/-!
Floats as exact values: a finite one is an integer times a power of two, read off its bits.
-/

namespace SceneScript.Decimal

/-- The exact value behind a float. `finite neg m q` stands for `m * 2 ^ q`, negated if `neg`. -/
inductive Parts where
  | finite (negative : Bool) (m : Nat) (q : Int)
  | infinite (negative : Bool)
  | undefined
  deriving Repr, DecidableEq

/-- The exponent of the smallest positive float. -/
def leastExponent : Int := -1074

/-- The leading bit of a float's digits, which is not stored. -/
def hiddenBit : Nat := Nat.pow 2 52

/-- The parts of a float. The hidden bit is zero if the exponent field is. -/
def Parts.of (x : Float) : Parts :=
  let bits := x.toBits.toNat
  let negative := bits / Nat.pow 2 63 == 1
  let exponent : Nat := bits / hiddenBit % Nat.pow 2 11
  let fraction : Nat := bits % hiddenBit
  if exponent = 2047 then if fraction = 0 then .infinite negative else .undefined
  else if exponent = 0 then .finite negative fraction leastExponent
  else .finite negative (hiddenBit + fraction) (leastExponent + ((exponent : Int) - 1))

/-- `m * 2 ^ q` without its fraction. -/
def truncated (m : Nat) (q : Int) : Nat :=
  if 0 ≤ q then m * Nat.pow 2 q.toNat else m / Nat.pow 2 (-q).toNat

/-- The number that a run of digits writes, most significant first. -/
def ofDigits (digits : List Char) : Nat :=
  digits.foldl (fun n c => 10 * n + (c.toNat - '0'.toNat)) 0

/-- The float nearest to `digits * 10 ^ exponent`, negated if `negative`; infinite beyond the range. -/
def nearestFloat (negative : Bool) (digits : Nat) (exponent : Int) : Float :=
  let x := if 0 ≤ exponent then Float.ofScientific digits false exponent.toNat
    else Float.ofScientific digits true (-exponent).toNat
  if negative then -x else x

end SceneScript.Decimal
