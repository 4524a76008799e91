import SceneScript.Decimal.Binary64

/-!
The shortest decimal that reads back as a given float, and the layout of its digits. The decimals that
round to a float form an interval; the first grid of 1, 2, … 17 digits with a point inside it gives the
digits, the nearer of two such points, the even one of a tie.
-/

namespace SceneScript.Decimal

/-- A positive fraction `num / den`. -/
structure Ratio where
  num : Nat
  den : Nat

/-- `n * 2 ^ q`. -/
def Ratio.scaled (n : Nat) (q : Int) : Ratio := ⟨n * Nat.pow 2 q.toNat, Nat.pow 2 (-q).toNat⟩

/-- `x / 10 ^ p`. -/
def Ratio.inUnits (x : Ratio) (p : Int) : Ratio :=
  ⟨x.num * Nat.pow 10 (-p).toNat, x.den * Nat.pow 10 p.toNat⟩

def Ratio.le (x y : Ratio) : Bool := x.num * y.den ≤ y.num * x.den

def Ratio.lt (x y : Ratio) : Bool := x.num * y.den < y.num * x.den

/-- The number of decimal digits of a natural number. -/
def digitCount (n : Nat) : Nat := (Nat.toDigits 10 n).length

/-- The `e` with `10 ^ (e - 1) ≤ x < 10 ^ e`, for a positive `x`. -/
def Ratio.magnitude (x : Ratio) : Int :=
  if x.den ≤ x.num then digitCount (x.num / x.den)
  else
    let n := digitCount (x.den / x.num)
    if x.den = x.num * Nat.pow 10 (n - 1) then 2 - n else 1 - n

/-- The decimals that round to one float, with whether the ends belong to them. -/
structure Interval where
  low : Ratio
  high : Ratio
  closed : Bool

/-- The interval of `m * 2 ^ q`: half a unit to either side, a quarter below a power of two that has
    smaller floats of half the spacing beneath it. Ends round to an even `m`. -/
def Interval.around (m : Nat) (q : Int) : Interval where
  low := .scaled (if m = hiddenBit && leastExponent < q then 4 * m - 1 else 4 * m - 2) (q - 2)
  high := .scaled (4 * m + 2) (q - 2)
  closed := m % 2 == 0

def Interval.contains (i : Interval) (x : Ratio) : Bool :=
  if i.closed then i.low.le x && x.le i.high else i.low.lt x && x.lt i.high

/-- `n * 10 ^ p` as a fraction. -/
def Ratio.ofUnits (n : Nat) (p : Int) : Ratio := ⟨n * Nat.pow 10 p.toNat, Nat.pow 10 (-p).toNat⟩

/-- The point of the grid of multiples of `10 ^ p` that stands for `x`, if one lies in `i`. -/
def Interval.gridPoint? (i : Interval) (x : Ratio) (p : Int) : Option Nat :=
  let y := x.inUnits p
  let below := y.num / y.den
  match i.contains (.ofUnits below p), i.contains (.ofUnits (below + 1) p) with
  | true, true =>
    let twice := 2 * (y.num % y.den)
    if twice < y.den || twice = y.den && below % 2 = 0 then some below else some (below + 1)
  | true, false => some below
  | false, true => some (below + 1)
  | false, false => none

/-- Digits `d` and a place `e` for the value `0.d * 10 ^ e`. -/
structure Digits where
  digits : List Char
  place : Int

/-- The digits of `n * 10 ^ p` without trailing zeros. -/
def Digits.ofUnits (n : Nat) (p : Int) : Digits :=
  let all := Nat.toDigits 10 n
  ⟨(all.reverse.dropWhile (· == '0')).reverse, all.length + p⟩

/-- The fewest digits that read back as `m * 2 ^ q`, for a positive `m`. -/
def shortest (m : Nat) (q : Int) : Digits :=
  let x := Ratio.scaled m q
  let i := Interval.around m q
  let e := x.magnitude
  match (List.range' 1 17).findSome? fun (n : Nat) => (i.gridPoint? x (e - n)).map (Digits.ofUnits · (e - n)) with
  | some d => d
  | none => Digits.ofUnits (x.num / x.den) 0

/-- How digits are laid out: positional for decimal exponents from `least` up to, not including,
    `limit`; else in scientific form with an exponent of at least `exponentDigits` digits. -/
structure Layout where
  least : Int
  limit : Int
  exponentDigits : Nat

def zeros (n : Int) : List Char := List.replicate n.toNat '0'

/-- The text of digits. Positional text always has a point with a digit to either side. -/
def Layout.render (layout : Layout) (d : Digits) : String :=
  let exponent := d.place - 1
  if layout.least ≤ exponent && exponent < layout.limit then
    if d.place ≤ 0 then String.ofList ("0.".toList ++ zeros (-d.place) ++ d.digits)
    else
      let whole := d.digits.take d.place.toNat ++ zeros (d.place - d.digits.length)
      let fraction := d.digits.drop d.place.toNat
      String.ofList (whole ++ '.' :: (if fraction.isEmpty then ['0'] else fraction))
  else
    let mantissa := match d.digits with
      | [] => ['0']
      | [c] => [c]
      | c :: rest => c :: '.' :: rest
    let power := Nat.toDigits 10 exponent.natAbs
    String.ofList (mantissa ++ 'e' :: (if exponent < 0 then '-' else '+') ::
      zeros (layout.exponentDigits - power.length) ++ power)

/-- The text of a float: its shortest digits in the given layout; zero keeps its sign. -/
def Layout.text (layout : Layout) (x : Float) : String :=
  match Parts.of x with
  | .undefined => "nan"
  | .infinite negative => if negative then "-inf" else "inf"
  | .finite negative m q =>
    (if negative then "-" else "") ++ if m = 0 then "0.0" else layout.render (shortest m q)

end SceneScript.Decimal
