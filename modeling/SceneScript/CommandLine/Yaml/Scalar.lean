import SceneScript.Data

/-!
What an unquoted YAML scalar stands for: null, a boolean, an integer in one of five notations, a float,
or itself as a text.
-/

namespace SceneScript.CommandLine.Yaml

def isSign (c : Char) : Bool := c = '+' || c = '-'

def isDecimal (c : Char) : Bool := '0' ≤ c && c ≤ '9'

/-- The value of a digit in a base up to sixteen. -/
def digitValue (c : Char) : Nat :=
  if isDecimal c then c.toNat - '0'.toNat
  else if 'a' ≤ c && c ≤ 'f' then c.toNat - 'a'.toNat + 10
  else c.toNat - 'A'.toNat + 10

/-- The number that digits write in a base; underscores do not count. -/
def digitsIn (base : Nat) (cs : List Char) : Nat :=
  (cs.filter (· ≠ '_')).foldl (fun n c => base * n + digitValue c) 0

/-- The characters are digits below a base or underscores, and there is at least one. -/
def areDigits (base : Nat) (cs : List Char) : Bool :=
  !cs.isEmpty && cs.all fun c =>
    c = '_' || (isDecimal c || 'a' ≤ c && c ≤ 'f' || 'A' ≤ c && c ≤ 'F') && digitValue c < base

/-- Decimal digits and underscores that begin with a digit. -/
def isDecimalRun : List Char → Bool
  | c :: rest => isDecimal c && rest.all fun c => isDecimal c || c = '_'
  | [] => false

/-- The part after a colon of a number in base sixty. -/
def isSixtieth : List Char → Bool
  | [c] => isDecimal c
  | [c, d] => '0' ≤ c && c ≤ '5' && isDecimal d
  | _ => false

/-- The pieces between colons. -/
def colonPieces : List Char → List (List Char)
  | [] => [[]]
  | c :: rest =>
    match colonPieces rest with
    | [] => [[c]]
    | piece :: pieces => if c = ':' then [] :: piece :: pieces else (c :: piece) :: pieces

/-- The value of pieces in base sixty, most significant first. -/
def inSixties (pieces : List (List Char)) : Nat :=
  pieces.foldl (fun n piece => 60 * n + digitsIn 10 piece) 0

/-- The natural number that an unsigned integer notation writes. -/
def natural? : List Char → Option Nat
  | '0' :: 'b' :: cs => if areDigits 2 cs then some (digitsIn 2 cs) else none
  | '0' :: 'x' :: cs => if areDigits 16 cs then some (digitsIn 16 cs) else none
  | ['0'] => some 0
  | '0' :: cs => if areDigits 8 cs then some (digitsIn 8 cs) else none
  | cs =>
    match colonPieces cs with
    | [piece] => if isDecimalRun piece then some (digitsIn 10 piece) else none
    | piece :: more =>
      if isDecimalRun piece && more.all isSixtieth then some (inSixties (piece :: more)) else none
    | [] => none

/-- The sign of a notation and the rest. -/
def splitSign : List Char → Bool × List Char
  | c :: rest => if isSign c then (c = '-', rest) else (false, c :: rest)
  | [] => (false, [])

def integer? (cs : List Char) : Option Int :=
  let (negative, body) := splitSign cs
  (natural? body).map fun n => if negative then -(n : Int) else n

/-- The power of ten that an exponent part states; it needs a sign. No part states zero. -/
def exponent? : List Char → Option Int
  | [] => some 0
  | e :: sign :: digits =>
    if (e = 'e' || e = 'E') && isSign sign && !digits.isEmpty && digits.all isDecimal then
      let n : Int := digitsIn 10 digits
      some (if sign = '-' then -n else n)
    else none
  | _ => none

/-- A float needs a point. A leading point takes no sign. -/
def decimal? (cs : List Char) : Option Float :=
  let (negative, body) := splitSign cs
  let whole := body.takeWhile (· ≠ '.')
  match body.dropWhile (· ≠ '.') with
  | '.' :: after =>
    let fraction := after.takeWhile fun c => isDecimal c || c = '_'
    let digits := fraction.filter (· ≠ '_')
    let scaled (whole : Nat) (exponent : Int) :=
      Decimal.nearestFloat negative (whole * Nat.pow 10 digits.length + digitsIn 10 digits)
        (exponent - digits.length)
    let tail := after.dropWhile fun c => isDecimal c || c = '_'
    if whole.isEmpty then
      if cs = body && isDecimalRun fraction then (exponent? tail).map (scaled 0) else none
    else if isDecimalRun whole then (exponent? tail).map (scaled (digitsIn 10 whole))
    else
      match colonPieces whole with
      | piece :: more =>
        if isDecimalRun piece && !more.isEmpty && more.all isSixtieth && tail.isEmpty then
          some (scaled (inSixties (piece :: more)) 0)
        else none
      | [] => none
  | _ => none

def infinity : Float := 1.0 / 0.0

/-- Infinite floats, with an optional sign, and the undefined one. -/
def special? (text : String) : Option Float :=
  if [".inf", ".Inf", ".INF", "+.inf", "+.Inf", "+.INF"].contains text then some infinity
  else if ["-.inf", "-.Inf", "-.INF"].contains text then some (-infinity)
  else if [".nan", ".NaN", ".NAN"].contains text then some (0.0 / 0.0)
  else none

def nulls : List String := ["", "~", "null", "Null", "NULL"]

def trues : List String := ["yes", "Yes", "YES", "true", "True", "TRUE", "on", "On", "ON"]

def falses : List String := ["no", "No", "NO", "false", "False", "FALSE", "off", "Off", "OFF"]

/-- The data that an unquoted scalar stands for. -/
def ofPlain (text : String) : Data :=
  if nulls.contains text then .null
  else if trues.contains text then .bool true
  else if falses.contains text then .bool false
  else
    match special? text, decimal? text.toList, integer? text.toList with
    | some x, _, _ => .number (.float x)
    | none, some x, _ => .number (.float x)
    | none, none, some n => .number (.int n)
    | none, none, none => .text text

end SceneScript.CommandLine.Yaml
