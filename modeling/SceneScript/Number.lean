import SceneScript.Decimal.Shortest

/-!
Numbers of scene descriptions and catalogs: unbounded integers and floats, kept apart. Arithmetic with
an integer constant keeps the kind of the number.
-/

namespace SceneScript

inductive Number where
  | int (n : Int)
  | float (x : Float)
  deriving Repr, Inhabited, BEq

namespace Number

instance (n : Nat) : OfNat Number n := ⟨.int n⟩

/-- Floats are positional for exponents from -4 to 15 and have two exponent digits beyond. -/
def layout : Decimal.Layout := ⟨-4, 16, 2⟩

/-- The text of a number: digits for an integer, the shortest decimal that reads back for a float. -/
def text : Number → String
  | .int n => toString n
  | .float x => layout.text x

/-- The sum with a fixed offset. -/
def shift (n : Number) (k : Int) : Number :=
  match n with
  | .int m => .int (m + k)
  | .float x => .float (x + Float.ofInt k)

/-- The product with a fixed factor. -/
def scale (n : Number) (k : Int) : Number :=
  match n with
  | .int m => .int (m * k)
  | .float x => .float (x * Float.ofInt k)

def negate : Number → Number
  | .int m => .int (-m)
  | .float x => .float (-x)

/-- Zero of either kind and sign. -/
def isZero : Number → Bool
  | .int m => m == 0
  | .float x => x == 0

/-- Strictly below zero; false for a negative zero and for an undefined float. -/
def isNegative : Number → Bool
  | .int m => m < 0
  | .float x => x < 0

/-- The integer next to the number on the way to zero; none for a float without a finite value. -/
def truncate? : Number → Option Int
  | .int m => some m
  | .float x =>
    match Decimal.Parts.of x with
    | .finite negative m q =>
      let n : Int := Decimal.truncated m q
      some (if negative then -n else n)
    | _ => none

@[simp] theorem shift_int (m k : Int) : (Number.int m).shift k = .int (m + k) := rfl

@[simp] theorem scale_int (m k : Int) : (Number.int m).scale k = .int (m * k) := rfl

end Number

end SceneScript
