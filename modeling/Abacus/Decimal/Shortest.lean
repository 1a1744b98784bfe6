/-
The shortest decimal that reads back as a given double.

A double stands for every real number that rounds to it: an interval around its
exact value, whose ends belong to it when the significand is even.  Decimal
grids are tried from coarse to fine; on each grid only the two neighbours of
the exact value can be nearest, so the first grid on which one of them lies in
the interval gives the fewest digits.  Of two hits the nearer is taken, and of
two equally near ones the even one.
-/
import Abacus.Decimal.Binary

namespace Abacus

/-- The number `digits * 10 ^ exponent`. -/
structure DecimalForm where
  digits : Nat
  exponent : Int
deriving DecidableEq, Repr

/-- A fraction of natural numbers, for values that need not be in lowest terms. -/
structure Ratio where
  num : Nat
  den : Nat
deriving DecidableEq, Repr

namespace Ratio

def le (a b : Ratio) : Bool := decide (a.num * b.den ≤ b.num * a.den)

def lt (a b : Ratio) : Bool := decide (a.num * b.den < b.num * a.den)

/-- The number `m * base ^ e`. -/
def scaled (base m : Nat) (e : Int) : Ratio :=
  if 0 ≤ e then ⟨m * Nat.pow base e.toNat, 1⟩ else ⟨m, Nat.pow base (-e).toNat⟩

/-- The ratio divided by `10 ^ e`. -/
def overTen (r : Ratio) (e : Int) : Ratio :=
  if 0 ≤ e then ⟨r.num, r.den * Nat.pow 10 e.toNat⟩ else ⟨r.num * Nat.pow 10 (-e).toNat, r.den⟩

end Ratio

/-- The real numbers that round to one double. -/
structure Rounding where
  value : Ratio
  low : Ratio
  high : Ratio
  closed : Bool

namespace Rounding

/-- The interval of a positive double.  Below a power of two the neighbour is
only half as far away, unless the doubles are already as dense as they get. -/
def ofBinary (b : Binary) : Rounding :=
  let m := b.significand
  let narrow := m = Binary.hiddenBit ∧ Binary.leastExponent < b.exponent
  { value := .scaled 2 (4 * m) (b.exponent - 2)
    low := .scaled 2 (if narrow then 4 * m - 1 else 4 * m - 2) (b.exponent - 2)
    high := .scaled 2 (4 * m + 2) (b.exponent - 2)
    closed := decide (m % 2 = 0) }

def contains (r : Rounding) (x : Ratio) : Bool :=
  if r.closed then r.low.le x && x.le r.high else r.low.lt x && x.lt r.high

/-- The multiple of `10 ^ e` nearest to the value among those that round to the
double, if there is one. -/
def onGrid (r : Rounding) (e : Int) : Option Nat :=
  let v := r.value.overTen e
  let below := v.num / v.den
  let above := below + 1
  let hit (n : Nat) : Bool := decide (0 < n) && r.contains (.scaled 10 n e)
  match hit below, hit above with
  | false, false => none
  | true, false => some below
  | false, true => some above
  | true, true =>
    let twice := 2 * (v.num - below * v.den)
    if twice < v.den then some below
    else if v.den < twice then some above
    else some (if below % 2 = 0 then below else above)

/-- Tries `tries` grids from `10 ^ e` downwards, and one more as a last resort. -/
def search (r : Rounding) : Nat → Int → DecimalForm
  | 0, e => ⟨(r.onGrid e).getD 0, e⟩
  | tries + 1, e =>
    match r.onGrid e with
    | some digits => ⟨digits, e⟩
    | none => search r tries (e - 1)

end Rounding

/-- An exponent of ten above that of a positive double: 30103 / 100000 exceeds
the decimal logarithm of two. -/
def coarseExponent (b : Binary) : Int :=
  (b.exponent + b.significand.log2 + 1) * 30103 / 100000 + 1

/-- The shortest decimal that reads back as a positive finite double.  A grid
that fine always has a hit within twenty tries. -/
def shortest (b : Binary) : DecimalForm :=
  (Rounding.ofBinary b).search 20 (coarseExponent b)

end Abacus
