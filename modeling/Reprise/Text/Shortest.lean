/-!
# The shortest decimal of a binary number

A binary number `m · 2^q` stands for an interval of reals: all that round to it.  The interval ends
halfway to the two neighbours, and its ends belong to it iff `m` is even.  `shortest` writes the
number with the fewest digits that name a real of that interval, taking of two such decimals the
nearer one and of two equally near ones the larger.  All arithmetic is exact, on natural numbers.

`positional` writes digits and a decimal exponent without exponent notation.
-/

namespace Reprise.Text

/-- The reals that round to a binary number, over a common denominator: the number itself is
`value / denom`, and the ends lie `below` and `above` it. -/
structure Rounding where
  value : Nat
  below : Nat
  above : Nat
  denom : Nat
  closed : Bool

namespace Rounding

/-- The interval of `m · 2^q`.  The gap below a power of two is half as wide (`narrow`). -/
def ofBinary (m : Nat) (q : Int) (narrow : Bool) : Rounding :=
  let scale := Nat.pow 2 q.toNat
  { value := 4 * m * scale
    below := if narrow then scale else 2 * scale
    above := 2 * scale
    denom := 4 * Nat.pow 2 (-q).toNat
    closed := m % 2 == 0 }

/-- The least `k` with value below `10^k`, for a positive value. -/
def exponent (r : Rounding) : Int :=
  let whole := r.value / r.denom
  if whole ≠ 0 then ((Nat.toDigits 10 whole).length : Int)
  else
    let inverse := (r.denom + r.value - 1) / r.value
    -- 1/value lies in (inverse - 1, inverse]: value below 10^(1 - digits of (inverse - 1))
    1 - ((Nat.toDigits 10 (inverse - 1)).length : Int)

/-- Whether `n · 10^p` rounds to the number. -/
def holds (r : Rounding) (n : Nat) (p : Int) : Bool :=
  let point := n * Nat.pow 10 p.toNat * r.denom
  let unit := Nat.pow 10 (-p).toNat
  let low := (r.value - r.below) * unit
  let high := (r.value + r.above) * unit
  if r.closed then decide (low ≤ point) && decide (point ≤ high)
  else decide (low < point) && decide (point < high)

/-- The decimal with last place `10^p` that rounds to the number and is nearest to it, if any. -/
def onGrid (r : Rounding) (p : Int) : Option Nat :=
  let num := r.value * Nat.pow 10 (-p).toNat
  let den := r.denom * Nat.pow 10 p.toNat
  let down := num / den
  let rest := num % den
  if rest = 0 then some down
  else
    let nearer := if 2 * rest < den then down else down + 1
    let other := if 2 * rest < den then down + 1 else down
    if r.holds nearer p then some nearer
    else if r.holds other p then some other
    else none

/-- The first of `count` grids, each ten times finer than the last, that has a decimal rounding to
the number; the answer is `n` and `p` for `n · 10^p`. -/
def search (r : Rounding) : (count : Nat) → (p : Int) → Nat × Int
  | 0, p => ((r.onGrid p).getD 0, p)
  | count + 1, p =>
    match r.onGrid p with
    | some n => (n, p)
    | none => search r count (p - 1)

/-- The shortest decimal `n · 10^p` that rounds to the number; 17 digits always suffice. -/
def shortest (r : Rounding) : Nat × Int := r.search 17 (r.exponent - 1)

end Rounding

/-- `n · 10^p` without exponent notation. -/
def positional (n : Nat) (p : Int) : String :=
  let digits := Nat.toDigits 10 n
  if 0 ≤ p then String.ofList (digits ++ List.replicate p.toNat '0')
  else
    let places := (-p).toNat
    let padded := List.replicate (places + 1 - digits.length) '0' ++ digits
    let cut := padded.length - places
    let fraction := ((padded.drop cut).reverse.dropWhile (· == '0')).reverse
    if fraction.isEmpty then String.ofList (padded.take cut)
    else String.ofList (padded.take cut ++ '.' :: fraction)

/-- A binary floating point format: the width of its stored fraction and of its exponent. -/
structure BinaryFormat where
  fractionBits : Nat
  exponentBits : Nat

/-- Single precision. -/
def BinaryFormat.single : BinaryFormat := ⟨23, 8⟩

/-- Double precision. -/
def BinaryFormat.double : BinaryFormat := ⟨52, 11⟩

/-- The text of the number with the given bits: shortest digits, written positionally, a minus sign
also before zero, and names for the infinities and for all that is no number. -/
def BinaryFormat.text (f : BinaryFormat) (bits : Nat) : String :=
  let fraction := bits % Nat.pow 2 f.fractionBits
  let top := Nat.pow 2 f.exponentBits
  let stored := bits / Nat.pow 2 f.fractionBits % top
  let negative := bits / Nat.pow 2 (f.fractionBits + f.exponentBits) % 2 == 1
  if stored = top - 1 ∧ fraction ≠ 0 then "NaN"
  else
    let sign := if negative then "-" else ""
    if stored = top - 1 then sign ++ "inf"
    else if stored = 0 ∧ fraction = 0 then sign ++ "0"
    else
      let least : Int := 2 - (top / 2 : Nat) - f.fractionBits
      let interval :=
        if stored = 0 then Rounding.ofBinary fraction least false
        else Rounding.ofBinary (Nat.pow 2 f.fractionBits + fraction) (least + (stored - 1 : Nat))
          (fraction == 0 && stored != 1)
      let (n, p) := interval.shortest
      sign ++ positional n p

end Reprise.Text
