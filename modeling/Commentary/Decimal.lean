/-! Decimal text of binary fractions: the fewest digits that lie closer to a number than to its
neighbours, written without an exponent. -/
namespace Commentary.Decimal

/-- The number `mantissa * 2 ^ exponent`, with at most 53 bits and no bit below `2 ^ -1074`. -/
structure Binary where
  mantissa : Nat
  exponent : Int
deriving Repr, DecidableEq

/-- `n * base ^ e` as a fraction. -/
def scaled (base n : Nat) (e : Int) : Nat × Nat :=
  (n * base.pow e.toNat, base.pow (-e).toNat)

/-- A quotient rounded to the nearest number. Of two it takes the even one. -/
def roundDiv (num den : Nat) : Nat :=
  let q := num / den
  let twice := 2 * (num % den)
  if den < twice || (twice == den && q % 2 == 1) then q + 1 else q

/-- The binary fraction nearest to a fraction. -/
def nearest (num den : Nat) : Binary :=
  let guess : Int := (num.log2 : Int) - (den.log2 : Int) - 53
  let fits (e : Int) : Bool :=
    let unit := scaled 2 den e
    num * unit.2 < 0x20000000000000 * unit.1
  let e := max (if fits guess then guess else guess + 1) (-1074)
  let unit := scaled 2 den e
  ⟨roundDiv (num * unit.2) unit.1, e⟩

def Binary.isZero (x : Binary) : Bool := x.mantissa == 0

/-- Whether the multiple of a power of ten rounds to this number. Ends of the interval belong
to an even mantissa. -/
def Binary.hit (x : Binary) (digits : Nat) (place : Int) : Bool :=
  let value := scaled 10 digits place
  let edge (numerator : Nat) (shift : Int) : Ordering :=
    let bound := scaled 2 numerator (x.exponent - shift)
    compare (value.1 * bound.2) (bound.1 * value.2)
  let low :=
    if x.mantissa == 0x10000000000000 && x.exponent > -1074 then edge (4 * x.mantissa - 1) 2
    else edge (2 * x.mantissa - 1) 1
  let high := edge (2 * x.mantissa + 1) 1
  let even := x.mantissa % 2 == 0
  (low == .gt || (even && low == .eq)) && (high == .lt || (even && high == .eq))

/-- The two neighbours on the grid of a power of ten, the nearer one first. -/
def Binary.around (x : Binary) (place : Int) : List Nat :=
  let value := scaled 2 x.mantissa x.exponent
  let unit := scaled 10 1 place
  let num := value.1 * unit.2
  let den := value.2 * unit.1
  let low := num / den
  if roundDiv num den == low then [low, low + 1] else [low + 1, low]

/-- The first grid with a hit, from coarse to fine. Twenty grids are more than enough. -/
def Binary.shortest (x : Binary) (place : Int) : Nat → Nat × Int
  | 0 => ((x.around place).headD 0, place)
  | n + 1 =>
    match (x.around place).find? fun digits => x.hit digits place with
    | some digits => (digits, place)
    | none => x.shortest (place - 1) n

/-- Digits times a power of ten. There is at least one digit on each side of the point. -/
def positional (digits : Nat) (place : Int) : List Char :=
  if 0 ≤ place then Nat.toDigits 10 (digits * Nat.pow 10 place.toNat) ++ ['.', '0']
  else
    let k := (-place).toNat
    let fraction := Nat.toDigits 10 (digits % Nat.pow 10 k)
    Nat.toDigits 10 (digits / Nat.pow 10 k) ++
      '.' :: List.replicate (k - fraction.length) '0' ++ fraction

/-- The text of `mantissa / 10 ^ places`. -/
def text (mantissa : Int) (places : Nat) : String :=
  let x := nearest mantissa.natAbs (Nat.pow 10 places)
  let sign := if mantissa < 0 then ['-'] else []
  if x.isZero then String.ofList (sign ++ ['0', '.', '0'])
  else
    let start : Int := (Nat.toDigits 10 mantissa.natAbs).length - places + 1
    let (digits, place) := x.shortest start 20
    String.ofList (sign ++ positional digits place)

end Commentary.Decimal
