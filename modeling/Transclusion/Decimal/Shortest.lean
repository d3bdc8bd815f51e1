/-! Shortest decimals of binary numbers.

A binary64 number stands for every real that rounds to it. Of the decimals in
that interval the *shortest* one has the fewest digits, and of those it is the
nearest; it is found by testing, for one digit after another, the two points of
the decimal grid on either side of the number. All of it is exact arithmetic on
natural numbers. -/
namespace Transclusion.Decimal

def twoTo (n : Nat) : Nat := Nat.pow 2 n

def tenTo (n : Nat) : Nat := Nat.pow 10 n

/-- A binary64 number by its bits, so that equality is decidable. -/
structure Binary64 where
  bits : UInt64
  deriving DecidableEq, Repr

namespace Binary64

/-- The bits of a number. -/
def ofFloat (x : Float) : Binary64 := ⟨x.toBits⟩

def toFloat (x : Binary64) : Float := Float.ofBits x.bits

def isNegative (x : Binary64) : Bool := decide (twoTo 63 ≤ x.bits.toNat)

def biased (x : Binary64) : Nat := x.bits.toNat / twoTo 52 % twoTo 11

def fraction (x : Binary64) : Nat := x.bits.toNat % twoTo 52

/-- The magnitude of a finite number is `significand · 2 ^ (exponent - 1074)`. -/
def significand (x : Binary64) : Nat := if x.biased = 0 then x.fraction else twoTo 52 + x.fraction

/-- The exponent, counted from that of the smallest number. -/
def exponent (x : Binary64) : Nat := x.biased - 1

end Binary64

/-- Digits of a decimal, read as a natural number, and the power of ten they are multiplied by. -/
structure Scaled where
  digits : Nat
  power : Int
  deriving DecidableEq, Repr

/-- Compares `a · 10 ^ p` with `n / d`. -/
def compareScaled (a : Nat) (p : Int) (n d : Nat) : Ordering :=
  if 0 ≤ p then compare (a * tenTo p.toNat * d) n else compare (a * d) (n * tenTo (-p).toNat)

/-- The number of decimal digits of a natural number; of zero, none. -/
def digitCount (n : Nat) : Nat := if n = 0 then 0 else (Nat.toDigits 10 n).length

/-- The least power of ten above `n / d`, for a positive fraction not below `10 ^ -limit`. -/
def powerAbove (limit n d : Nat) : Int :=
  if d ≤ n then digitCount (n / d)
  else match (List.range limit).find? fun j => decide (d ≤ n * tenTo (j + 1)) with
    | some j => -(j : Int)
    | none => -(limit : Int)

/-- The decimals on a grid that lie around `n / d`. -/
def around (p : Int) (n d : Nat) : Nat :=
  if 0 ≤ p then n / (d * tenTo p.toNat) else n * tenTo (-p).toNat / d

/-- The shortest decimal of the positive number `m · 2 ^ q / 2 ^ 1074`. -/
def shortest (m q : Nat) : Scaled :=
  -- A quarter of the last place is the unit, so that the interval's ends are whole.
  let d := twoTo 1076
  let unit := twoTo q
  let n := 4 * m * unit
  let high := (4 * m + 2) * unit
  let low := if m = twoTo 52 ∧ q ≠ 0 then (4 * m - 1) * unit else (4 * m - 2) * unit
  let closed := m % 2 = 0
  let k := powerAbove 400 n d
  let inside (c : Nat) (p : Int) : Bool :=
    let above := compareScaled c p low d
    let below := compareScaled c p high d
    (above == .gt || (closed && above == .eq)) && (below == .lt || (closed && below == .eq))
  let hit (count : Nat) : Option Scaled :=
    let p := k - count
    let c := around p n d
    match inside c p, inside (c + 1) p with
    | true, true =>
      -- Nearer of the two; of a tie the even one.
      match compareScaled (2 * c + 1) p (2 * n) d with
      | .gt => some ⟨c, p⟩
      | .lt => some ⟨c + 1, p⟩
      | .eq => some ⟨if c % 2 = 0 then c else c + 1, p⟩
    | true, false => some ⟨c, p⟩
    | false, true => some ⟨c + 1, p⟩
    | false, false => none
  ((List.range 17).findSome? fun i => hit (i + 1)).getD ⟨around (k - 17) n d, k - 17⟩

/-- How a number is written. -/
structure Format where
  /-- Numbers below ten to this power have no exponent. -/
  positionalBelow : Int
  /-- Nor have numbers from ten to this power on. -/
  positionalFrom : Int
  /-- Digits of an exponent at least. -/
  exponentWidth : Nat

/-- Numbers are written without exponent from 10⁻⁴ to 10¹⁶, always with a fraction; an exponent has
a sign and at least two digits. -/
def plainFormat : Format := ⟨16, -4, 2⟩

/-- Writes digits whose point stands `point` places after the first of them. -/
def Format.write (f : Format) (digits : List Char) (point : Int) : List Char :=
  if f.positionalFrom < point ∧ point ≤ f.positionalBelow then
    if point ≤ 0 then ['0', '.'] ++ List.replicate (-point).toNat '0' ++ digits
    else if digits.length ≤ point.toNat then
      digits ++ List.replicate (point.toNat - digits.length) '0' ++ ['.', '0']
    else digits.take point.toNat ++ '.' :: digits.drop point.toNat
  else
    let e := point - 1
    let places := Nat.toDigits 10 e.natAbs
    let mantissa := match digits with
      | [] => []
      | [c] => [c]
      | c :: cs => c :: '.' :: cs
    mantissa ++ ['e', if e < 0 then '-' else '+'] ++
      List.replicate (f.exponentWidth - places.length) '0' ++ places

/-- The text of a number: its shortest decimal, in the plain format. -/
def Binary64.text (x : Binary64) : String :=
  let sign := if x.isNegative then ['-'] else []
  if x.biased = 2047 then
    if x.fraction = 0 then String.ofList (sign ++ ['i', 'n', 'f']) else "nan"
  else if x.significand = 0 then String.ofList (sign ++ ['0', '.', '0'])
  else
    let s := shortest x.significand x.exponent
    let all := Nat.toDigits 10 s.digits
    let digits := (all.reverse.dropWhile (· == '0')).reverse
    String.ofList (sign ++ plainFormat.write digits (s.power + all.length))

/-- The number, or its negative. -/
def Binary64.negatedIf (isNegative : Bool) (x : Binary64) : Binary64 :=
  if isNegative then ⟨x.bits ^^^ 0x8000000000000000⟩ else x

/-- The number nearest to `digits · 10 ^ power`. -/
def nearest (digits : Nat) (power : Int) : Binary64 :=
  if digits = 0 then ⟨0⟩
  else
    let size := power + digitCount digits
    if 310 < size then .ofFloat (1.0 / 0.0)
    else if size < -330 then ⟨0⟩
    else if 0 ≤ power then .ofFloat (Float.ofScientific digits false power.toNat)
    else .ofFloat (Float.ofScientific digits true (-power).toNat)

end Transclusion.Decimal
