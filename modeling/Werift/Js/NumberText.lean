import Mathlib

/-!
# Numbers and their texts

`Number(text)` and `String(number)`.  A number is a double: what a text denotes is rounded to 53 bits, and a
number is written with the fewest digits that denote it.
-/

namespace Werift.Js

/-- The value of a number. -/
inductive Numeric
  | nan
  | infinity (negative : Bool)
  | finite (value : ℚ)
deriving DecidableEq

namespace Numeric

/-- `a === b`. -/
def strictEquals (a b : Numeric) : Bool := a ≠ nan && a = b

def neg : Numeric → Numeric
  | nan => nan
  | infinity negative => infinity (!negative)
  | finite value => finite (-value)

/-- The closest integer, and of two the even one. -/
def roundHalfEven (q : ℚ) : ℤ :=
  if q - ⌊q⌋ < 1 / 2 then ⌊q⌋
  else if 1 / 2 < q - ⌊q⌋ then ⌊q⌋ + 1
  else if ⌊q⌋ % 2 = 0 then ⌊q⌋ else ⌊q⌋ + 1

/-- The double closest to a nonnegative number. -/
def ofRat (q : ℚ) : Numeric :=
  if q = 0 then finite 0
  else
    let unit : ℚ := 2 ^ max (Int.log 2 q - 52) (-1074)
    let value := roundHalfEven (q / unit) * unit
    if 2 ^ 1024 ≤ value then infinity false else finite value

/-! ## Reading -/

/-- The white space that `trim()` takes off. -/
def isWhitespace (c : Char) : Bool :=
  let n := c.toNat
  (9 ≤ n && n ≤ 13) || (0x2000 ≤ n && n ≤ 0x200a) ||
    [0x20, 0xa0, 0x1680, 0x2028, 0x2029, 0x202f, 0x205f, 0x3000, 0xfeff].contains n

/-- The value of a digit. -/
def digit (base : ℕ) (c : Char) : Option ℕ :=
  let value :=
    if '0' ≤ c && c ≤ '9' then c.toNat - '0'.toNat
    else if 'a' ≤ c && c ≤ 'z' then c.toNat - 'a'.toNat + 10
    else if 'A' ≤ c && c ≤ 'Z' then c.toNat - 'A'.toNat + 10
    else base
  if value < base then some value else none

/-- The value of one digit or more. -/
def ofDigits (base : ℕ) : List Char → Option ℕ
  | [] => none
  | cs => cs.foldlM (fun n c => (digit base c).map (base * n + ·)) 0

/-- The part before the first character of a kind, and what stands behind it. -/
def splitFirst (isMark : Char → Bool) (cs : List Char) : List Char × Option (List Char) :=
  let rest := cs.dropWhile fun c => !isMark c
  (cs.takeWhile fun c => !isMark c, if rest = [] then none else some rest.tail)

/-- An exponent with its sign. -/
def exponent : List Char → Option ℤ
  | '-' :: cs => (ofDigits 10 cs).map fun n => -(n : ℤ)
  | '+' :: cs => (ofDigits 10 cs).map (↑)
  | cs => (ofDigits 10 cs).map (↑)

/-- A decimal literal without a sign. -/
def decimal (cs : List Char) : Option ℚ := do
  let (mantissa, e) := splitFirst (fun c => c = 'e' || c = 'E') cs
  let e ← e.elim (some 0) exponent
  let (whole, fraction) := splitFirst (· = '.') mantissa
  let fraction := fraction.getD []
  let n ← ofDigits 10 (whole ++ fraction)
  return n * 10 ^ (e - fraction.length)

def ofUnsigned (cs : List Char) : Numeric :=
  if cs = "Infinity".toList then infinity false else (decimal cs).elim nan ofRat

/-- `Number(text)`. -/
def ofText (text : String) : Numeric :=
  let cs := ((text.toList.dropWhile isWhitespace).reverse.dropWhile isWhitespace).reverse
  let ofBase (base : ℕ) (cs : List Char) : Numeric := (ofDigits base cs).elim nan fun n => ofRat n
  match cs with
  | [] => finite 0
  | '0' :: 'x' :: cs => ofBase 16 cs
  | '0' :: 'X' :: cs => ofBase 16 cs
  | '0' :: 'o' :: cs => ofBase 8 cs
  | '0' :: 'O' :: cs => ofBase 8 cs
  | '0' :: 'b' :: cs => ofBase 2 cs
  | '0' :: 'B' :: cs => ofBase 2 cs
  | '-' :: cs => (ofUnsigned cs).neg
  | '+' :: cs => ofUnsigned cs
  | cs => ofUnsigned cs

example : ofText "96" = finite 96 := by decide +kernel

example : ofText "" = finite 0 ∧ ofText "a" = nan ∧ ofText " 0x60 " = finite 96 := by decide +kernel

/-! ## Writing -/

/-- The fewest decimal digits that denote a positive number, and the exponent of ten in front of which they stand:
`k` counts the digits tried so far. -/
def shortest (q : ℚ) (fuel k : ℕ) : ℕ × ℤ :=
  let n := Int.log 10 q + 1
  let s := (roundHalfEven (q * 10 ^ (k - n))).toNat
  match fuel with
  | 0 => (s, n)
  | fuel + 1 => if ofRat (s * 10 ^ (n - k)) = finite q then (s, n) else shortest q fuel (k + 1)

/-- The text of a positive number with the digits `s` in front of which the point stands `n` places. -/
def positiveText (s : ℕ) (n : ℤ) : List Char :=
  let digits := Nat.toDigits 10 s
  let k := digits.length
  if k ≤ n ∧ n ≤ 21 then digits ++ List.replicate (n - k).toNat '0'
  else if 0 < n ∧ n ≤ 21 then digits.take n.toNat ++ '.' :: digits.drop n.toNat
  else if -6 < n ∧ n ≤ 0 then '0' :: '.' :: (List.replicate (-n).toNat '0' ++ digits)
  else
    let e := n - 1
    let fraction := if k = 1 then [] else '.' :: digits.tail
    digits.take 1 ++ fraction ++ 'e' :: (if e < 0 then '-' else '+') :: Nat.toDigits 10 e.natAbs

/-- `String(number)`. -/
def text : Numeric → String
  | nan => "NaN"
  | infinity negative => if negative then "-Infinity" else "Infinity"
  | finite value =>
    if value = 0 then "0"
    else
      let (s, n) := shortest |value| 17 1
      String.ofList (if value < 0 then '-' :: positiveText s n else positiveText s n)

example : (finite 96).text = "96" ∧ (finite (1 / 2)).text = "0.5" := by decide +kernel

end Numeric

end Werift.Js
