import Balii.Lib.Double
import Mathlib.Data.Rat.Defs
import Mathlib.Data.List.Basic
import Mathlib.Algebra.Group.Nat.Defs
/-!
# Text — the JavaScript string functions the services use
-/
namespace Balii

/-- White space and line terminators of ECMAScript. -/
def isJsSpace (c : Char) : Bool :=
  let n := c.toNat
  (9 ≤ n && n ≤ 13) || n == 32 || n == 160 || n == 0x1680 || (0x2000 ≤ n && n ≤ 0x200A) || n == 0x2028 || n == 0x2029 ||
    n == 0x202F || n == 0x205F || n == 0x3000 || n == 0xFEFF

/-- `s.trim()`. -/
def trim (s : String) : String :=
  String.ofList (((s.toList.dropWhile isJsSpace).reverse.dropWhile isJsSpace).reverse)

/-- `s.includes(part)`. -/
def includes (s part : String) : Bool := s.toList.tails.any fun t => part.toList.isPrefixOf t

/-- `s.startsWith(part)`. -/
def startsWith (s part : String) : Bool := part.toList.isPrefixOf s.toList

/-! ## Numbers -/

inductive JsNumber
  | nan
  | posInfinity
  | negInfinity
  | num (q : ℚ)
  deriving DecidableEq

namespace JsNumber

/-- What comes of a number that is finite; any other stays. -/
def after (f : ℚ → JsNumber) : JsNumber → JsNumber
  | num q => f q
  | x => x

def neg : JsNumber → JsNumber
  | nan => nan
  | posInfinity => negInfinity
  | negInfinity => posInfinity
  | num q => num (-q)

/-- `x < q`. -/
def lt (x : JsNumber) (q : ℚ) : Bool :=
  match x with
  | nan => false
  | posInfinity => false
  | negInfinity => true
  | num p => p < q

/-- `x <= q`. -/
def le (x : JsNumber) (q : ℚ) : Bool :=
  match x with
  | nan => false
  | posInfinity => false
  | negInfinity => true
  | num p => p ≤ q

/-- `x < y`. -/
def less : JsNumber → JsNumber → Bool
  | nan, _ => false
  | _, nan => false
  | negInfinity, negInfinity => false
  | negInfinity, _ => true
  | num p, num q => p < q
  | num _, posInfinity => true
  | num _, negInfinity => false
  | posInfinity, _ => false

/-- `Math.min(x, y)`. -/
def min (x y : JsNumber) : JsNumber := if x = nan ∨ y = nan then nan else if y.less x then y else x

/-- `Math.max(x, y)`. -/
def max (x y : JsNumber) : JsNumber := if x = nan ∨ y = nan then nan else if x.less y then y else x

/-- A decimal fraction, written out. -/
def decimal (q : ℚ) : String :=
  let places := ((List.range 64).find? fun k => (q * 10 ^ k).den == 1).getD 64
  let n := (q * 10 ^ places).num.natAbs
  let fraction := toString (n % 10 ^ places)
  (if q < 0 then "-" else "") ++ toString (n / 10 ^ places) ++
    (if places = 0 then "" else "." ++ String.ofList (List.replicate (places - fraction.length) '0') ++ fraction)

/-- The fewest digits that the number is the nearest double of, and the place of the last of them. -/
def shortest (q : ℚ) : Option (ℕ × ℤ) :=
  (List.range 17).findSome? fun k =>
    let place := Int.log 10 q - k
    let digits := ⌊q / 10 ^ place + 1 / 2⌋.toNat
    if Double.nearest (digits * 10 ^ place) = q then some (digits, place) else none

/-- The number that is shown of a double. -/
def shown (q : ℚ) : ℚ :=
  match shortest |q| with
  | some (digits, place) => (if q < 0 then -1 else 1) * (digits * 10 ^ place)
  | none => q

/-- With an exponent: `1.5e+21`. -/
def exponential (digits : ℕ) (place : ℤ) : String :=
  let all := (toString digits).toList
  let e := place + all.length - 1
  let ds := (all.reverse.dropWhile (· == '0')).reverse
  String.ofList (ds.take 1) ++ (if ds.length = 1 then "" else "." ++ String.ofList (ds.drop 1)) ++ "e" ++ (if 0 ≤ e then "+" else "-") ++
    toString e.natAbs

/-- `String(x)`; what is no double is written out in full. -/
def text : JsNumber → String
  | nan => "NaN"
  | posInfinity => "Infinity"
  | negInfinity => "-Infinity"
  | num q =>
    if q = 0 ∨ 1 / 10 ^ 6 ≤ |q| ∧ |q| < 10 ^ 21 then decimal (shown q)
    else match shortest |q| with
      | some (digits, place) => (if q < 0 then "-" else "") ++ exponential digits place
      | none => decimal q

/-- `items.slice(0, x)`: a number is cut off towards zero, and one below zero counts from the end. -/
def take {α : Type} (x : JsNumber) (items : List α) : List α :=
  match x with
  | nan => []
  | posInfinity => items
  | negInfinity => []
  | num q =>
    let n := q.num.tdiv q.den
    items.take (if n < 0 then items.length + n else n).toNat

end JsNumber

def digitValue (c : Char) : ℕ :=
  if c.isDigit then c.toNat - 48 else if 'a' ≤ c ∧ c ≤ 'z' then c.toNat - 87
  else if 'A' ≤ c ∧ c ≤ 'Z' then c.toNat - 55 else 99

/-- A nonempty run of digits of the base, as a number. -/
def parseDigits (base : ℕ) (ds : List Char) : Option ℕ :=
  if ds.isEmpty || ds.any fun c => base ≤ digitValue c then none else some (ds.foldl (fun n c => n * base + digitValue c) 0)

/-- The exponent of a decimal literal: nothing, or `e` and a signed run of digits. -/
def parseExponent (ds : List Char) : Option ℤ :=
  match ds with
  | [] => some 0
  | _ :: '+' :: ds => (parseDigits 10 ds).map fun n => (n : ℤ)
  | _ :: '-' :: ds => (parseDigits 10 ds).map fun n => -(n : ℤ)
  | _ :: ds => (parseDigits 10 ds).map fun n => (n : ℤ)

/-- Digits, a fraction and an exponent; at least one digit. -/
def parseDecimal (cs : List Char) : JsNumber :=
  let whole := cs.takeWhile Char.isDigit
  let rest := cs.dropWhile Char.isDigit
  let fraction := match rest with
    | '.' :: ds => ds.takeWhile Char.isDigit
    | _ => []
  let tail := match rest with
    | '.' :: ds => ds.dropWhile Char.isDigit
    | _ => rest
  match parseDigits 10 (whole ++ fraction), tail.head?.all (fun c => c == 'e' || c == 'E'), parseExponent tail with
  | some n, true, some e => .num ((n : ℚ) * (10 : ℚ) ^ (e - fraction.length))
  | _, _, _ => .nan

def unsignedNumber (cs : List Char) : JsNumber := if cs = "Infinity".toList then .posInfinity else parseDecimal cs

/-- The numeric literal a string holds. -/
def numericLiteral (cs : List Char) : JsNumber :=
  let radix (base : ℕ) (ds : List Char) : JsNumber := ((parseDigits base ds).map fun n => .num n).getD .nan
  match cs with
  | [] => .num 0
  | '0' :: 'x' :: ds => radix 16 ds
  | '0' :: 'X' :: ds => radix 16 ds
  | '0' :: 'o' :: ds => radix 8 ds
  | '0' :: 'O' :: ds => radix 8 ds
  | '0' :: 'b' :: ds => radix 2 ds
  | '0' :: 'B' :: ds => radix 2 ds
  | '+' :: cs => unsignedNumber cs
  | '-' :: cs => (unsignedNumber cs).neg
  | cs => unsignedNumber cs

/-- From here on a number is closer to infinity than to the greatest double. -/
def doubleLimit : ℕ := 2 ^ 1024 - 2 ^ 970

/-- What is left of a number in the range of the doubles. -/
def JsNumber.within (f : ℚ → ℚ) (q : ℚ) : JsNumber :=
  if (doubleLimit : ℚ) ≤ q then .posInfinity else if q ≤ -(doubleLimit : ℚ) then .negInfinity else .num (f q)

/-- The double of a number. -/
def JsNumber.double : ℚ → JsNumber := JsNumber.within Double.nearest

/-- The number a string holds. -/
def readNumber (f : ℚ → JsNumber) (s : String) : JsNumber :=
  (numericLiteral (trim s).toList).after f

/-- `Number(s)` of a string. -/
def jsNumber : String → JsNumber := readNumber .double

/-- `Number(s)` of a string, its decimals taken to be exact. -/
def decimalNumber : String → JsNumber := readNumber (.within id)

/-! ## Query strings -/

def hexLower (n : ℕ) : Char := if n < 10 then Char.ofNat (48 + n) else Char.ofNat (87 + n)

def hexDigit (n : ℕ) : Char := if n < 10 then Char.ofNat (48 + n) else Char.ofNat (55 + n)

/-- The characters `encodeURIComponent` leaves alone. -/
def isUnescaped (c : Char) : Bool :=
  c.isAlphanum || c == '-' || c == '_' || c == '.' || c == '!' || c == '~' || c == '*' || c.toNat == 39 || c == '(' || c == ')'

def encodeURIComponent (s : String) : String :=
  String.ofList (s.toList.flatMap fun c =>
    if isUnescaped c then [c]
    else (String.utf8EncodeChar c).flatMap fun b => ['%', hexDigit (b.toNat / 16), hexDigit (b.toNat % 16)])

/-- The characters `URLSearchParams` leaves alone. -/
def isFormUnescaped (c : Char) : Bool := c.isAlphanum || c == '*' || c == '-' || c == '.' || c == '_'

/-- A value as `URLSearchParams` writes it. -/
def formEncode (s : String) : String :=
  String.ofList (s.toList.flatMap fun c =>
    if isFormUnescaped c then [c]
    else if c == ' ' then ['+']
    else (String.utf8EncodeChar c).flatMap fun b => ['%', hexDigit (b.toNat / 16), hexDigit (b.toNat % 16)])

/-- The UTF-16 code units that JavaScript compares strings by. -/
def utf16 (s : String) : List ℕ :=
  s.toList.flatMap fun c =>
    let n := c.toNat
    if n < 0x10000 then [n] else [0xD800 + (n - 0x10000) / 0x400, 0xDC00 + (n - 0x10000) % 0x400]

def leUnits : List ℕ → List ℕ → Bool
  | [], _ => true
  | _ :: _, [] => false
  | a :: as, b :: bs => a < b || (a == b && leUnits as bs)

/-- `keys.sort()` on the entries of an object. -/
def sortByKey {α : Type} (entries : List (String × α)) : List (String × α) :=
  entries.mergeSort fun a b => leUnits (utf16 a.1) (utf16 b.1)

/-- `.replace(/%20/g, '+')`. -/
def plusSpaces : List Char → List Char
  | '%' :: '2' :: '0' :: cs => '+' :: plusSpaces cs
  | c :: cs => c :: plusSpaces cs
  | [] => []

/-- A value of the signed string: encoded, a space as `+`. -/
def encodeValue (s : String) : String := String.ofList (plusSpaces (encodeURIComponent s).toList)

/-- `buildSortedQuery`: sorted keys, encoded values. -/
def buildSortedQuery (entries : List (String × String)) : String :=
  "&".intercalate ((sortByKey entries).map fun e => e.1 ++ "=" ++ encodeValue e.2)

end Balii
