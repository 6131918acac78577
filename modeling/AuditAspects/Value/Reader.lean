import AuditAspects.Entries
import AuditAspects.Value

/-!
# Reading values

Dynamic values are written in JSON.  A number with a point or an exponent is a real
number, any other is whole, and the entries of a dictionary keep their order.  The
numbers that no digits spell have names: `Infinity`, `-Infinity` and `NaN`.  Each
reader takes a value off the front of a text and gives what follows it.
-/

namespace AuditAspects.Value

/-! ## Characters and texts -/

/-- The text without blanks in front. -/
def skipBlanks (cs : List Char) : List Char :=
  cs.dropWhile fun c => c = ' ' || c = '\t' || c = '\n' || c = '\r'

/-- The value of a hexadecimal digit. -/
def hexValue? (c : Char) : Option Nat :=
  if '0' ≤ c && c ≤ '9' then some (c.toNat - '0'.toNat)
  else if 'a' ≤ c && c ≤ 'f' then some (c.toNat - 'a'.toNat + 10)
  else if 'A' ≤ c && c ≤ 'F' then some (c.toNat - 'A'.toNat + 10)
  else none

/-- The number of some hexadecimal digits. -/
def hexNumber? (cs : List Char) : Option Nat :=
  cs.foldlM (fun n c => (hexValue? c).map fun d => n * 16 + d) 0

/-- The character of a one-letter escape. -/
def shortEscape? : Char → Option Char
  | '"' => some '"'
  | '\\' => some '\\'
  | '/' => some '/'
  | 'b' => some '\x08'
  | 'f' => some '\x0c'
  | 'n' => some '\n'
  | 'r' => some '\r'
  | 't' => some '\t'
  | _ => none

/-- The code points of a text up to its closing quote. -/
def readUnits : List Char → Option (List Nat × List Char)
  | [] => none
  | '"' :: cs => some ([], cs)
  | '\\' :: 'u' :: a :: b :: c :: d :: cs => do
      let n ← hexNumber? [a, b, c, d]
      let (ns, rest) ← readUnits cs
      return (n :: ns, rest)
  | '\\' :: c :: cs => do
      let e ← shortEscape? c
      let (ns, rest) ← readUnits cs
      return (e.toNat :: ns, rest)
  | c :: cs => do
      let (ns, rest) ← readUnits cs
      return (c.toNat :: ns, rest)

/-- The characters of code points, with each pair of surrogates as one. -/
def joinPairs : List Nat → List Char
  | [] => []
  | [n] => [Text.ofCodePoint n]
  | n :: m :: ns =>
      if 0xD800 ≤ n && n < 0xDC00 && 0xDC00 ≤ m && m < 0xE000 then
        Char.ofNat (0x10000 + (n - 0xD800) * 0x400 + (m - 0xDC00)) :: joinPairs ns
      else Text.ofCodePoint n :: joinPairs (m :: ns)

/-- The text after an opening quote. -/
def readText (cs : List Char) : Option (String × List Char) :=
  (readUnits cs).map fun (ns, rest) => (String.ofList (joinPairs ns), rest)

/-! ## Numbers -/

/-- The number of some digits. -/
def digitsNumber (cs : List Char) : Nat :=
  cs.foldl (fun n c => n * 10 + (c.toNat - '0'.toNat)) 0

/-- The number of some digits that may have a sign. -/
def signedNumber : List Char → Int
  | '-' :: cs => -digitsNumber cs
  | '+' :: cs => digitsNumber cs
  | cs => digitsNumber cs

/-- The number that some characters spell. -/
def numberOf (cs : List Char) : Value :=
  let mantissa := cs.takeWhile fun c => c ≠ 'e' && c ≠ 'E'
  let exponent := cs.drop (mantissa.length + 1)
  let whole := mantissa.takeWhile (· ≠ '.')
  let fraction := mantissa.drop (whole.length + 1)
  if mantissa.length = cs.length && whole.length = cs.length then int (signedNumber cs)
  else
    let unsigned := whole.filter Char.isDigit
    real <| RealNumber.ofDecimal
      ⟨whole.head? = some '-', digitsNumber (unsigned ++ fraction),
        signedNumber exponent - fraction.length⟩

/-- A character inside a number. -/
def isNumberChar (c : Char) : Bool :=
  c.isDigit || c = '-' || c = '+' || c = '.' || c = 'e' || c = 'E'

/-- The number in front of a text. -/
def readNumber (cs : List Char) : Option (Value × List Char) :=
  let number := cs.takeWhile isNumberChar
  if number.any Char.isDigit then some (numberOf number, cs.drop number.length) else none

/-- The name of what is beyond all sizes. -/
def infinityName : List Char := "Infinity".toList

/-- The infinite number in front of a text. -/
def readInfinite (cs : List Char) : Option (Value × List Char) :=
  let unsigned := if cs.head? = some '-' then cs.drop 1 else cs
  if infinityName.isPrefixOf unsigned then
    some (real (.infinite (cs.head? = some '-')), unsigned.drop infinityName.length)
  else none

/-! ## Values -/

mutual

/-- The value in front of a text. -/
def readValue : (fuel : Nat) → List Char → Option (Value × List Char)
  | 0, _ => none
  | fuel + 1, cs =>
      match skipBlanks cs with
      | 'n' :: 'u' :: 'l' :: 'l' :: rest => some (null, rest)
      | 't' :: 'r' :: 'u' :: 'e' :: rest => some (bool true, rest)
      | 'f' :: 'a' :: 'l' :: 's' :: 'e' :: rest => some (bool false, rest)
      | 'N' :: 'a' :: 'N' :: rest => some (real .undefined, rest)
      | '"' :: rest => (readText rest).map fun (s, rest) => (text s, rest)
      | '[' :: rest =>
          match skipBlanks rest with
          | ']' :: rest => some (list [], rest)
          | _ => (readItems fuel rest).map fun (xs, rest) => (list xs, rest)
      | '\x7b' :: rest =>
          match skipBlanks rest with
          | '\x7d' :: rest => some (object [], rest)
          | _ => (readFields fuel rest []).map fun (es, rest) => (object es, rest)
      | cs => readInfinite cs <|> readNumber cs

/-- The items of a list up to its closing bracket. -/
def readItems : (fuel : Nat) → List Char → Option (List Value × List Char)
  | 0, _ => none
  | fuel + 1, cs =>
      match readValue fuel cs with
      | none => none
      | some (x, rest) =>
          match skipBlanks rest with
          | ']' :: rest => some ([x], rest)
          | ',' :: rest => (readItems fuel rest).map fun (xs, rest) => (x :: xs, rest)
          | _ => none

/-- The entries of a dictionary up to its closing brace, put to those before. -/
def readFields : (fuel : Nat) → List Char → List (String × Value) →
    Option (List (String × Value) × List Char)
  | 0, _, _ => none
  | fuel + 1, cs, es =>
      match skipBlanks cs with
      | '"' :: rest =>
          match readText rest with
          | none => none
          | some (k, rest) =>
              match skipBlanks rest with
              | ':' :: rest =>
                  match readValue fuel rest with
                  | none => none
                  | some (v, rest) =>
                      match skipBlanks rest with
                      | '\x7d' :: rest => some (Entries.put k v es, rest)
                      | ',' :: rest => readFields fuel rest (Entries.put k v es)
                      | _ => none
              | _ => none
      | _ => none

end

/-- The value that a text writes. -/
def read? (s : String) : Option Value :=
  let cs := s.toList
  match readValue (2 * cs.length + 1) cs with
  | some (v, rest) => if (skipBlanks rest).isEmpty then some v else none
  | none => none

/-- The value of a name in a dictionary. -/
def field? (name : String) : Value → Option Value
  | object es => es.lookup name
  | _ => none

/-! ## Tests -/

example : (read? "[1, -2.50, \"a\\u00e9\\n\"]").map quoted = some "[1, -2.5, 'aé\\n']" := by
  decide +kernel
example : (read? "\x7b\"b\": null, \"a\": \x7b\x7d\x7d").map quoted
    = some "\x7b'b': None, 'a': \x7b\x7d\x7d" := by
  decide +kernel
example : (read? "1e16").map quoted = some "1e+16" := by decide +kernel
example : (read? "[-Infinity, NaN, 1e400]").map quoted = some "[-inf, nan, inf]" := by
  decide +kernel
example : (read? "\"\\ud800\"").map quoted = some "'\\ud800'" := by decide +kernel
example : (read? "[1,").isNone = true := by decide +kernel

end AuditAspects.Value
