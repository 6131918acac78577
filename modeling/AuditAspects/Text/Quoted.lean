import AuditAspects.Text.Encoding
import AuditAspects.Text.Printable

/-!
# Quoted text

A text between quotes, as fault messages show it.  Single quotes are used
unless the text holds one and no double quote.  The chosen quote and the
backslash are escaped, tab and line ends have short escapes, and every other
unprintable character is written by its code point.
-/

namespace AuditAspects.Text

/-- The hexadecimal digit of a number below sixteen. -/
def hexDigit (n : Nat) : Char :=
  if n < 10 then Char.ofNat ('0'.toNat + n) else Char.ofNat ('a'.toNat + (n - 10))

/-- The last `width` hexadecimal digits of a number. -/
def hexDigits : (width n : Nat) → List Char
  | 0, _ => []
  | width + 1, n => hexDigits width (n / 16) ++ [hexDigit (n % 16)]

/-- The escape of a code point: two, four or eight digits, as few as hold it. -/
def codePointEscape (n : Nat) : List Char :=
  if n ≤ 0xFF then '\\' :: 'x' :: hexDigits 2 n
  else if n ≤ 0xFFFF then '\\' :: 'u' :: hexDigits 4 n
  else '\\' :: 'U' :: hexDigits 8 n

/-- A character inside quotes. -/
def quotedChar (quote c : Char) : List Char :=
  if c = quote || c = '\\' then ['\\', c]
  else if c = '\t' then ['\\', 't']
  else if c = '\n' then ['\\', 'n']
  else if c = '\r' then ['\\', 'r']
  else if isPrintable c then [c]
  else codePointEscape (codePoint c)

/-- The quote that a text is put between. -/
def quoteFor (s : String) : Char :=
  if s.toList.contains '\'' && !s.toList.contains '"' then '"' else '\''

/-- A text between quotes. -/
def quoted (s : String) : String :=
  let q := quoteFor s
  String.ofList (q :: s.toList.flatMap (quotedChar q) ++ [q])

/-! ## Tests -/

example : quoted "a" = "'a'" := by decide
example : quoted "it's" = "\"it's\"" := by decide
example : quoted "'\"" = "'\\'\"'" := by decide
example : quoted "\\\n\x01" = "'\\\\\\n\\x01'" := by decide
example : codePointEscape 0x2028 = "\\u2028".toList := by decide
example : quoted (String.singleton (ofCodePoint 0xD800)) = "'\\ud800'" := by decide +kernel
example : codePointEscape 0xE0001 = "\\U000e0001".toList := by decide

end AuditAspects.Text
