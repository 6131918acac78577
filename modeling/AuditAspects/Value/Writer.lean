import AuditAspects.Value

/-!
# Writing values

The JSON text of a dynamic value.  Characters outside of ASCII are written by their
code points, as a pair of surrogates where one is not enough, so the text is safe in
any encoding.
-/

namespace AuditAspects.Value

/-- The escape of a code point below `0x10000`. -/
def unitEscape (n : Nat) : List Char :=
  '\\' :: 'u' :: Text.hexDigits 4 n

/-- A character inside a JSON text. -/
def jsonChar (c : Char) : List Char :=
  let n := Text.codePoint c
  if c = '"' || c = '\\' then ['\\', c]
  else if 0x20 ≤ n && n < 0x7F then [c]
  else if n < 0x10000 then unitEscape n
  else unitEscape (0xD800 + (n - 0x10000) / 0x400) ++ unitEscape (0xDC00 + (n - 0x10000) % 0x400)

/-- A JSON text. -/
def jsonText (s : String) : String :=
  String.ofList ('"' :: s.toList.flatMap jsonChar ++ ['"'])

/-- The JSON text of a real number. -/
def jsonNumber : RealNumber → String
  | .finite d => d.text
  | .infinite false => "Infinity"
  | .infinite true => "-Infinity"
  | .undefined => "NaN"

mutual

/-- The JSON text of a value; what is no data is written as absent. -/
def json : Value → String
  | null => "null"
  | bool true => "true"
  | bool false => "false"
  | int i => toString i
  | real r => jsonNumber r
  | text s => jsonText s
  | list xs => "[" ++ ",".intercalate (jsonItems xs) ++ "]"
  | object es => "\x7b" ++ ",".intercalate (jsonFields es) ++ "\x7d"
  | path _ => "null"
  | other _ _ => "null"

/-- The JSON texts of the items of a list. -/
def jsonItems : List Value → List String
  | [] => []
  | x :: xs => json x :: jsonItems xs

/-- The JSON texts of the entries of a dictionary. -/
def jsonFields : List (String × Value) → List String
  | [] => []
  | (k, v) :: es => (jsonText k ++ ":" ++ json v) :: jsonFields es

end

/-! ## Tests -/

example : (list [text "a\"é\n", int (-3), null]).json = "[\"a\\\"\\u00e9\\u000a\",-3,null]" := by
  decide +kernel
example : (text (String.singleton (Char.ofNat 0x1F600))).json = "\"\\ud83d\\ude00\"" := by
  decide +kernel

end AuditAspects.Value
