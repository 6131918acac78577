import AuditAspects.Fault

/-!
# Console output

What a command says and how it ends.  Before a text reaches the console, the
sequences that control a terminal are taken out of it.  Standard output refuses a text that
it cannot encode, and standard error escapes what it cannot.
-/

namespace AuditAspects

namespace Console

/-- A character inside a terminal sequence. -/
def isSequenceChar (c : Char) : Bool := c = ';' || c = '?' || c.isDigit

/-- The character that opens a terminal sequence. -/
def escape : Char := '\x1b'

/-- The rest of a text without terminal sequences, after what may be the start of
one, held back with its last character first. -/
def dropSequencesFrom (held : List Char) : List Char → List Char
  | [] => held.reverse
  | c :: cs =>
      if held = [escape] && c = '[' then dropSequencesFrom (c :: held) cs
      else if held.length ≥ 2 && isSequenceChar c then dropSequencesFrom (c :: held) cs
      else if held.length ≥ 2 && c.isAlpha then dropSequencesFrom [] cs
      else if c = escape then held.reverse ++ dropSequencesFrom [c] cs
      else held.reverse ++ c :: dropSequencesFrom [] cs

/-- A text without terminal sequences. -/
def shown (s : String) : String :=
  String.ofList (dropSequencesFrom [] s.toList)

/-- What keeps a text from being put out. -/
def fault? (stdout : Text.Encoding) (s : String) : Option Fault :=
  Fault.ofEncoding? stdout (shown s)

@[simp] theorem fault?_lenient (s : String) : fault? .lenient s = none := by
  rw [fault?, Fault.ofEncoding?, Text.Encoding.refused?_lenient, Option.map_none]

/-- A text with escapes for its lone surrogates. -/
def escaped (s : String) : String :=
  String.ofList <| s.toList.flatMap fun c =>
    if Text.isSurrogate c then Text.codePointEscape (Text.codePoint c) else [c]

/-! ## Tests -/

example : shown "a\x1b[1;31mb\nc" = "ab\nc" := by decide +kernel
example : shown "\x1b\x1b[m\x1b[1" = "\x1b\x1b[1" := by decide +kernel

end Console

/-! ## Reports -/

/-- What a command says and how it ends. -/
structure Report where
  /-- The exit code, zero for success. -/
  exitCode : Nat := 0
  /-- What goes to standard output. -/
  out : String := ""
  /-- What goes to standard error. -/
  err : String := ""
  /-- The fault that ended the command before it could report it, if one did. -/
  escaped : Option Fault := none
deriving DecidableEq

namespace Report

/-- A report whose output is made of lines. -/
def ofLines (lines : List String) : Report where
  out := String.join (lines.map (· ++ "\n"))

/-- A report of a failure, with one line on standard error. -/
def failure (line : String) : Report where
  exitCode := 1
  err := line ++ "\n"

/-- A report of a command that a fault ended after it had said some lines. -/
def ended (lines : List String) (f : Fault) : Report :=
  { ofLines lines with exitCode := 1, escaped := some f }

/-- A report of a fault: a line on standard error, if it is of a kind that a command
reports. -/
def ofFault (f : Fault) (line : String) : Report :=
  if f.isReported then failure line else ended [] f

/-- A report as the console shows it. -/
def shown (r : Report) : Report :=
  { r with out := Console.shown r.out, err := Console.escaped (Console.shown r.err) }

end Report

end AuditAspects
