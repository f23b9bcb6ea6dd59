import Admission.Reader

/-! # The parts of TOML documents

Gaps, line ends and comments, and the texts and keys between them.
-/

namespace Admission.Toml

/-! ## Layout

What stands between the parts of a document: gaps on one line, line ends and
comments. Inside an array all three may mix.
-/

open Reader

/-- The characters of a gap. -/
def isGap (c : Char) : Bool :=
  c = ' ' || c = '\t'

/-- The characters that may stand on a line: all but the controls, of which the tab
is allowed. -/
def isPlain (c : Char) : Bool :=
  c = '\t' || (' ' ≤ c && c ≠ '\x7F')

/-- Spaces and tabs, if any. -/
def gap : Reader Unit := do
  let _ ← span isGap

def lineEnd : Reader Unit :=
  char '\n' <|> chars ['\r', '\n']

/-- A comment up to the end of its line. -/
def comment : Reader Unit := do
  char '#'
  let _ ← span isPlain

/-- Gaps, line ends and comments that end with their line. -/
def padding : Reader Unit := do
  let _ ← many do
    (do let _ ← span1 isGap) <|> lineEnd <|> do
      comment
      lineEnd

/-! ## Texts and keys

A text stands in quotes, single or double, on one line or between three quotes on
several. Double quotes allow escapes; single quotes take everything as it is. A
key is a bare word or a text on one line, and dots join keys to paths.
-/

/-- A character by its code point in exactly `count` hexadecimal digits. -/
def codePoint (count : Nat) : Reader Char := do
  let point := numberOf 16 (← exactly (isDigitOf 16) count)
  if point.isValidChar then pure (Char.ofNat point) else fail

/-- What follows a backslash, and the character it stands for. -/
def escaped : Reader Char := do
  match ← satisfying fun _ => true with
  | 'b' => pure '\x08'
  | 't' => pure '\t'
  | 'n' => pure '\n'
  | 'f' => pure '\x0C'
  | 'r' => pure '\r'
  | '"' => pure '"'
  | '\\' => pure '\\'
  | 'u' => codePoint 4
  | 'U' => codePoint 8
  | _ => fail

/-- A backslash and what follows it. -/
def escape : Reader Char := do
  char '\\'
  escaped

/-- The characters that stand for themselves between double quotes. -/
def isBasic (c : Char) : Bool :=
  isPlain c && c ≠ '"' && c ≠ '\\'

/-- The characters between single quotes. -/
def isLiteral (c : Char) : Bool :=
  isPlain c && c ≠ '\''

def basic : Reader String := do
  char '"'
  let found ← many (satisfying isBasic <|> escape)
  char '"'
  pure (String.ofList found)

def literal : Reader String := do
  char '\''
  let found ← span isLiteral
  char '\''
  pure (String.ofList found)

/-- One or two quotes inside a text of several lines. -/
def innerQuotes (quote : Char) : Reader (List Char) := do
  let run ← span1 (· = quote)
  if run.length ≤ 2 then pure run else fail

/-- The three quotes that end a text of several lines, with up to two more in front
of them that belong to the text. -/
def closingQuotes (quote : Char) : Reader (List Char) := do
  let run ← span1 (· = quote)
  if 3 ≤ run.length ∧ run.length ≤ 5 then pure (run.drop 3) else fail

/-- The end of a line inside a text: a line feed, however it was written. -/
def lineFeed : Reader (List Char) := do
  lineEnd
  pure ['\n']

/-- A backslash at the end of a line, which joins the next text to this one. -/
def fold : Reader (List Char) := do
  char '\\'
  gap
  lineEnd
  let _ ← many ((do let _ ← span1 isGap) <|> lineEnd)
  pure []

/-- A text between three quotes and three quotes. A line end right at its start is
left out. -/
def block (quote : Char) (piece : Reader (List Char)) : Reader String := do
  chars [quote, quote, quote]
  let _ ← perhaps lineEnd
  let pieces ← many (piece <|> innerQuotes quote)
  let last ← closingQuotes quote
  pure (String.ofList (pieces.flatten ++ last))

/-- A text of several lines with escapes. -/
def basicBlock : Reader String :=
  block '"' (span1 isBasic <|> fold <|> (do return [← escape]) <|> lineFeed)

/-- A text of several lines without escapes. -/
def literalBlock : Reader String :=
  block '\'' (span1 isLiteral <|> lineFeed)

def text : Reader String :=
  basicBlock <|> literalBlock <|> basic <|> literal

/-- The characters of a bare key. -/
def isBare (c : Char) : Bool :=
  c.isAlphanum || c = '_' || c = '-'

def key : Reader String :=
  (do return String.ofList (← span1 isBare)) <|> basic <|> literal

/-- How many keys a path may have, and how deep values may lie in each other. -/
def depthLimit : Nat := 80

/-- Keys joined by dots, with gaps around them. -/
def path : Reader (List String) := do
  let keys ← separated1 (char '.') do
    gap
    let found ← key
    gap
    pure found
  if keys.length < depthLimit then pure keys else fail

end Admission.Toml
