import InputActions.Text.Quoted
import InputActions.Yaml.Basic

/-!
# YAML text

Collections are written in block form: an entry of a mapping on a line of its own, nested mappings
indented by two columns, and the items of a sequence under the key they belong to. A scalar that is
no string is written as it is.

A string is written plainly if a reader would take it for that string again. One that stands for
something else when it is not quoted (nothing, a truth value, a number, or one of the old words for
yes and no) gets single quotes, and so does one with an indicator where a plain scalar may not have
it. Several lines make a literal block. A string with a character that is not printable is written
between double quotes with escapes.
-/

namespace InputActions.Yaml

namespace Writer

abbrev Line := List Char

/-- Words that used to be truth values. -/
def oldTruthWords : List String :=
  ["y", "Y", "yes", "Yes", "YES", "n", "N", "no", "No", "NO", "on", "On", "ON", "off", "Off",
    "OFF"]

def isDigit (c : Char) : Bool := (Text.Integer.digit? c).isSome

/-- Digits with at most one point among them, and at least one digit. -/
def isFraction (text : List Char) : Bool :=
  let fraction := text.dropWhile isDigit
  match fraction with
  | [] => !text.isEmpty
  | '.' :: digits => digits.all isDigit && text.any isDigit
  | _ => false

/-- An exponent: an optional sign and digits. -/
def isExponent (text : List Char) : Bool :=
  let digits := if text.head?.any isSign then text.drop 1 else text
  !digits.isEmpty && digits.all isDigit

/-- Whether a plain scalar is a number with a point or an exponent, or a value beyond numbers. -/
def isFloatText (text : List Char) : Bool :=
  let magnitude := if text.head?.any isSign then text.drop 1 else text
  let mantissa := magnitude.takeWhile fun c => c != 'e' && c != 'E'
  let scaled := magnitude.drop mantissa.length
  [".inf", ".Inf", ".INF"].contains (String.ofList magnitude)
    || [".nan", ".NaN", ".NAN"].contains (String.ofList text)
    || (isFraction mantissa && (scaled.isEmpty || isExponent (scaled.drop 1)))

/-- Whether a plain scalar with this text would not be read as a string, or not by every reader. -/
def isAmbiguous (text : List Char) : Bool :=
  isNullText text || (boolOfText? text).isSome || (intOfText? text).isSome || isFloatText text
    || isPadded (if text.head?.any isSign then text.drop 1 else text)
    || oldTruthWords.contains (String.ofList text)

/-- Whether a character can stand in a plain, single-quoted or literal scalar. -/
def isPrintable (c : Char) : Bool :=
  let n := c.toNat
  n == 0xA || (0x20 ≤ n && n ≤ 0x7E) || (0xA0 ≤ n && n ≤ 0xFFFD && n != 0xFEFF)

/-- The characters that end a line. -/
def isLineEnd (c : Char) : Bool :=
  ['\n', '\r', '\u0085', '\u2028', '\u2029'].contains c

def isBlankOrEnd : Option Char → Bool
  | none => true
  | some c => c == ' ' || c == '\t' || isLineEnd c

/-- Whether the beginning of a text has a meaning of its own. -/
def beginsMarked (text : List Char) : Bool :=
  match text with
  | [] => false
  | c :: rest =>
    ['#', ',', '[', ']', '\x7b', '\x7d', '&', '*', '!', '|', '>', '\'', '"', '%', '@',
        '\x60'].contains c
      || (['?', ':', '-'].contains c && isBlankOrEnd rest.head?)
      || ["---".toList, "...".toList].contains (text.take 3)

/-- Whether a colon before a blank or a number sign after one stands in the text. -/
def hasMark : List Char → Bool
  | [] => false
  | ':' :: rest => isBlankOrEnd rest.head? || hasMark rest
  | c :: '#' :: rest => isBlankOrEnd (some c) || hasMark ('#' :: rest)
  | _ :: rest => hasMark rest

/-- Whether a blank stands next to a line end, before it or after it. -/
def hasBlankAtLine : List Char → Bool
  | [] => false
  | [_] => false
  | c :: d :: rest => (c == ' ' && isLineEnd d) || hasBlankAtLine (d :: rest)

def touchesBlank (c : Option Char) : Bool := c.any fun c => c == ' ' || isLineEnd c

def isPlainText (text : List Char) : Bool :=
  !(beginsMarked text || hasMark text || touchesBlank text.head? || touchesBlank text.getLast?
    || text.any isLineEnd || !text.all isPrintable)

/-- The upper-case hexadecimal digits of a number, at least `width` of them. -/
def hexDigits (width n : Nat) : List Char :=
  let digits := (Nat.toDigits 16 n).map Char.toUpper
  List.replicate (width - digits.length) '0' ++ digits

def escapedChar (c : Char) : List Char :=
  match c with
  | '"' => ['\\', '"']
  | '\\' => ['\\', '\\']
  | '\x00' => ['\\', '0']
  | '\x07' => ['\\', 'a']
  | '\x08' => ['\\', 'b']
  | '\t' => ['\\', 't']
  | '\n' => ['\\', 'n']
  | '\x0b' => ['\\', 'v']
  | '\x0c' => ['\\', 'f']
  | '\r' => ['\\', 'r']
  | '\x1b' => ['\\', 'e']
  | '\u0085' => ['\\', 'N']
  | '\u2028' => ['\\', 'L']
  | '\u2029' => ['\\', 'P']
  | c =>
    if isPrintable c then [c]
    else if c.toNat ≤ 0xFF then ['\\', 'x'] ++ hexDigits 2 c.toNat
    else if c.toNat ≤ 0xFFFF then ['\\', 'u'] ++ hexDigits 4 c.toNat
    else ['\\', 'U'] ++ hexDigits 8 c.toNat

def doubleQuotedText (text : List Char) : Line := '"' :: (text.flatMap escapedChar ++ ['"'])

def singleQuotedText (text : List Char) : Line :=
  '\'' :: (text.flatMap (fun c => if c = '\'' then ['\'', '\''] else [c]) ++ ['\''])

/-- The lines of a text, without their ends. -/
def splitLines : List Char → List Line
  | [] => [[]]
  | c :: text =>
    if c = '\n' then [] :: splitLines text
    else
      match splitLines text with
      | [] => [[c]]
      | line :: lines => (c :: line) :: lines

/-- A block of lines as they are; its first line says how they are indented and what is kept of
the line ends at the end. -/
def literalLines (text : List Char) : List Line :=
  let indentation := if touchesBlank text.head? then ['2'] else []
  let ending :=
    if text.getLast? != some '\n' then ['-']
    else if text.length == 1 || text.dropLast.getLast? == some '\n' then ['+']
    else []
  let lines := splitLines text
  ('|' :: (indentation ++ ending)) ::
    if text.getLast? == some '\n' then lines.dropLast else lines

/-- The lines of a string. -/
def stringLines (text : List Char) : List Line :=
  let special := !text.all isPrintable || hasBlankAtLine text
  if text.contains '\n' then
    if special || text.getLast? == some ' ' then [doubleQuotedText text] else literalLines text
  else if isAmbiguous text then [singleQuotedText text]
  else if isPlainText text then [text]
  else if special then [doubleQuotedText text]
  else [singleQuotedText text]

/-- A line two columns further to the right, unless there is nothing on it. -/
def indented (line : Line) : Line := if line.isEmpty then [] else ' ' :: ' ' :: line

/-- The lines of an item after its mark. -/
def itemOf (lines : List Line) : List Line :=
  match lines with
  | [] => []
  | line :: lines => ('-' :: ' ' :: line) :: lines.map indented

/-- The lines of an entry. -/
def entryOf (key : Line) (value : Yaml) (lines : List Line) : List Line :=
  match value, lines with
  | .mapping (_ :: _), lines => (key ++ [':']) :: lines.map indented
  | .sequence (_ :: _), lines => (key ++ [':']) :: lines
  | _, [] => []
  | _, line :: lines => (key ++ ':' :: ' ' :: line) :: lines.map indented

mutual

def lines : Yaml → List Line
  | .scalar quoted text => if quoted then stringLines text else [text]
  | .sequence [] => ["[]".toList]
  | .sequence items => itemLines items
  | .mapping [] => ["\x7b\x7d".toList]
  | .mapping entries => entryLines entries

def itemLines : List Yaml → List Line
  | [] => []
  | item :: items => itemOf (lines item) ++ itemLines items

def entryLines : List (Yaml × Yaml) → List Line
  | [] => []
  | (key, value) :: entries =>
    entryOf ((lines key).head?.getD []) value (lines value) ++ entryLines entries

end

end Writer

/-- The text of a document. -/
def text (value : Yaml) : String :=
  String.ofList ((Writer.lines value).flatMap (· ++ ['\n']))

/-- A string. -/
def ofString (text : String) : Yaml := .scalar true text.toList

/-- A scalar that is written as it is: a number or a truth value. -/
def ofWord (text : String) : Yaml := .scalar false text.toList

/-- A mapping from names. -/
def ofMembers (members : List (String × Yaml)) : Yaml :=
  .mapping (members.map fun member => (ofString member.1, member.2))

end InputActions.Yaml
