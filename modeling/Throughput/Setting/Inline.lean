import Throughput.Numeric.Scaled
import Throughput.Numeric.Word
import Throughput.Setting.Basic
import Throughput.Text.Blank
import Throughput.Text.Digits

/-!
# Inline settings

A setting in one line, as it stands in an environment variable: `true` and `false`, numbers, texts
in quotes, lists in brackets and tables in braces. Whatever is none of these is a text as it stands.
-/

namespace Throughput.Setting.Inline

def isBlank (c : Char) : Bool :=
  c = ' ' || c = '\t' || c = '\n' || c = '\x0c' || c = '\r'

def isSeparator (c : Char) : Bool :=
  c = ',' || c = '\x7b' || c = '\x7d' || c = '[' || c = ']'

def isKeyChar (c : Char) : Bool :=
  c.isAlphanum || c = '_' || c = '-'

def skipBlank (text : List Char) : List Char :=
  text.dropWhile isBlank

/-- The text in front of the closing quote, and the text behind it. Any character may be escaped. -/
def takeQuoted : List Char → Option (List Char × List Char)
  | [] => none
  | '"' :: rest => some ([], rest)
  | '\\' :: c :: rest => (takeQuoted rest).map fun (inner, after) => ('\\' :: c :: inner, after)
  | c :: rest => (takeQuoted rest).map fun (inner, after) => (c :: inner, after)

def codePoint? (digits : List Char) : Option Char :=
  match Text.number? 16 digits with
  | some n => if n.isValidChar then some (Char.ofNat n) else none
  | none => none

def escaped? (c : Char) : Option Char :=
  match c with
  | '"' => some '"'
  | '\\' => some '\\'
  | 'b' => some '\x08'
  | 'f' => some '\x0c'
  | 'n' => some '\n'
  | 'r' => some '\r'
  | 't' => some '\t'
  | _ => none

/-- Control characters other than the tab may not stand in a text. -/
def isPlain (c : Char) : Bool :=
  c = '\t' || (0x20 ≤ c.toNat && c.toNat ≠ 0x7F)

def unescape : List Char → Option (List Char)
  | [] => some []
  | '\\' :: 'u' :: a :: b :: c :: d :: rest => do
    return (← codePoint? [a, b, c, d]) :: (← unescape rest)
  | '\\' :: 'U' :: a :: b :: c :: d :: e :: f :: g :: h :: rest => do
    return (← codePoint? [a, b, c, d, e, f, g, h]) :: (← unescape rest)
  | '\\' :: c :: rest => do
    return (← escaped? c) :: (← unescape rest)
  | c :: rest => if c ≠ '\\' ∧ isPlain c then (unescape rest).map (c :: ·) else none

def quoted (text : List Char) : Option (List Char × List Char) := do
  let (inner, rest) ← takeQuoted text
  return (← unescape inner, rest)

def integer? (text : List Char) : Option Int :=
  let (negative, digits) := Text.splitSign text
  match Text.decimal? digits with
  | none => none
  | some n =>
    if negative then (if Numeric.minSigned64 ≤ -(n : Int) then some (-(n : Int)) else none)
    else if n ≤ Numeric.maxWord64 then some n
    else none

/-- The parts of a text in front of and behind the first character of a class. -/
def splitAt? (p : Char → Bool) (text : List Char) : Option (List Char × List Char) :=
  match text.dropWhile fun c => !p c with
  | [] => none
  | _ :: rest => some (text.takeWhile fun c => !p c, rest)

def isExponentMark (c : Char) : Bool :=
  c = 'e' || c = 'E'

def exponent? (text : List Char) : Option Int :=
  let (negative, digits) := Text.splitSign text
  (Text.decimal? digits).map fun n => if negative then -(n : Int) else n

/-- The digits around the point, of which there is at least one. -/
def mantissa? (text : List Char) : Option (Nat × Nat) := do
  let (whole, fraction) ← splitAt? (· = '.') text
  let n ← Text.decimal? (whole ++ fraction)
  return (n, fraction.length)

def real? (text : List Char) : Option Float := do
  let (negative, unsigned) := Text.splitSign text
  let (front, exponent) ← match splitAt? isExponentMark unsigned with
    | some (front, back) => (exponent? back).map fun e => (front, e)
    | none => some (unsigned, 0)
  let (mantissa, places) ← mantissa? front
  return Numeric.signedScaled negative mantissa (exponent - places)

/-- A word that stands without quotes. -/
def bare (word : List Char) : Setting :=
  match real? word, integer? word with
  | some x, _ => .real x
  | none, some n => .integer n
  | none, none => .text (String.ofList word)

def key (text : List Char) : Option (String × List Char) :=
  match text with
  | '"' :: rest => (quoted rest).map fun (name, after) => (String.ofList name, after)
  | _ =>
    match text.takeWhile isKeyChar with
    | [] => none
    | name => some (String.ofList name, text.dropWhile isKeyChar)

mutual

/-- Reads a value with the blanks around it. The fuel bounds how often a value is begun. -/
def value (fuel : Nat) (text : List Char) : Option (Setting × List Char) :=
  match fuel with
  | 0 => none
  | fuel + 1 => do
    let (setting, rest) ← match skipBlank text with
      | 't' :: 'r' :: 'u' :: 'e' :: rest => some (.flag true, rest)
      | 'f' :: 'a' :: 'l' :: 's' :: 'e' :: rest => some (.flag false, rest)
      | '\x7b' :: rest => (entries fuel [] rest).map fun (es, after) => (.table es, after)
      | '[' :: rest => (items fuel [] rest).map fun (xs, after) => (.list xs, after)
      | '"' :: rest =>
        (quoted rest).map fun (inner, after) => (.text (String.ofList inner), after)
      | '\'' :: c :: '\'' :: rest => some (.text (String.singleton c), rest)
      | '\'' :: _ => none
      | start =>
        let word := start.takeWhile fun c => !isSeparator c
        some (bare (Text.trim word), start.dropWhile fun c => !isSeparator c)
    return (setting, skipBlank rest)

def items (fuel : Nat) (read : List Setting) (text : List Char) :
    Option (List Setting × List Char) :=
  match fuel, text with
  | 0, _ => none
  | _, ']' :: rest => some (read, rest)
  | fuel + 1, _ => do
    let (item, rest) ← value fuel text
    match rest with
    | ',' :: after => items fuel (read ++ [item]) after
    | ']' :: after => some (read ++ [item], after)
    | _ => none

/-- Reads behind the opening brace. A comma may follow the last entry, and the last of two entries
with one key counts. -/
def entries (fuel : Nat) (read : Entries) (text : List Char) : Option (Entries × List Char) :=
  match fuel, text with
  | 0, _ => none
  | _, '\x7d' :: rest => some (read, rest)
  | fuel + 1, _ => do
    let (name, afterKey) ← key (skipBlank text)
    match skipBlank afterKey with
    | '=' :: start =>
      let (setting, rest) ← value fuel start
      match rest with
      | ',' :: after => entries fuel (put read name setting) after
      | '\x7d' :: after => some (put read name setting, after)
      | _ => none
    | _ => none

end

/-- The setting that a text stands for. Each step into a value takes at least one character, or
comes to its end. -/
def parse (text : String) : Setting :=
  let chars := text.toList
  match value (2 * chars.length + 2) chars with
  | some (setting, []) => setting
  | _ => .text text

end Throughput.Setting.Inline
