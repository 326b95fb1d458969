import Throughput.Json.Fault
import Throughput.Text.Digits

/-!
# Quoted texts

A text in quotes is read in two steps. The first finds its end and takes the escapes apart; that is
enough to skip it. The second joins pairs of surrogates, and only then are single ones refused.
-/

namespace Throughput.Json.Quoted

/-- A character as it stands, or a UTF-16 unit that was written as its number. -/
inductive Piece where
  | plain (c : Char)
  | unit (n : Nat)
  deriving DecidableEq, Repr

/-- The pieces of a text up to its closing quote, and what follows, or why there is no quote. -/
abbrev Scan := List Piece × Outcome (List Char)

def Scan.cons (piece : Piece) (scan : Scan) : Scan :=
  (piece :: scan.1, scan.2)

def escaped? (c : Char) : Option Char :=
  match c with
  | '"' => some '"'
  | '\\' => some '\\'
  | '/' => some '/'
  | 'b' => some '\x08'
  | 'f' => some '\x0c'
  | 'n' => some '\n'
  | 'r' => some '\r'
  | 't' => some '\t'
  | _ => none

/-- Why four hexadecimal digits cannot be read: the text ends too soon, or they are none. -/
def hexFault (text : List Char) : Fault :=
  if (String.ofList text).utf8ByteSize < 4 then .truncated else .malformed

def isControl (c : Char) : Bool :=
  c.toNat < 0x20

def scan : List Char → Scan
  | [] => ([], .error .truncated)
  | '"' :: rest => ([], .ok rest)
  | ['\\'] => ([], .error .truncated)
  | '\\' :: 'u' :: rest =>
    match rest with
    | a :: b :: c :: d :: after =>
      if [a, b, c, d].all Text.isHexDigit then
        (scan after).cons (.unit (Text.ofDigits 16 [a, b, c, d]))
      else
        ([], .error (hexFault rest))
    | _ => ([], .error (hexFault rest))
  | '\\' :: c :: rest =>
    match escaped? c with
    | some plain => (scan rest).cons (.plain plain)
    | none => ([], .error .malformed)
  | c :: rest => if isControl c then ([], .error .malformed) else (scan rest).cons (.plain c)

theorem length_lt_of_scan {text rest : List Char} (h : (scan text).2 = .ok rest) :
    rest.length < text.length := by
  fun_induction scan text with
  | case1 | case3 | case5 | case6 | case8 | case9 => simp at h
  | case2 => simp_all
  | case4 | case7 | case10 =>
    simp only [Scan.cons] at h
    simp only [List.length_cons]
    grind

def isHighSurrogate (n : Nat) : Bool :=
  0xD800 ≤ n && n ≤ 0xDBFF

def isLowSurrogate (n : Nat) : Bool :=
  0xDC00 ≤ n && n ≤ 0xDFFF

def joinSurrogates (high low : Nat) : Char :=
  Char.ofNat (0x10000 + (high - 0xD800) * 0x400 + (low - 0xDC00))

/-- The characters of a text whose pieces end for the given reason. -/
def join (ending : Outcome Unit) : List Piece → Outcome (List Char)
  | [] => ending.map fun _ => []
  | .plain c :: rest => (join ending rest).map (c :: ·)
  | .unit n :: rest =>
    if isHighSurrogate n then
      match rest with
      | .unit low :: after =>
        if isLowSurrogate low then (join ending after).map (joinSurrogates n low :: ·)
        else .error .malformed
      | .plain _ :: _ => .error .malformed
      | [] => ending.bind fun _ => .error .malformed
    else if isLowSurrogate n then
      .error .malformed
    else
      (join ending rest).map (Char.ofNat n :: ·)

def encodeChar (c : Char) : List Char :=
  match c with
  | '"' => "\\\"".toList
  | '\\' => "\\\\".toList
  | '\x08' => "\\b".toList
  | '\x0c' => "\\f".toList
  | '\n' => "\\n".toList
  | '\r' => "\\r".toList
  | '\t' => "\\t".toList
  | c => if isControl c then "\\u00".toList ++ hexByte c.toNat else [c]
where
  hexByte (n : Nat) : List Char :=
    [Nat.digitChar (n / 16), Nat.digitChar (n % 16)]

def encode (text : List Char) : List Char :=
  '"' :: text.flatMap encodeChar ++ ['"']

end Throughput.Json.Quoted
