import Throughput.Url.Percent

/-!
# Paths

The path of a web address, with its dot segments resolved and its special characters encoded.
-/

namespace Throughput.Url

/-- Control characters and all that is not ASCII. -/
def isControl (c : Char) : Bool :=
  c.toNat < 0x20 || 0x7E < c.toNat

def isEscapedInPath (c : Char) : Bool :=
  isControl c || " \"#<>?`\x7b\x7d".toList.contains c

def isEscapedInQuery (c : Char) : Bool :=
  isControl c || " \"#<>'".toList.contains c

def isSlash (c : Char) : Bool :=
  c = '/' || c = '\\'

namespace Path

/-- The parts between slashes of either kind. -/
def split : List Char → List (List Char)
  | [] => [[]]
  | c :: rest =>
    if isSlash c then
      [] :: split rest
    else
      match split rest with
      | [] => [[c]]
      | segment :: segments => (c :: segment) :: segments

/-- A segment with its encoded dots written out, in lower case. -/
def plainDots : List Char → List Char
  | '%' :: '2' :: 'e' :: rest | '%' :: '2' :: 'E' :: rest => '.' :: plainDots rest
  | c :: rest => c :: plainDots rest
  | [] => []

def isHere (segment : List Char) : Bool :=
  plainDots segment = ['.']

def isUp (segment : List Char) : Bool :=
  plainDots segment = ['.', '.']

def isDrive : List Char → Bool
  | [letter, mark] => letter.isAlpha && (mark = ':' || mark = '|')
  | _ => false

/-- The path one step up, last segment first. A drive letter is never left. -/
def up : List (List Char) → List (List Char)
  | [] => []
  | last :: before => if isDrive last then last :: before else before

/-- Resolves dot segments. `done` are the segments so far, last one first. -/
def resolve (done : List (List Char)) : List (List Char) → List (List Char)
  | [] => done.reverse
  | [last] =>
    let final :=
      if isUp last then [] :: up done else if isHere last then [] :: done else last :: done
    final.reverse
  | segment :: rest =>
    if isUp segment then resolve (up done) rest
    else if isHere segment then resolve done rest
    else resolve (segment :: done) rest

def text (segments : List (List Char)) : List Char :=
  segments.flatMap fun segment => '/' :: segment

def parse (source : List Char) : List Char :=
  let inner := match source with
    | c :: rest => if isSlash c then rest else c :: rest
    | [] => []
  text (resolve [] ((split inner).map (percentEncode isEscapedInPath)))

end Path

end Throughput.Url
