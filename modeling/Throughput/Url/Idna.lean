import Throughput.Unicode.Bidi
import Throughput.Unicode.Joining
import Throughput.Unicode.Mapping
import Throughput.Unicode.Mark
import Throughput.Url.Punycode

/-!
# Internationalized host names

The ASCII form of a host name. The name is mapped, brought into composed form and split into labels;
a label that is already encoded has to decode to one that could have been written directly. Every
label is checked, and the ones that are not ASCII are encoded.
-/

namespace Throughput.Url.Idna

open Unicode

def encodedMark : List Char := "xn--".toList

def maxEncodedLength : Nat := 2000

def maxPlainLength : Nat := 1000

def isAscii (c : Char) : Bool :=
  c.toNat < 128

/-- ASCII characters that no host name may hold. -/
def isForbidden (c : Char) : Bool :=
  c.toNat ≤ 0x20 || c.toNat = 0x7F || "%#/:<>?@[\\]^|".toList.contains c

/-- The label that an encoded one stands for. It holds a character that is not ASCII, and reading it
as a host name would leave it as it is. -/
def decodeLabel? (encoded : List Char) : Option (List Char) :=
  if encoded.getLast? = some '-' ∨ maxEncodedLength < encoded.length then
    none
  else
    match Punycode.decode? encoded with
    | none => none
    | some label =>
      if label.any (fun c => !isAscii c) && label.all isValid && normalize label = label then
        some label
      else
        none

def plainLabel? (label : List Char) : Option (List Char) :=
  if encodedMark.isPrefixOf label then decodeLabel? (label.drop encodedMark.length) else some label

def isWellFormed (label : List Char) : Bool :=
  !(label.head?.any isMark) && keepsJoiners [] label && label.all fun c => !isForbidden c

/-- In a name of mixed direction every label has to keep to one direction. -/
def keepDirections (labels : List (List Char)) : Bool :=
  let mixed := labels.any fun label => label.any fun c => (bidiClass c).isRightToLeft
  !mixed || labels.all keepsDirection

def encodeLabel? (label : List Char) : Option (List Char) :=
  if label.all isAscii then some label
  else if maxPlainLength < label.length then none
  else some (encodedMark ++ Punycode.encode label)

def toAscii? (domain : List Char) : Option (List Char) :=
  match mapText? domain with
  | none => none
  | some mapped =>
    match (Text.splitOn '.' (normalize mapped)).mapM plainLabel? with
    | none => none
    | some labels =>
      if labels.all isWellFormed && keepDirections labels then
        (labels.mapM encodeLabel?).map (Text.joinWith '.')
      else
        none

end Throughput.Url.Idna
