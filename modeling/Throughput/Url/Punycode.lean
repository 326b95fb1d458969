import Throughput.Numeric.Word

/-!
# Punycode

The ASCII form of a label with other characters: its ASCII characters first, then one generalized
variable-length integer for every other character, which says where it goes and what it is.
-/

namespace Throughput.Url.Punycode

def base : Nat := 36

def lowThreshold : Nat := 1

def highThreshold : Nat := 26

def initialBias : Nat := 72

def initialCode : Nat := 128

def isBasic (c : Char) : Bool :=
  c.toNat < initialCode

def digitChar (digit : Nat) : Char :=
  Char.ofNat (if digit < 26 then 'a'.toNat + digit else '0'.toNat + digit - 26)

def digitValue? (c : Char) : Option Nat :=
  if 'a' ≤ c ∧ c ≤ 'z' then some (c.toNat - 'a'.toNat)
  else if 'A' ≤ c ∧ c ≤ 'Z' then some (c.toNat - 'A'.toNat)
  else if '0' ≤ c ∧ c ≤ '9' then some (c.toNat - '0'.toNat + 26)
  else none

/-- The digit from which on an integer ends, at weight position `k`. -/
def threshold (k bias : Nat) : Nat :=
  if k ≤ bias then lowThreshold else if bias + highThreshold ≤ k then highThreshold else k - bias

theorem one_le_threshold (k bias : Nat) : 1 ≤ threshold k bias := by
  unfold threshold lowThreshold highThreshold
  split
  · omega
  · split <;> omega

theorem threshold_le (k bias : Nat) : threshold k bias ≤ highThreshold := by
  unfold threshold lowThreshold highThreshold
  split
  · omega
  · split <;> omega

/-- Scales a delta down and counts the steps. -/
def scaleDown (delta k : Nat) : Nat × Nat :=
  if 455 < delta then scaleDown (delta / 35) (k + base) else (delta, k)
  termination_by delta
  decreasing_by omega

/-- The bias for the next delta, after one that brought the label to `points` characters. -/
def adapt (delta points : Nat) (first : Bool) : Nat :=
  let damped := if first then delta / 700 else delta / 2
  let (scaled, k) := scaleDown (damped + damped / points) 0
  k + (base * scaled) / (scaled + 38)

def encodeDelta (bias k delta : Nat) : List Char :=
  let t := threshold k bias
  if delta < t then
    [digitChar delta]
  else
    digitChar (t + (delta - t) % (base - t)) ::
      encodeDelta bias (k + base) ((delta - t) / (base - t))
  termination_by delta
  decreasing_by
    have low := one_le_threshold k bias
    have high := threshold_le k bias
    simp only [highThreshold] at high
    have shrinks : (delta - threshold k bias) / (base - threshold k bias) ≤
        (delta - threshold k bias) / 10 :=
      Nat.div_le_div_left (by simp only [base]; omega) (by omega)
    omega

structure Encoder where
  delta : Nat
  bias : Nat
  handled : Nat
  output : List Char
  deriving Repr

/-- Passes one character of the label while the characters of code `code` are being placed. -/
def Encoder.pass (code basicCount : Nat) (encoder : Encoder) (c : Char) : Encoder :=
  if c.toNat < code then
    { encoder with delta := encoder.delta + 1 }
  else if c.toNat = code then
    { delta := 0
      bias := adapt encoder.delta (encoder.handled + 1) (encoder.handled = basicCount)
      handled := encoder.handled + 1
      output := encoder.output ++ encodeDelta encoder.bias base encoder.delta }
  else
    encoder

/-- Places the characters of the given codes, in ascending order of the codes. -/
def encodeCodes (label : List Char) (basicCount : Nat) : (next : Nat) → Encoder → List Nat → Encoder
  | _, encoder, [] => encoder
  | next, encoder, code :: codes =>
    let reached := { encoder with delta := encoder.delta + (code - next) * (encoder.handled + 1) }
    let placed := label.foldl (Encoder.pass code basicCount) reached
    encodeCodes label basicCount (code + 1) { placed with delta := placed.delta + 1 } codes

def encode (label : List Char) : List Char :=
  let basic := label.filter isBasic
  let codes := ((label.filter fun c => !isBasic c).map Char.toNat).mergeSort.eraseDups
  let start : Encoder :=
    { delta := 0
      bias := initialBias
      handled := basic.length
      output := if basic.isEmpty then [] else basic ++ ['-'] }
  (encodeCodes label basic.length initialCode start codes).output

/-- A label that is being read. `weightIndex` is the place of the next digit in its integer, which
started at index `start`. -/
structure Decoder where
  output : List Char
  code : Nat
  bias : Nat
  start : Nat
  index : Nat
  weight : Nat
  weightIndex : Nat
  deriving Repr

namespace Decoder

def initial (basic : List Char) : Decoder :=
  { output := basic
    code := initialCode
    bias := initialBias
    start := 0
    index := 0
    weight := 1
    weightIndex := base }

def insert? (decoder : Decoder) : Option Decoder :=
  let points := decoder.output.length + 1
  let code := decoder.code + decoder.index / points
  let place := decoder.index % points
  if code ≤ Numeric.maxWord32 ∧ code.isValidChar then
    some { output := decoder.output.take place ++ Char.ofNat code :: decoder.output.drop place
           code
           bias := adapt (decoder.index - decoder.start) points (decoder.start = 0)
           start := place + 1
           index := place + 1
           weight := 1
           weightIndex := base }
  else
    none

def digit? (decoder : Decoder) (digit : Nat) : Option Decoder :=
  let index := decoder.index + digit * decoder.weight
  let t := threshold decoder.weightIndex decoder.bias
  if Numeric.maxWord32 < index then
    none
  else if digit < t then
    insert? { decoder with index }
  else if Numeric.maxWord32 < decoder.weight * (base - t) then
    none
  else
    some { decoder with
      index
      weight := decoder.weight * (base - t)
      weightIndex := decoder.weightIndex + base }

def run? (decoder : Decoder) : List Char → Option (List Char)
  | [] => if decoder.weightIndex = base then some decoder.output else none
  | c :: rest =>
    match digitValue? c with
    | none => none
    | some digit =>
      match decoder.digit? digit with
      | none => none
      | some next => next.run? rest

end Decoder

/-- The text before and after the last hyphen. A hyphen in front separates nothing. -/
def splitBasic (text : List Char) : List Char × List Char :=
  let deltas := (text.reverse.takeWhile (· ≠ '-')).reverse
  let basic := text.take (text.length - deltas.length - 1)
  if deltas.length = text.length ∨ basic.isEmpty then ([], text) else (basic, deltas)

def decode? (text : List Char) : Option (List Char) :=
  let (basic, deltas) := splitBasic text
  (Decoder.initial basic).run? deltas

end Throughput.Url.Punycode
