import Throughput.Address.Ipv4

/-!
# IPv6 addresses

An address is written as eight groups of hexadecimal digits. Two colons in a row stand for one or
more groups of zeros, and the last two groups may be written as an IPv4 address.
-/

namespace Throughput.Address

structure Ipv6 where
  groups : List UInt16
  length_groups : groups.length = 8
  deriving DecidableEq, Repr

namespace Ipv6

def ofGroups? (groups : List UInt16) : Option Ipv6 :=
  if h : groups.length = 8 then some ⟨groups, h⟩ else none

/-- Up to `limit` hexadecimal digits in front of a text, and the rest. -/
def takeGroup : (limit : Nat) → List Char → List Char × List Char
  | 0, text => ([], text)
  | _, [] => ([], [])
  | limit + 1, c :: rest =>
    if Text.isHexDigit c then
      let (digits, after) := takeGroup limit rest
      (c :: digits, after)
    else
      ([], c :: rest)

theorem length_takeGroup (limit : Nat) (text : List Char) :
    (takeGroup limit text).1.length + (takeGroup limit text).2.length = text.length := by
  induction limit generalizing text with
  | zero => simp [takeGroup]
  | succ limit ih =>
    match text with
    | [] => rfl
    | c :: rest =>
      unfold takeGroup
      split
      · have := ih rest
        simp only [List.length_cons]
        omega
      · simp

/-- The groups read so far, and how many of them stand before the gap. -/
structure Scan where
  groups : List UInt16
  gap : Option Nat

namespace Scan

/-- A gap counts as one group while reading. -/
def places (scan : Scan) : Nat :=
  scan.groups.length + (if scan.gap.isSome then 1 else 0)

def push (scan : Scan) (group : UInt16) : Scan :=
  { scan with groups := scan.groups ++ [group] }

def finish? (scan : Scan) : Option Ipv6 :=
  match scan.gap with
  | none => ofGroups? scan.groups
  | some before =>
    if scan.groups.length < 8 then
      ofGroups? <|
        scan.groups.take before ++ List.replicate (8 - scan.groups.length) 0 ++
          scan.groups.drop before
    else
      none

def pushIpv4 (scan : Scan) (address : Ipv4) : Scan :=
  (scan.push (.ofNat (address.a.toNat * 256 + address.b.toNat))).push
    (.ofNat (address.c.toNat * 256 + address.d.toNat))

def run? (scan : Scan) (text : List Char) : Option Ipv6 :=
  match text with
  | [] => scan.finish?
  | ':' :: rest =>
    if 8 ≤ scan.places ∨ scan.gap.isSome then none
    else run? { scan with gap := some scan.groups.length } rest
  | c :: rest =>
    if 8 ≤ scan.places then
      none
    else
      match _split : takeGroup 4 (c :: rest) with
      | ([], _) => none
      | (digits, []) => (scan.push (.ofNat (Text.ofDigits 16 digits))).finish?
      | (digits, ':' :: next) =>
        if next.isEmpty then none else run? (scan.push (.ofNat (Text.ofDigits 16 digits))) next
      | (_, '.' :: _) =>
        if 6 < scan.places then none
        else (Ipv4.parse? (c :: rest)).bind fun address => (scan.pushIpv4 address).finish?
      | _ => none
  termination_by text.length
  decreasing_by
    · simp
    · have count := length_takeGroup 4 (c :: rest)
      rw [_split] at count
      simp only [List.length_cons] at count ⊢
      omega

end Scan

def parse? (text : List Char) : Option Ipv6 :=
  match text with
  | ':' :: ':' :: rest => Scan.run? ⟨[], some 0⟩ rest
  | ':' :: _ => none
  | _ => Scan.run? ⟨[], none⟩ text

def zeroRun (groups : List UInt16) : Nat :=
  (groups.takeWhile (· = 0)).length

/-- Place and length of the longest run of zeros from `start` on; of equally long ones the first. -/
def longestRun : (start : Nat) → List UInt16 → Nat × Nat
  | start, [] => (start, 0)
  | start, group :: rest =>
    let here := zeroRun (group :: rest)
    let (place, length) := longestRun (start + 1) rest
    if length ≤ here then (start, here) else (place, length)

def groupsText (groups : List UInt16) : List Char :=
  Text.joinWith ':' (groups.map fun group => Text.hex group.toNat)

/-- The groups in lower case, the longest run of at least two zeros left out. -/
def text (address : Ipv6) : List Char :=
  let (place, length) := longestRun 0 address.groups
  if length < 2 then
    groupsText address.groups
  else
    groupsText (address.groups.take place) ++ "::".toList ++
      groupsText (address.groups.drop (place + length))

def mapped? (address : Ipv6) : Option Ipv4 :=
  match address.groups with
  | [0, 0, 0, 0, 0, 0xFFFF, high, low] => some (.ofNat (high.toNat <<< 16 + low.toNat))
  | _ => none

/-- As `text`, but a mapped address shows its IPv4 form. -/
def mixedText (address : Ipv6) : List Char :=
  match address.mapped? with
  | some inner => "::ffff:".toList ++ inner.text
  | none => address.text

end Ipv6

end Throughput.Address
