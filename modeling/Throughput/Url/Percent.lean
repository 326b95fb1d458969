import Throughput.Text.Digits

/-!
# Percent encoding

Bytes written as `%` and two hexadecimal digits.
-/

namespace Throughput.Url

def hexPair (byte : UInt8) : List Char :=
  let digit (n : Nat) : Char := (Nat.digitChar n).toUpper
  [digit (byte.toNat / 16), digit (byte.toNat % 16)]

def percentEncode (escaped : Char → Bool) (text : List Char) : List Char :=
  text.flatMap fun c =>
    if escaped c then (String.utf8EncodeChar c).flatMap fun byte => '%' :: hexPair byte else [c]

/-- Reads encoded bytes. A `%` without two digits behind it stands for itself. -/
def percentDecode : List UInt8 → List UInt8
  | [] => []
  | 0x25 :: high :: low :: rest =>
    match Text.hexDigit? (Char.ofNat high.toNat), Text.hexDigit? (Char.ofNat low.toNat) with
    | some h, some l => UInt8.ofNat (16 * h + l) :: percentDecode rest
    | _, _ => 0x25 :: percentDecode (high :: low :: rest)
  | byte :: rest => byte :: percentDecode rest

/-- The text with its encoded bytes read, unless these are no text. -/
def percentDecoded? (text : List Char) : Option (List Char) :=
  let bytes := percentDecode (text.flatMap String.utf8EncodeChar)
  (String.fromUTF8? ⟨bytes.toArray⟩).map String.toList

end Throughput.Url
