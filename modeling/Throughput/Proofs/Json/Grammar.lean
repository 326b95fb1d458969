import Throughput.Json.Numeral
import Throughput.Json.Quoted
import Throughput.Json.Value

/-!
# The grammar of JSON

Which texts are JSON, said without a reader. What stands between quotes is taken apart in two steps:
how it is spelled, and which characters it stands for. A surrogate that stands alone is well spelled
and stands for nothing.
-/

namespace Throughput.Json

def Blanks (text : List Char) : Prop :=
  ∀ c ∈ text, c ∈ [' ', '\n', '\t', '\r']

instance (text : List Char) : Decidable (Blanks text) :=
  List.decidableBAll _ text

/-! ## Numerals -/

/-- One digit or more. -/
structure Digits (text : List Char) : Prop where
  ne_nil : text ≠ []
  isDigit : ∀ c ∈ text, c.isDigit

/-- No other digit stands behind a leading zero. -/
inductive IsWhole : List Char → Prop
  | zero : IsWhole ['0']
  | digits {text : List Char} : Digits text → text.head? ≠ some '0' → IsWhole text

inductive IsFraction : List Char → Option (List Char) → Prop
  | none : IsFraction [] none
  | point {digits : List Char} : Digits digits → IsFraction ('.' :: digits) (some digits)

inductive IsExponent : List Char → Option Exponent → Prop
  | none : IsExponent [] none
  | unsigned {mark : Char} {digits : List Char} : mark ∈ ['e', 'E'] → Digits digits →
      IsExponent (mark :: digits) (some ⟨false, digits⟩)
  | signed {mark : Char} {digits : List Char} (negative : Bool) : mark ∈ ['e', 'E'] →
      Digits digits →
      IsExponent (mark :: (if negative then '-' else '+') :: digits) (some ⟨negative, digits⟩)

inductive IsNumeral : List Char → Numeral → Prop
  | unsigned {whole point mark : List Char} {fraction : Option (List Char)}
      {exponent : Option Exponent} : IsWhole whole → IsFraction point fraction →
      IsExponent mark exponent →
      IsNumeral (whole ++ (point ++ mark)) ⟨false, whole, fraction, exponent⟩
  | negative {whole point mark : List Char} {fraction : Option (List Char)}
      {exponent : Option Exponent} : IsWhole whole → IsFraction point fraction →
      IsExponent mark exponent →
      IsNumeral ('-' :: (whole ++ (point ++ mark))) ⟨true, whole, fraction, exponent⟩

/-! ## Quoted texts -/

/-- The letters behind a backslash, and the characters that they stand for. -/
def shortEscapes : List (Char × Char) :=
  [('"', '"'), ('\\', '\\'), ('/', '/'), ('b', '\x08'), ('f', '\x0c'), ('n', '\n'), ('r', '\r'),
    ('t', '\t')]

def hexDigits : List Char :=
  "0123456789abcdefABCDEF".toList

/-- What may stand between quotes, piece by piece. -/
inductive Spelled : List Char → List Quoted.Piece → Prop
  | nil : Spelled [] []
  | plain {c : Char} {text : List Char} {pieces : List Quoted.Piece} : c ≠ '"' → c ≠ '\\' →
      0x20 ≤ c.toNat → Spelled text pieces → Spelled (c :: text) (.plain c :: pieces)
  | short {mark c : Char} {text : List Char} {pieces : List Quoted.Piece} :
      (mark, c) ∈ shortEscapes → Spelled text pieces →
      Spelled ('\\' :: mark :: text) (.plain c :: pieces)
  | numbered {digits text : List Char} {pieces : List Quoted.Piece} : digits.length = 4 →
      digits ⊆ hexDigits → Spelled text pieces →
      Spelled ('\\' :: 'u' :: (digits ++ text)) (.unit (Text.ofDigits 16 digits) :: pieces)

/-- The characters that pieces stand for. Characters beyond 16 bits are pairs of surrogates. -/
inductive Means : List Quoted.Piece → List Char → Prop
  | nil : Means [] []
  | plain {c : Char} {pieces : List Quoted.Piece} {text : List Char} : Means pieces text →
      Means (.plain c :: pieces) (c :: text)
  | unit {n : Nat} {pieces : List Quoted.Piece} {text : List Char} : n < 0xD800 ∨ 0xDFFF < n →
      Means pieces text → Means (.unit n :: pieces) (Char.ofNat n :: text)
  | pair {high low : Nat} {pieces : List Quoted.Piece} {text : List Char} : 0xD800 ≤ high →
      high ≤ 0xDBFF → 0xDC00 ≤ low → low ≤ 0xDFFF → Means pieces text →
      Means (.unit high :: .unit low :: pieces)
        (Char.ofNat (0x10000 + (high - 0xD800) * 0x400 + (low - 0xDC00)) :: text)

def IsSpelling (spelling : List Char) : Prop :=
  ∃ pieces, Spelled spelling pieces

def Spells (spelling text : List Char) : Prop :=
  ∃ pieces, Spelled spelling pieces ∧ Means pieces text

/-! ## Values -/

/-- A member of an object: a key between quotes with blanks around it, and behind a colon its value
with the blanks around that. -/
structure Member where
  before : List Char
  key : List Char
  between : List Char
  value : List Char

namespace Member

def text (member : Member) : List Char :=
  member.before ++ ('"' :: member.key ++ ['"'] ++ (member.between ++ ':' :: member.value))

structure Keyed (member : Member) : Prop where
  before : Blanks member.before
  key : IsSpelling member.key
  between : Blanks member.between

end Member

/-- Members of a list with commas between them, or no more than blanks where there are none. -/
inductive Listed : List (List Char) → List Char → Prop
  | none {blanks : List Char} : Blanks blanks → Listed [] blanks
  | some (text : List Char) (texts : List (List Char)) :
      Listed (text :: texts) ([','].intercalate (text :: texts))

/-- A value of any kind with blanks around it. -/
inductive IsElement : List Char → Prop
  | null : IsElement "null".toList
  | boolean (b : Bool) : IsElement (if b then "true" else "false").toList
  | numeral {text : List Char} {numeral : Numeral} : IsNumeral text numeral → IsElement text
  | quoted {spelling : List Char} : IsSpelling spelling → IsElement ('"' :: spelling ++ ['"'])
  | array {items : List (List Char)} {body : List Char} : Listed items body →
      (∀ item ∈ items, IsElement item) → IsElement ('[' :: body ++ [']'])
  | object {members : List Member} {body : List Char} : Listed (members.map Member.text) body →
      (∀ member ∈ members, member.Keyed) → (∀ member ∈ members, IsElement member.value) →
      IsElement ('\x7b' :: body ++ ['\x7d'])
  | padded {left text right : List Char} : Blanks left → Blanks right → IsElement text →
      IsElement (left ++ text ++ right)

/-- A text that is one object, member by member. -/
inductive IsObject : List Char → List Member → Prop
  | intro {left body right : List Char} {members : List Member} : Blanks left → Blanks right →
      Listed (members.map Member.text) body → (∀ member ∈ members, member.Keyed) →
      (∀ member ∈ members, IsElement member.value) →
      IsObject (left ++ ('\x7b' :: body ++ ['\x7d']) ++ right) members

/-- A text that stands for a truth value, a natural number or a text, with blanks around it. -/
inductive Stands : List Char → Value → Prop
  | boolean (b : Bool) : Stands (if b then "true" else "false").toList (.boolean b)
  | natural {text : List Char} : IsWhole text → Stands text (.natural (Text.ofDigits 10 text))
  | string {spelling text : List Char} : Spells spelling text →
      Stands ('"' :: spelling ++ ['"']) (.string (String.ofList text))
  | padded {left text right : List Char} {value : Value} : Blanks left → Blanks right →
      Stands text value → Stands (left ++ text ++ right) value

end Throughput.Json
