/-!
# Fields

Texts taken apart at a separator.
-/

namespace Throughput.Text

/-- The parts between the separators, even empty ones. A text without a separator is one part. -/
def splitOn (separator : Char) : List Char → List (List Char)
  | [] => [[]]
  | c :: rest =>
    if c = separator then
      [] :: splitOn separator rest
    else
      match splitOn separator rest with
      | [] => [[c]]
      | field :: fields => (c :: field) :: fields

def joinWith (separator : Char) : List (List Char) → List Char
  | [] => []
  | [field] => field
  | field :: rest => field ++ separator :: joinWith separator rest

theorem splitOn_eq_self {separator : Char} {field : List Char} (h : separator ∉ field) :
    splitOn separator field = [field] := by
  induction field with
  | nil => rfl
  | cons c field ih =>
    rw [splitOn, if_neg (List.ne_of_not_mem_cons h).symm, ih (List.not_mem_of_not_mem_cons h)]

theorem splitOn_append {separator : Char} {field : List Char} (h : separator ∉ field)
    (rest : List Char) :
    splitOn separator (field ++ separator :: rest) = field :: splitOn separator rest := by
  induction field with
  | nil => rw [List.nil_append, splitOn, if_pos rfl]
  | cons c field ih =>
    rw [List.cons_append, splitOn, if_neg (List.ne_of_not_mem_cons h).symm,
      ih (List.not_mem_of_not_mem_cons h)]

theorem splitOn_joinWith {separator : Char} {fields : List (List Char)} (hfields : fields ≠ [])
    (h : ∀ field ∈ fields, separator ∉ field) :
    splitOn separator (joinWith separator fields) = fields := by
  fun_induction joinWith separator fields with
  | case1 => exact absurd rfl hfields
  | case2 field => exact splitOn_eq_self (h field List.mem_cons_self)
  | case3 field rest hrest ih =>
    have hjoined := ih hrest fun other hother => h other (List.mem_cons_of_mem _ hother)
    rw [splitOn_append (h field List.mem_cons_self), hjoined]

def words (text : List Char) : List (List Char) :=
  (splitOn ' ' (text.map fun c => if c = '\n' then ' ' else c)).filter fun word => !word.isEmpty

def occursIn (pattern : List Char) : List Char → Bool
  | [] => pattern.isEmpty
  | c :: rest => pattern.isPrefixOf (c :: rest) || occursIn pattern rest

end Throughput.Text
