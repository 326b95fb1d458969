import Throughput.Setting.Inline
import Throughput.Text.Fields

/-!
# Environment settings

Variables whose names begin with the program's own name, in any case, are settings. Two underscores
stand between the names of sections and keys.
-/

namespace Throughput.Setting.Environment

abbrev Variable := String × String

def marker : List Char := "bwmeter_".toList

def lower (text : List Char) : List Char :=
  text.map Char.toLower

/-- Two underscores in a row become a point. -/
def joinSections : List Char → List Char
  | '_' :: '_' :: rest => '.' :: joinSections rest
  | c :: rest => c :: joinSections rest
  | [] => []

/-- The path of keys that a variable names, if it is one of ours and no part of it is empty. -/
def path? (name : String) : Option (List String) :=
  let trimmed := lower (Text.trim name.toList)
  if marker.isPrefixOf trimmed then
    let parts := Text.splitOn '.' (joinSections (trimmed.drop marker.length))
    if parts.all fun part => !part.isEmpty then some (parts.map String.ofList) else none
  else
    none

def setting? (entry : Variable) : Option Setting :=
  (path? entry.1).map fun path => nest path (Inline.parse entry.2)

def settings (environment : List Variable) : Setting :=
  (environment.filterMap setting?).foldl merge empty

end Throughput.Setting.Environment
