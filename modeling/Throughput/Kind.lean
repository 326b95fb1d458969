import Throughput.Error
import Throughput.Text.Blank

/-!
# Kinds of measurement
-/

namespace Throughput

inductive Kind where
  | httpDownload
  | packetTrains
  deriving DecidableEq, Repr

namespace Kind

def all : List Kind :=
  [.httpDownload, .packetTrains]

def name : Kind → String
  | .httpDownload => "http_download"
  | .packetTrains => "packet_trains"

def ofName? (name : String) : Option Kind :=
  all.find? fun kind => kind.name = name

/-- Letter case, surrounding blanks, and the choice of hyphen or underscore do not matter. -/
def normalize (text : String) : String :=
  String.ofList ((Text.trim text.toList).map fun c => if c = '-' then '_' else c.toLower)

def parse (text : String) : Except Refusal Kind :=
  match ofName? (normalize text) with
  | some kind => .ok kind
  | none => .error (.unknownKind text)

theorem ofName?_name (kind : Kind) : ofName? kind.name = some kind := by
  cases kind <;> rfl

end Kind

end Throughput
