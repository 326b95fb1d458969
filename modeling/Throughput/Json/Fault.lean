/-!
# Faults of JSON texts
-/

namespace Throughput.Json

/-- What is wrong with a text: it is no JSON, it is JSON of the wrong kind, or it ends too early. -/
inductive Fault where
  | malformed
  | mistyped
  | truncated
  deriving DecidableEq, Repr

abbrev Outcome (α : Type) := Except Fault α

end Throughput.Json
