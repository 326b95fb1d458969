import Throughput.Budget
import Throughput.Definition

/-!
# Configurations

What runs start from before the command line changes it, and the budget that they share.
-/

namespace Throughput

/-- A traffic allowance. Nothing is ever refused unless it is active. -/
structure BudgetSettings where
  active : Bool
  available : UInt64
  used : UInt64
  deriving DecidableEq, Repr

namespace BudgetSettings

def initial : BudgetSettings :=
  ⟨false, 0, 0⟩

def budget (settings : BudgetSettings) : Budget :=
  if settings.active then
    .limited ((Allowance.ofAvailable settings.available.toNat).withUsed settings.used.toNat)
  else
    .unlimited

end BudgetSettings

structure Configuration where
  logLevel : String
  download : DownloadDefinition
  trains : TrainsDefinition
  budget : BudgetSettings
  deriving DecidableEq, Repr

def Configuration.initial : Configuration :=
  { logLevel := "info"
    download := .initial
    trains := .initial
    budget := .initial }

end Throughput
