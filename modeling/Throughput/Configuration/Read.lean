import Throughput.Configuration.Basic
import Throughput.Setting.Basic

/-!
# Reading configurations

A configuration from its settings. A section is a table, or the list of its values in order. Keys
that are absent keep their defaults, and keys that nobody knows do not matter.
-/

namespace Throughput

namespace Setting

def text? : Setting → Option String
  | .text t => some t
  | _ => none

def flag? : Setting → Option Bool
  | .flag b => some b
  | _ => none

def upTo? (limit : Nat) : Setting → Option Nat
  | .integer n => if 0 ≤ n ∧ n ≤ limit then some n.toNat else none
  | _ => none

def word16? (setting : Setting) : Option UInt16 :=
  (setting.upTo? Numeric.maxWord16).map UInt16.ofNat

def word32? (setting : Setting) : Option UInt32 :=
  (setting.upTo? Numeric.maxWord32).map UInt32.ofNat

def word64? (setting : Setting) : Option UInt64 :=
  (setting.upTo? Numeric.maxWord64).map UInt64.ofNat

structure SectionKey (σ : Type) where
  name : String
  read : Setting → σ → Option σ

variable {σ : Type}

def readEntry (entries : Entries) (record : σ) (key : SectionKey σ) : Option σ :=
  match entries.lookup key.name with
  | some setting => key.read setting record
  | none => some record

def readSection (keys : List (SectionKey σ)) (initial : σ) : Setting → Option σ
  | .table entries => keys.foldlM (readEntry entries) initial
  | .list items =>
    (keys.zip items).foldlM (fun record (key, setting) => key.read setting record) initial
  | _ => none

end Setting

open Setting

namespace DownloadDefinition

def keys : List (SectionKey DownloadDefinition) :=
  [ ⟨"url", fun s d => return { d with url := ← s.text? }⟩,
    ⟨"threads", fun s d => return { d with threads := ← s.word32? }⟩,
    ⟨"ramp_up_ms", fun s d => return { d with rampUp := ← s.word64? }⟩,
    ⟨"target_time_ms", fun s d => return { d with targetTime := ← s.word64? }⟩,
    ⟨"slot_length_ms", fun s d => return { d with slotLength := ← s.word64? }⟩,
    ⟨"avoid_caches", fun s d => return { d with avoidCaches := ← s.flag? }⟩ ]

def ofSetting (setting : Setting) : Option DownloadDefinition :=
  readSection keys initial setting

end DownloadDefinition

namespace TrainsDefinition

def keys : List (SectionKey TrainsDefinition) :=
  [ ⟨"iterations", fun s d => return { d with iterations := ← s.word16? }⟩,
    ⟨"train_length", fun s d => return { d with trainLength := ← s.word16? }⟩,
    ⟨"packet_size", fun s d => return { d with packetSize := ← s.word64? }⟩,
    ⟨"train_gap_ms", fun s d => return { d with trainGap := ← s.word64? }⟩ ]

def ofSetting (setting : Setting) : Option TrainsDefinition :=
  readSection keys initial setting

end TrainsDefinition

namespace BudgetSettings

def keys : List (SectionKey BudgetSettings) :=
  [ ⟨"active", fun s b => return { b with active := ← s.flag? }⟩,
    ⟨"available_bytes", fun s b => return { b with available := ← s.word64? }⟩,
    ⟨"used_bytes", fun s b => return { b with used := ← s.word64? }⟩ ]

def ofSetting (setting : Setting) : Option BudgetSettings :=
  readSection keys initial setting

end BudgetSettings

namespace Configuration

def logKeys : List (SectionKey String) :=
  [⟨"level", fun s _ => s.text?⟩]

def logLevelOf (setting : Setting) : Option String :=
  readSection logKeys initial.logLevel setting

def keys : List (SectionKey Configuration) :=
  [ ⟨"log", fun s c => return { c with logLevel := ← logLevelOf s }⟩,
    ⟨"http_download", fun s c => return { c with download := ← DownloadDefinition.ofSetting s }⟩,
    ⟨"packet_trains", fun s c => return { c with trains := ← TrainsDefinition.ofSetting s }⟩,
    ⟨"budget", fun s c => return { c with budget := ← BudgetSettings.ofSetting s }⟩ ]

def ofSetting (setting : Setting) : Option Configuration :=
  readSection keys initial setting

end Configuration

end Throughput
