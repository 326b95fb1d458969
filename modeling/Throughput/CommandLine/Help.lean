import Throughput.CommandLine.Invocation

/-!
# Help texts

What the program prints about itself. The texts of a section stand in two columns.
-/

namespace Throughput.CommandLine

def programName : String := "bwmeter"

def programVersion : String := "0.1.0"

def programDescription : String :=
  "Command-line runner for HTTP throughput and packet-train measurements"

structure HelpEntry where
  form : String
  description : String
  deriving DecidableEq, Repr

namespace HelpEntry

variable {σ : Type}

def ofCommand (command : CommandName) : HelpEntry :=
  ⟨command.text, command.description⟩

def ofArgument (argument : Argument σ) : HelpEntry :=
  ⟨argument.placeholder, argument.description⟩

def ofFlag (flag : Flag σ) : HelpEntry :=
  let short := match flag.short with
    | some c => String.ofList ['-', c, ',', ' ']
    | none => "    "
  let value := match flag.effect with
    | .take placeholder _ => " <" ++ placeholder ++ ">"
    | _ => ""
  ⟨short ++ flag.shown ++ value, flag.description⟩

/-- The first column takes as much room as its longest form, and two blanks more. -/
def line (width : Nat) (entry : HelpEntry) : String :=
  let room := String.ofList (List.replicate (width - entry.form.length) ' ')
  "  " ++ entry.form ++ room ++ "  " ++ entry.description ++ "\n"

def sectionText (title : String) (entries : List HelpEntry) : String :=
  if entries.isEmpty then ""
  else
    let width := (entries.map fun entry => entry.form.length).foldl max 0
    "\n" ++ title ++ ":\n" ++ String.join (entries.map (line width))

end HelpEntry

namespace Level

variable {σ : Type}

def usage (level : Level σ) (words : List String) : String :=
  let flags := if level.flags.isEmpty then [] else ["[OPTIONS]"]
  let argument := level.argument.toList.map Argument.placeholder
  let command := if level.commands.isEmpty then [] else ["<COMMAND>"]
  "Usage: " ++ " ".intercalate (words ++ flags ++ argument ++ command) ++ "\n"

def help (level : Level σ) (words : List String) (description : String) : String :=
  description ++ "\n\n" ++ level.usage words ++
    HelpEntry.sectionText "Arguments" (level.argument.toList.map .ofArgument) ++
    HelpEntry.sectionText "Commands" (level.commands.map .ofCommand) ++
    HelpEntry.sectionText "Options" (level.flags.map .ofFlag)

end Level

def commandHelp (command : CommandName) : String :=
  let words := [programName, command.text]
  match command with
  | .download => downloadLevel.help words command.description
  | .trains => trainsLevel.help words command.description
  | .send => sendLevel.help words command.description
  | .list => listLevel.help words command.description
  | .help => helpLevel.help words command.description

def helpText : (topic : Option CommandName) → String
  | none => topLevel.help [programName] programDescription
  | some command => commandHelp command

def versionText : (topic : Option CommandName) → String
  | none => s!"{programName} {programVersion}\n"
  | some command => s!"{programName}-{command.text} {programVersion}\n"

end Throughput.CommandLine
