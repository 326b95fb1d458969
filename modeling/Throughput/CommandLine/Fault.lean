/-!
# Command-line faults

Why the arguments of the program start nothing: they are at fault, or they ask for a text to read.
-/

namespace Throughput.CommandLine

inductive CommandName where
  | download
  | trains
  | send
  | list
  | help
  deriving DecidableEq, Repr

namespace CommandName

def all : List CommandName :=
  [.download, .trains, .send, .list, .help]

def text : CommandName → String
  | .download => "http-download"
  | .trains => "packet-trains"
  | .send => "train-send"
  | .list => "list"
  | .help => "help"

/-- A second name, which is not shown. -/
def alias? : CommandName → Option String
  | .download => some "http"
  | .trains => some "trains"
  | .send => some "send"
  | .list => some "ls"
  | .help => none

def description : CommandName → String
  | .download => "Measure download throughput over several parallel connections"
  | .trains => "Receive packet trains and report per-train rates"
  | .send => "Send packet trains to a receiving probe"
  | .list => "List the available measurements"
  | .help => "Print this message or the help of the given subcommand(s)"

def answersTo (command : CommandName) (word : String) : Bool :=
  word = command.text || command.alias? = some word

theorem find?_text (command : CommandName) :
    all.find? (·.answersTo command.text) = some command := by
  cases command <;> decide

end CommandName

inductive Fault where
  | unknownCommand (word : String)
  | unknownArgument (word : String)
  /-- A value that has to be there is missing or empty. -/
  | missingValue (name : String)
  | malformedValue (name value : String)
  /-- A flag that takes no value has one. -/
  | surplusValue (name value : String)
  | repeatedFlag (name : String)
  | missingArgument (name : String)
  | missingCommand
  | nothingGiven
  deriving DecidableEq, Repr

def Fault.message : Fault → String
  | .unknownCommand word => s!"unrecognized subcommand '{word}'"
  | .unknownArgument word => s!"unexpected argument '{word}' found"
  | .missingValue name => s!"a value is required for '{name}' but none was supplied"
  | .malformedValue name value => s!"invalid value '{value}' for '{name}'"
  | .surplusValue name value => s!"unexpected value '{value}' for '{name}' found"
  | .repeatedFlag name => s!"the argument '{name}' cannot be used multiple times"
  | .missingArgument name => s!"the required argument '{name}' was not provided"
  | .missingCommand => "a subcommand is required but none was provided"
  | .nothingGiven => "nothing was asked for"

/-- Why nothing is started. A topic is a command, or the program as a whole. -/
inductive Stop where
  | fault (cause : Fault)
  | help (topic : Option CommandName)
  | version (topic : Option CommandName)
  deriving DecidableEq, Repr

end Throughput.CommandLine
