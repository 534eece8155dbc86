import Flowchart.Files
import Flowchart.Report
import Flowchart.Text.Integer
import Flowchart.Text.Quoted
import Flowchart.Text.Similarity
import Flowchart.Text.Stream

/-!
# The command

The command reads a chart from a file or from its input and writes the chart's document or its
summary.

Options:

* `--output PATH`, `-o PATH`: write to the file at `PATH` instead of the output stream; an empty
  path means the output stream;
* `--indent N`, `-i N`: lay the document out with `N` spaces per level, the default being 2.
  With 0 the document is written on one line; a negative width puts each item on its own line
  without indentation;
* `--summary`, `-s`: write the summary instead of the document;
* `--strict`: when a line of the chart states nothing, report it and fail;
* `--verbose`, `-v`: accepted, and changes nothing that is written;
* `--help`: write the help text and stop.

Arguments are read from left to right. A long option takes its value after `=` or as the next
argument; short options may be joined after one dash (`-si2`), and the value of `-i` or `-o` is
the rest of the group or, if nothing is left, the next argument. An argument `--` ends the
options. The last value given for an option counts, and the indentation is read as a number only
once all arguments are in (`Text.readInt?`). Then the operand, if there is one, must name
something, and there may be no second operand.

A command line that cannot be read is reported on the error stream with exit status 2: an option
with a missing or unwanted value by its message alone, any other mistake under a usage line.
Otherwise the chart text is read with unified line ends and laid out with the default layout. A
strict run over a text with a bad line writes `parse error: ` and the message to the error
stream and exits with status 1, after the output is written. An indentation of 2^63 spaces or
more cannot be made; such a run writes nothing and exits with status 1. Whatever is written to a
stream loses its terminal control sequences.
-/

namespace Flowchart

/-- A command line that cannot be read. -/
inductive UsageError where
  | noSuchOption (option : String) (suggestions : List String)
  | missingValue (option : String)
  | unexpectedValue (option : String)
  | notAnInteger (value : String)
  | noSuchFile (path : String)
  | extraArguments (extra : List String)
  deriving DecidableEq, Repr

namespace UsageError

def insertName (name : String) : List String → List String
  | [] => [name]
  | n :: ns => if name.toList ≤ n.toList then name :: n :: ns else n :: insertName name ns

/-- The suggestions that follow the message of an unknown option, in code-point order. -/
def suggestionText (suggestions : List String) : String :=
  match (suggestions.foldr insertName []).map Text.quoted with
  | [] => ""
  | [p] => " Did you mean " ++ p ++ "?"
  | ps => " (Did you mean one of: " ++ ", ".intercalate ps ++ "?)"

def message : UsageError → String
  | noSuchOption o suggestions => "No such option " ++ Text.quoted o ++ "." ++ suggestionText suggestions
  | missingValue o => "Option " ++ Text.quoted o ++ " requires an argument."
  | unexpectedValue o => "Option " ++ Text.quoted o ++ " does not take a value."
  | notAnInteger v =>
    "Invalid value for '--indent' / '-i': " ++ Text.quoted v ++ " is not a valid integer."
  | noSuchFile p => "Invalid value for '[INPUT]': Path " ++ Text.quoted p ++ " does not exist."
  | extraArguments [a] => "Got unexpected extra argument (" ++ a ++ ")"
  | extraArguments extra => "Got unexpected extra arguments (" ++ " ".intercalate extra ++ ")"

/-- Whether the error is shown under the usage line: all are but those of an option's value. -/
def showsUsage : UsageError → Bool
  | missingValue _ | unexpectedValue _ => false
  | _ => true

/-- What the error stream shows: the usage line and a hint when the error calls for them, and
the message. -/
def report (e : UsageError) : String :=
  (if e.showsUsage then "Usage: main [OPTIONS] [INPUT]\nTry 'main --help' for help.\n\n" else "") ++
    "Error: " ++ e.message ++ "\n"

end UsageError

def helpText : String :=
  "Usage: main [OPTIONS] [INPUT]\n\n" ++
  "  Arrow shorthand flowchart to positioned graph JSON.\n\n" ++
  "Options:\n" ++
  "  -o, --output TEXT     Write output to this file instead of stdout\n" ++
  "  -i, --indent INTEGER  JSON indentation (0 for compact)\n" ++
  "  -s, --summary         Print a text summary instead of JSON\n" ++
  "  --strict              Exit with status 1 if any line failed to parse\n" ++
  "  -v, --verbose         Log parser diagnostics to stderr\n" ++
  "  --help                Show this message and exit.\n"

/-- An option that stands alone. -/
inductive Flag where
  | summary
  | strict
  | verbose
  | help
  deriving DecidableEq, Repr

/-- An option that takes a value. -/
inductive Setting where
  | output
  | indent
  deriving DecidableEq, Repr

def longOptionNames : List String :=
  ["--output", "--indent", "--summary", "--strict", "--verbose", "--help"]

def Flag.ofLong? : String → Option Flag
  | "--summary" => some .summary
  | "--strict" => some .strict
  | "--verbose" => some .verbose
  | "--help" => some .help
  | _ => none

def Flag.ofShort? : Char → Option Flag
  | 's' => some .summary
  | 'v' => some .verbose
  | _ => none

def Setting.ofLong? : String → Option Setting
  | "--output" => some .output
  | "--indent" => some .indent
  | _ => none

def Setting.ofShort? : Char → Option Setting
  | 'o' => some .output
  | 'i' => some .indent
  | _ => none

/-- A command line as written: the flags, the last value of each option with a value, and the
operands. -/
structure Arguments where
  summary : Bool := false
  strict : Bool := false
  verbose : Bool := false
  help : Bool := false
  output : Option String := none
  indent : Option String := none
  operands : List String := []
  deriving DecidableEq, Repr

/-- What is read after an argument: the next argument as the value of an option, named as it was
written, or anything. -/
inductive Expecting where
  | anything
  | value (option : String) (setting : Setting)
  deriving DecidableEq, Repr

namespace Arguments

def raise (a : Arguments) : Flag → Arguments
  | .summary => { a with summary := true }
  | .strict => { a with strict := true }
  | .verbose => { a with verbose := true }
  | .help => { a with help := true }

def assign (a : Arguments) : Setting → String → Arguments
  | .output, v => { a with output := some v }
  | .indent, v => { a with indent := some v }

/-- Reads a group of short options, the characters after one dash. -/
def shortGroup (a : Arguments) : List Char → Except UsageError (Arguments × Expecting)
  | [] => .ok (a, .anything)
  | c :: cs =>
    match Flag.ofShort? c, Setting.ofShort? c with
    | some f, _ => shortGroup (a.raise f) cs
    | none, some s =>
      if cs.isEmpty then .ok (a, .value (String.ofList ['-', c]) s)
      else .ok (a.assign s (String.ofList cs), .anything)
    | none, none => .error (.noSuchOption (String.ofList ['-', c]) [])

/-- Reads a long option, written as its name and perhaps `=` and a value. -/
def longOption (a : Arguments) (arg : String) : Except UsageError (Arguments × Expecting) :=
  let name := String.ofList (arg.toList.takeWhile (· != '='))
  let value := match arg.toList.dropWhile (· != '=') with
    | _ :: v => some (String.ofList v)
    | [] => none
  match Flag.ofLong? name, Setting.ofLong? name, value with
  | some f, _, none => .ok (a.raise f, .anything)
  | some _, _, some _ => .error (.unexpectedValue name)
  | none, some s, none => .ok (a, .value name s)
  | none, some s, some v => .ok (a.assign s v, .anything)
  | none, none, _ => .error (.noSuchOption name (Text.closeMatches name longOptionNames))

def option (a : Arguments) (arg : String) : Except UsageError (Arguments × Expecting) :=
  match arg.toList with
  | '-' :: '-' :: _ => a.longOption arg
  | '-' :: c :: cs => a.shortGroup (c :: cs)
  | _ => .ok ({ a with operands := a.operands ++ [arg] }, .anything)

/-- Reads the arguments from left to right; after `--` every argument is an operand. -/
def readFrom (a : Arguments) (expecting : Expecting) : List String → Except UsageError Arguments
  | [] =>
    match expecting with
    | .value o _ => .error (.missingValue o)
    | .anything => .ok a
  | arg :: rest =>
    match expecting with
    | .value _ s => readFrom (a.assign s arg) .anything rest
    | .anything =>
      if arg == "--" then .ok { a with operands := a.operands ++ rest }
      else
        match a.option arg with
        | .ok (a, e) => readFrom a e rest
        | .error e => .error e

def read (args : List String) : Except UsageError Arguments := readFrom {} .anything args

end Arguments

/-- A failure the command does not handle: the kind of error and its message. -/
structure Fault where
  kind : String
  message : String
  deriving DecidableEq, Repr

def Fault.embeddedNull : Fault := ⟨"ValueError", "embedded null byte"⟩

/-- The fault of handing a path to the system, if it holds a zero character. -/
def Fault.ofPath? (path : String) : Option Fault :=
  if path.toList.contains '\x00' then some Fault.embeddedNull else none

/-- Why a run stops before it reads its chart. -/
inductive Halt where
  | usage (e : UsageError)
  | help
  | fault (f : Fault)
  deriving DecidableEq, Repr

/-- The settings of one run of the command. -/
structure Options where
  summary : Bool := false
  strict : Bool := false
  indent : Int := 2
  input : Option String := none
  output : Option String := none
  deriving DecidableEq, Repr

namespace Options

def indentOf (a : Arguments) : Except Halt Int :=
  match a.indent with
  | none => .ok 2
  | some text => match Text.readInt? text with
    | some n => .ok n
    | none => .error (.usage (.notAnInteger text))

/-- The chart file a command line names, if it names one: a path holding a zero character cannot
be looked up, and the path must name something. Operands after the first are refused once the
first is found. -/
def inputOf (files : Files) (a : Arguments) : Except Halt (Option String) :=
  match a.operands with
  | [] => .ok none
  | path :: extra =>
    if let some f := Fault.ofPath? path then .error (.fault f)
    else if !files.exists? path then .error (.usage (.noSuchFile path))
    else if !extra.isEmpty then .error (.usage (.extraArguments extra))
    else .ok (some path)

/-- The settings a command line asks for. The help flag comes first, then the indentation is
read, then the operand is looked for. -/
def ofArguments (files : Files) (a : Arguments) : Except Halt Options :=
  if a.help then .error .help
  else
    match indentOf a, inputOf files a with
    | .error h, _ => .error h
    | .ok _, .error h => .error h
    | .ok n, .ok input =>
      .ok { summary := a.summary, strict := a.strict, indent := n, input := input,
            output := a.output }

def read (files : Files) (args : List String) : Except Halt Options :=
  match Arguments.read args with
  | .ok a => ofArguments files a
  | .error e => .error (.usage e)

/-- The widest indentation the document can be laid out with: 2^63 - 1 spaces. -/
def maxIndent : Int := Int.pow 2 63 - 1

def style (o : Options) : Text.JsonStyle :=
  if o.indent = 0 then .flat else .indented o.indent.toNat

def outputFile? (o : Options) : Option String :=
  match o.output with
  | some path => if path.isEmpty then none else some path
  | none => none

end Options

/-- What one run of the command writes: the text of its two streams, the file it saves as a path
and a text, and the status it exits with. -/
structure Outcome where
  stdout : String := ""
  stderr : String := ""
  saved : Option (String × String) := none
  exitCode : Nat := 0
  deriving DecidableEq, Repr

namespace Outcome

def written (s : String) : String := String.ofList (Text.stripStyles s.toList)

def failure (message : String) : Outcome := { stderr := written (message ++ "\n"), exitCode := 1 }

def chartText (files : Files) (input : String) : Option String → Except String String
  | none => .ok input
  | some path =>
    match files.lookup path with
    | .ok (.file contents) => .ok contents
    | .ok .directory => .error ("error: cannot read '" ++ path ++ "': " ++ FileError.isDirectory.describe path)
    | .error e => .error ("error: cannot read '" ++ path ++ "': " ++ e.describe path)

/-- Writes the rendered chart where the options say. An output path holding a zero character
is a fault. -/
def deliver (files : Files) (o : Options) (rendered : String) : Except Fault Outcome :=
  match o.outputFile? with
  | none => .ok { stdout := written rendered }
  | some path =>
    match Fault.ofPath? path with
    | some f => .error f
    | none =>
      match files.writeError? path with
      | some e => .ok (failure ("error: cannot write '" ++ path ++ "': " ++ e.describe path))
      | none => .ok { saved := some (path, rendered) }

/-- A run with the given options over the input. A document asked for with an indentation wider
than `Options.maxIndent` cannot be made: the run stops with status 1 and writes nothing. -/
def ofOptions (files : Files) (o : Options) (input : String) : Except Fault Outcome :=
  match chartText files input o.input with
  | .error message => .ok (failure message)
  | .ok text =>
    let chart := Chart.read {} (String.ofList (Text.unifyLineEnds text.toList))
    if !o.summary && o.indent > Options.maxIndent then .ok { exitCode := 1 }
    else
      let rendered :=
        if o.summary then chart.summary else Text.Json.write o.style chart.toJson ++ "\n"
      match deliver files o rendered with
      | .error f => .error f
      | .ok out =>
        if out.exitCode = 0 && o.strict && !chart.ok then
          .ok { out with stderr := written s!"parse error: {chart.errorMessage}\n", exitCode := 1 }
        else .ok out

end Outcome

/-- Runs the command with the given arguments over the given input, on a machine with the given
files. -/
def Command.run (files : Files) (args : List String) (input : String) : Except Fault Outcome :=
  match Options.read files args with
  | .error (.usage e) => .ok { stderr := Outcome.written e.report, exitCode := 2 }
  | .error .help => .ok { stdout := helpText }
  | .error (.fault f) => .error f
  | .ok o => Outcome.ofOptions files o input

/-- The paths a run looks up: its operand, and the file it would write with its directory. -/
def Command.paths (args : List String) : List String :=
  match Arguments.read args with
  | .ok a =>
    a.operands.take 1 ++
      match a.output with
      | some path => if path.isEmpty then [] else [path, Files.directoryOf path]
      | none => []
  | .error _ => []

def Options.error? (args : List String) : Option UsageError :=
  match Options.read (Files.ofList []) args with
  | .error (.usage e) => some e
  | _ => none

end Flowchart
