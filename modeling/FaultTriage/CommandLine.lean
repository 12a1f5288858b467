import FaultTriage.Command

/-!
# Command line

What is typed after the name of the program: a command, its options and its words.  An option is
written `--name value` or `--name=value` and may be given once; a value or word that starts with a
dash is none, unless a lone `--` stands in front of the words.  Asking for help or for the version
takes effect where it stands, before anything after it is looked at.
-/

set_option autoImplicit false

namespace FaultTriage.CommandLine

/-! ## Arguments -/

inductive Shape where
  /-- The lone `--` after which there are only words. -/
  | divider
  | long (name : String) (attached : Option String)
  | letters (names : List Char)
  | word

/-- The shape of an argument; a lone dash is a word. -/
def shapeOf (argument : String) : Shape :=
  match argument.toList with
  | ['-', '-'] => .divider
  | '-' :: '-' :: rest =>
      match Text.splitFirst? '=' rest with
      | none => .long (String.ofList rest) none
      | some (name, value) => .long (String.ofList name) (some (String.ofList value))
  | '-' :: first :: rest => .letters (first :: rest)
  | _ => .word

def isWord (argument : String) : Bool :=
  match shapeOf argument with
  | .word => true
  | _ => false

/-! ## Options of a command -/

structure Usage where
  valued : List String
  switches : List String
  takesWords : Bool

structure Given where
  values : List (String × String)
  switches : List String
  words : List String

namespace Given

def empty : Given := ⟨[], [], []⟩

def value? (given : Given) (name : String) : Option String :=
  (given.values.find? (·.1 == name)).map (·.2)

def has (given : Given) (name : String) : Bool :=
  given.switches.contains name

def form (given : Given) : OutputForm :=
  if given.has "json" then .json else .lines

def addValue? (given : Given) (name value : String) : Option Given :=
  if (given.value? name).isSome then none
  else some { given with values := given.values ++ [(name, value)] }

def addSwitch? (given : Given) (name : String) : Option Given :=
  if given.has name then none else some { given with switches := given.switches ++ [name] }

def addWords? (usage : Usage) (given : Given) (words : List String) : Option Given :=
  if words.isEmpty || usage.takesWords then some { given with words := given.words ++ words }
  else none

end Given

/-- What the options of a command come to; misuse is no result. -/
inductive Scanned where
  | help
  | given (given : Given)

inductive LetterEffect where
  | verbose
  | help
  | version
  | unknown

/-- The effect of a group of letters: the first one other than `v` decides. -/
def letterEffect : List Char → LetterEffect
  | [] => .verbose
  | 'v' :: rest => letterEffect rest
  | 'h' :: _ => .help
  | 'V' :: _ => .version
  | _ => .unknown

def scan? (usage : Usage) (given : Given) : List String → Option Scanned
  | [] => some (.given given)
  | argument :: rest =>
      match shapeOf argument with
      | .divider => (given.addWords? usage rest).map .given
      | .word => (given.addWords? usage [argument]).bind fun given => scan? usage given rest
      | .letters names =>
          match letterEffect names with
          | .verbose => scan? usage given rest
          | .help => some .help
          | .version | .unknown => none
      | .long name (some value) =>
          if usage.valued.contains name then
            (given.addValue? name value).bind fun given => scan? usage given rest
          else
            none
      | .long name none =>
          if name = "help" then
            some .help
          else if name = "verbose" then
            scan? usage given rest
          else if usage.switches.contains name then
            (given.addSwitch? name).bind fun given => scan? usage given rest
          else if usage.valued.contains name then
            match rest with
            | [] => none
            | value :: rest =>
                if isWord value then
                  (given.addValue? name value).bind fun given => scan? usage given rest
                else
                  none
          else
            none

/-! ## Commands -/

inductive CommandName where
  | classify
  | taint
  | stackHash
  | triage
  | buckets
deriving DecidableEq

namespace CommandName

def all : List CommandName := [.classify, .taint, .stackHash, .triage, .buckets]

def text : CommandName → String
  | .classify => "classify"
  | .taint => "taint"
  | .stackHash => "stack-hash"
  | .triage => "triage"
  | .buckets => "buckets"

def usage : CommandName → Usage
  | .classify => ⟨["arch", "flags"], ["bare", "json"], true⟩
  | .taint => ⟨["listing", "config", "start"], ["json"], false⟩
  | .stackHash => ⟨["frames", "mode", "config"], ["json"], false⟩
  | .triage => ⟨["listing", "frames", "config", "start", "db"], ["json"], false⟩
  | .buckets => ⟨["db", "bucket"], ["json"], false⟩

/-- The command for what was given, unless something that it needs is missing. -/
def command? (name : CommandName) (given : Given) : Option Command :=
  match name with
  | .classify =>
      if given.words.isEmpty then none
      else some (.classify ((given.value? "arch").getD "x86") (given.value? "flags")
        (given.has "bare") given.words)
  | .taint => do
      some (.taint (← given.value? "listing") (given.value? "config") (given.value? "start"))
  | .stackHash => do
      some (.stackHash (← given.value? "frames") (given.value? "mode") (given.value? "config"))
  | .triage => do
      some (.triage (← given.value? "listing") (← given.value? "frames") (given.value? "config")
        (given.value? "start") (given.value? "db"))
  | .buckets => do
      some (.buckets (← given.value? "db") (given.value? "bucket"))

def ofText? (typed : String) : Option CommandName :=
  all.find? (·.text == typed)

end CommandName

inductive Request where
  | help
  | version
  | run (form : OutputForm) (command : Command)

def helpWord : String := "help"

/-- What the words after the one for help ask for: help on a command, or on help. -/
def helpRequest? : List String → Option Request
  | [] => some .help
  | [topic] =>
      if topic = helpWord || (CommandName.ofText? topic).isSome then some .help else none
  | _ => none

def commandRequest? (name : CommandName) (arguments : List String) : Option Request := do
  match ← scan? name.usage .empty arguments with
  | .help => some .help
  | .given given => some (.run given.form (← name.command? given))

def parse? : List String → Option Request
  | [] => none
  | argument :: rest =>
      match shapeOf argument with
      | .divider => none
      | .word =>
          if argument = helpWord then helpRequest? rest
          else (CommandName.ofText? argument).bind fun name => commandRequest? name rest
      | .letters names =>
          match letterEffect names with
          | .verbose => parse? rest
          | .help => some .help
          | .version => some .version
          | .unknown => none
      | .long name attached =>
          if attached.isSome then none
          else if name = "help" then some .help
          else if name = "version" then some .version
          else if name = "verbose" then parse? rest
          else none

def paths (arguments : List String) : List PathBytes :=
  match parse? arguments with
  | some (.run _ command) => command.paths
  | _ => []

/-! ## Running -/

structure Outcome where
  code : UInt8
  output : String
  report : Option String

def version : String := "0.1.0"

def versionText : String := "crash-triage " ++ version

def helpText : String :=
  "Usage: crash-triage [-v] <command> [options]\n\nCommands: "
    ++ String.intercalate ", " (CommandName.all.map CommandName.text)

def run (directory : Directory) (now : Timestamp) (arguments : List String) :
    Directory × Outcome :=
  match parse? arguments with
  | none => (directory, ⟨2, "", none⟩)
  | some .help => (directory, ⟨0, helpText ++ "\n", none⟩)
  | some .version => (directory, ⟨0, versionText ++ "\n", none⟩)
  | some (.run form command) =>
      let (changed, result) := command.run directory now form
      match result with
      | .ok output => (changed, ⟨0, output, none⟩)
      | .error error => (changed, ⟨1, "", some error.report⟩)

end FaultTriage.CommandLine
