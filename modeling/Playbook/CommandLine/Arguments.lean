import Playbook.Text.Characters

/-! # Command-line arguments

A command line names a task and gives it options and at most one operand. Long options may be
shortened as long as they stay unambiguous, and their values may follow an equals sign or be the
next argument. After two dashes all arguments are operands. Asking for help ends the command line at
once; all other faults are bad usage.
-/

namespace Playbook.CommandLine

/-- Why a command line gives no task. -/
inductive Refusal where
  | helpWanted
  | badUsage
deriving DecidableEq, Repr

/-- What the command line asks for. -/
inductive Task where
  /-- Print the statements of a script. -/
  | parse (script : String)
  /-- Bind the statements of a script. -/
  | check (script : String) (world network : Option String)
  /-- Print the reference of the commands. -/
  | commands (subsystem : Option String)
deriving DecidableEq, Repr

/-- The options for help. -/
def helpOptions : List String := ["-h", "--help"]

/-- An argument as its form has it. -/
inductive Piece where
  | operand (text : String)
  | separator
  | option (name : String) (attached : Option String)
  | unknownOption
deriving DecidableEq, Repr

/-- Whether a text is a negative number; one line break at its end is ignored. -/
def isNegativeNumber (text : List Char) : Bool :=
  match text with
  | '-' :: rest =>
    let whole := rest.takeWhile Text.isDecimalDigit
    match rest.drop whole.length with
    | [] | ['\n'] => !whole.isEmpty
    | '.' :: rest =>
      let fraction := rest.takeWhile Text.isDecimalDigit
      !fraction.isEmpty && rest.drop fraction.length ∈ [[], ['\n']]
    | _ => false
  | _ => false

/-- The text before the first equals sign and the text after it, if there is one. -/
def splitAtEquals (text : List Char) : List Char × Option (List Char) :=
  let name := text.takeWhile (· ≠ '=')
  match text.drop name.length with
  | [] => (name, none)
  | _ :: value => (name, some value)

/-- The options that an argument can mean, with the values attached to them. -/
def meanings (options : List String) (text : List Char) : List (String × Option String) :=
  match text with
  | '-' :: '-' :: _ =>
    let (name, value) := splitAtEquals text
    (options.filter fun option => name.isPrefixOf option.toList).map fun option =>
      (option, value.map String.ofList)
  | _ => options.filterMap fun option =>
    if option.toList = text.take 2 then some (option, some (String.ofList (text.drop 2)))
    else if text.isPrefixOf option.toList then some (option, none)
    else none

/-- The option that an argument names in full, with the value attached to it. -/
def namedInFull? (options : List String) (text : List Char) : Option (String × Option String) :=
  match splitAtEquals text with
  | (name, some value) =>
    if String.ofList name ∈ options then
      some (String.ofList name, some (String.ofList value))
    else none
  | (_, none) => none

/-- The form of an argument that is not two dashes, among the options of a task. -/
def classify (options : List String) (argument : String) : Except Refusal Piece :=
  let text := argument.toList
  if text.head? ≠ some '-' then .ok (.operand argument)
  else if argument ∈ options then .ok (.option argument none)
  else if text.length = 1 then .ok (.operand argument)
  else match namedInFull? options text, meanings options text with
    | some (name, attached), _ => .ok (.option name attached)
    | none, [(name, attached)] => .ok (.option name attached)
    | none, _ :: _ => .error .badUsage
    | none, [] =>
      if isNegativeNumber text || ' ' ∈ text then .ok (.operand argument) else .ok .unknownOption

/-- The forms of all arguments. -/
def pieces (options : List String) : List String → Except Refusal (List Piece)
  | [] => .ok []
  | "--" :: rest => .ok (.separator :: rest.map .operand)
  | argument :: rest => do return (← classify options argument) :: (← pieces options rest)

/-- What has been read of the arguments of a task. -/
structure Reading where
  operand : Option String := none
  values : List (String × String) := []
  excess : Bool := false

/-- The last value of an option; a value of two dashes counts as none. -/
def Reading.value? (reading : Reading) (option : String) : Option String :=
  (reading.values.reverse.lookup option).filter (· ≠ "--")

/-- Whether letters attached to the short option for help ask for help only. -/
def isHelpRepeated (attached : String) : Bool := attached ≠ "" && attached.toList.all (· = 'h')

/-- Reads an option for help, which never goes on. Only the short one can have anything attached:
more letters that ask for help, behind an equals sign or not. -/
def readHelp (name : String) : Option String → Refusal
  | none => .helpWanted
  | some attached => if name = "-h" ∧ isHelpRepeated attached then .helpWanted else .badUsage

/-- Reads the pieces after the last option: at most one operand, with separators around it. -/
def readOperands (reading : Reading) : List Piece → Except Refusal Reading
  | [] => .ok reading
  | [.separator] => if reading.operand.isNone then .ok reading else .error .badUsage
  | .separator :: rest | rest =>
    match rest with
    | [.operand text] | [.operand text, .separator] =>
      if reading.operand.isNone then .ok { reading with operand := some text } else .error .badUsage
    | _ => .error .badUsage

/-- Whether an option is among the pieces. -/
def hasOption (pieces : List Piece) : Bool :=
  pieces.any fun
    | .option .. | .unknownOption => true
    | _ => false

/-- Reads the pieces of a task. -/
def readPieces (reading : Reading) (pieces : List Piece) : Except Refusal Reading :=
  if hasOption pieces then
    match pieces with
    | .operand text :: rest =>
      if reading.operand.isNone then readPieces { reading with operand := some text } rest
      else readPieces { reading with excess := true } rest
    | .unknownOption :: rest => readPieces { reading with excess := true } rest
    | .option name attached :: rest =>
      if name ∈ helpOptions then .error (readHelp name attached)
      else match attached, rest with
        | some value, rest | none, .operand value :: rest =>
          readPieces { reading with values := reading.values ++ [(name, value)] } rest
        | none, _ => .error .badUsage
    | _ => .error .badUsage
  else readOperands reading pieces
termination_by pieces.length
decreasing_by all_goals grind

/-- Reads the arguments of a task; anything in excess is bad usage. -/
def read (options : List String) (arguments : List String) : Except Refusal Reading := do
  let reading ← readPieces {} (← pieces (helpOptions ++ options) arguments)
  if reading.excess then .error .badUsage else return reading

/-- The operand of a task that needs one. -/
def Reading.required (reading : Reading) : Except Refusal String :=
  reading.operand.elim (.error .badUsage) .ok

/-- The task of a name with its arguments. -/
def taskOf (name : String) (arguments : List String) : Except Refusal Task :=
  match name with
  | "parse" => do return .parse (← (← read [] arguments).required)
  | "check" => do
    let reading ← read ["--world", "--network"] arguments
    return .check (← reading.required) (reading.value? "--world") (reading.value? "--network")
  | "commands" => do return .commands (← read [] arguments).operand
  | _ => .error .badUsage

/-- Reads the arguments before the name of the task; `excess` says that some were not known. -/
def readTask (excess : Bool) : List Piece → List String → Except Refusal Task
  | .operand name :: _, _ :: arguments => do
    let task ← taskOf name arguments
    if excess then .error .badUsage else return task
  | .unknownOption :: pieces, _ :: arguments => readTask true pieces arguments
  | .option name attached :: _, _ => .error (readHelp name attached)
  | _, _ => .error .badUsage

/-- The task of a command line. -/
def Task.ofArguments (arguments : List String) : Except Refusal Task := do
  readTask false (← pieces helpOptions arguments) arguments

end Playbook.CommandLine
