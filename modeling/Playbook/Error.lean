import Playbook.Script.Malformed
import Playbook.World.Record

/-! # Errors of scripts

An error has a cause and a context. The cause says what went wrong; the context says where, and is
filled in as the error travels outward: what was noted closer to the fault is never overwritten.
-/

namespace Playbook

/-- What a handler did that its kind of command does not allow. -/
inductive Breach where
  /-- A command that must return a world returned something else. -/
  | notWorld (command returned : String)
  /-- A mutating command changed the log otherwise than by one new action. -/
  | notOneAction (command : String) (added : Int)
  /-- A view returned a world. -/
  | viewOfWorld (command : String)
  /-- A view returned something that is no value. -/
  | viewOfNothing (command returned : String)
  /-- A value was asked of a command that is not a view. -/
  | notView (command : String)
  /-- A view tried to call a contract. -/
  | callFromView (call : String)
  /-- A breach told in words. -/
  | stated (reason : String)
deriving DecidableEq, Repr

/-- The wording of a breach. -/
def Breach.message : Breach → String
  | notWorld command returned => command ++ " must return a World, got " ++ returned
  | notOneAction command added =>
    command ++ " must append exactly one action (appended " ++ toString added ++ ")"
  | viewOfWorld command => "view " ++ command ++ " must return a Value, not a World"
  | viewOfNothing command returned => "view " ++ command ++ " must return a Value, got " ++ returned
  | notView command => command ++ " is not a view"
  | callFromView call => call ++ " attempted from a view"
  | stated reason => reason

/-- What is wrong with a declaration. -/
inductive Misdeclaration where
  /-- An implicit parameter is also variadic, nullable or defaulted. -/
  | implicitWithModifiers (parameter : String)
  /-- A parameter is mapped but not variadic. -/
  | mappedNotVariadic (parameter : String)
  /-- A default is not a value. -/
  | defaultNotValue (parameter : String)
  /-- Two parameters of a command have one name. -/
  | duplicateParameter (command parameter : String)
  /-- A variadic parameter is not the last. -/
  | variadicNotLast (command parameter : String)
  /-- A subsystem of the same name is registered. -/
  | registeredTwice (subsystem : String)
  /-- Several commands of a subsystem have one name. -/
  | duplicateCommands (subsystem : String) (names : List String)
  /-- A fault told in words. -/
  | stated (reason : String)
deriving DecidableEq, Repr

/-- The wording of a fault in a declaration. -/
def Misdeclaration.message : Misdeclaration → String
  | implicitWithModifiers parameter =>
    "implicit argument " ++ Text.quote parameter ++ " cannot be variadic, nullable or defaulted"
  | mappedNotVariadic parameter =>
      "argument " ++ Text.quote parameter ++ " is mapped but not variadic"
  | defaultNotValue parameter => "default for " ++ Text.quote parameter ++ " must be a Value"
  | duplicateParameter command parameter =>
      command ++ ": duplicate argument " ++ Text.quote parameter
  | variadicNotLast command parameter =>
    command ++ ": variadic argument " ++ Text.quote parameter ++ " must be last"
  | registeredTwice subsystem => "subsystem " ++ Text.quote subsystem ++ " registered twice"
  | duplicateCommands subsystem names =>
    "subsystem " ++ Text.quote subsystem ++ " declares " ++ ", ".intercalate names ++
      " more than once"
  | stated reason => reason

/-- What is wrong with a configuration. -/
inductive Misconfiguration where
  /-- The file that was named does not exist. -/
  | notFound (path : String)
  /-- The file is not JSON. -/
  | notJson (path fault : String)
  /-- The file does not have the shape of a configuration; `place` leads to the fault. -/
  | wrongShape (path place fault : String)
  /-- A fault told in words. -/
  | stated (reason : String)
deriving DecidableEq, Repr

/-- The wording of a fault in a configuration. -/
def Misconfiguration.message : Misconfiguration → String
  | notFound path => "world config not found: " ++ path
  | notJson path fault => "invalid JSON in " ++ path ++ ": " ++ fault
  | wrongShape path place fault => "invalid world config " ++ path ++ ": " ++ place ++ ": " ++ fault
  | stated reason => reason

/-- The causes of errors. -/
inductive Cause where
  /-- A failure that a handler or a collaborator tells in words. -/
  | general (reason : String)
  /-- A script or a statement has the wrong shape. -/
  | malformed (fault : Script.Malformed)
  /-- A command is not in the table it was sought in. -/
  | unknownCommand (name : String) (subsystem : Option String)
  /-- The head of a statement names neither a subsystem nor a core command. -/
  | unknownSubsystem (name : String)
  /-- An argument that is required is not there. -/
  | missingArgument (name : String)
  /-- Arguments are left over after the last parameter. -/
  | extraArguments (tokens : List String)
  /-- An event is not of the kind that was expected. -/
  | coercion (expected received : String)
  /-- A name is not registered. -/
  | lookup (name what : String)
  /-- A call or a verification failed. -/
  | invocation (description : String) (errorMessage : Option String) (receipt : Option Receipt)
  /-- A handler broke the rules of its command. -/
  | handler (breach : Breach)
  /-- A declaration is not acceptable. -/
  | declaration (fault : Misdeclaration)
  /-- A configuration is not acceptable. -/
  | configuration (fault : Misconfiguration)
deriving DecidableEq, Repr

namespace Cause

/-- The kind of a cause, with which every error text starts. -/
def kind : Cause → String
  | general .. => "scenario_error"
  | malformed .. => "malformed_script"
  | unknownCommand .. => "unknown_command"
  | unknownSubsystem .. => "unknown_subsystem"
  | missingArgument .. => "missing_argument"
  | extraArguments .. => "extra_arguments"
  | coercion .. => "coercion_error"
  | lookup .. => "lookup_error"
  | invocation .. => "invocation_failure"
  | handler .. => "handler_contract"
  | declaration .. => "command_declaration"
  | configuration .. => "config_error"

/-- A text that is left out when it is missing or empty. -/
def optional (text : Option String) (wrap : String → String) : String :=
  match text with
  | none => ""
  | some text => if text.isEmpty then "" else wrap text

/-- The wording of a cause. -/
def message : Cause → String
  | general reason => reason
  | malformed fault => fault.message
  | unknownCommand name subsystem =>
    "found unknown " ++ optional subsystem (· ++ " ") ++ "command " ++ Text.quote name
  | unknownSubsystem name => "no subsystem or core command named " ++ Text.quote name
  | missingArgument name => "missing required argument " ++ Text.quote name
  | extraArguments tokens => "unexpected trailing arguments: " ++ " ".intercalate tokens
  | coercion expected received => "expected " ++ expected ++ ", received " ++ Text.quote received
  | lookup name what => "could not resolve " ++ what ++ " " ++ Text.quote name
  | invocation description errorMessage _ =>
    description ++ " failed" ++ optional errorMessage (": " ++ ·)
  | handler breach => breach.message
  | declaration fault => fault.message
  | configuration fault => fault.message

end Cause

/-- A note without a place in the location of an error. -/
inductive Remark where
  | text (text : String)
  | number (number : Int)
  | flag (flag : Bool)
deriving DecidableEq, Repr

/-- Where an error arose, as far as it is known. -/
structure Context where
  subsystem : Option String := none
  command : Option String := none
  argument : Option String := none
  position : Option Nat := none
  token : Option String := none
  line : Option Nat := none
  remarks : Table Remark := []
deriving DecidableEq, Repr

namespace Context

/-- Fills in what is not yet known. -/
def annotate (context notes : Context) : Context where
  subsystem := context.subsystem.or notes.subsystem
  command := context.command.or notes.command
  argument := context.argument.or notes.argument
  position := context.position.or notes.position
  token := context.token.or notes.token
  line := context.line.or notes.line
  remarks := context.remarks ++ notes.remarks.filter fun (key, _) => !context.remarks.contains key

/-- The argument and its position. -/
def argumentPlace (context : Context) : Option String :=
  context.argument.map fun argument =>
    let position := (context.position.map fun position => "#" ++ toString position).getD ""
    "<" ++ argument ++ position ++ ">"

/-- The location of an error on one line: line, subsystem, command and argument. -/
def location (context : Context) : String :=
  " ".intercalate <|
    (context.line.map fun line => "line " ++ toString line).toList ++ context.subsystem.toList ++
      context.command.toList ++ context.argumentPlace.toList

end Context

/-- An error as it is reported to the author of a script. -/
structure ScriptError where
  cause : Cause
  context : Context
deriving DecidableEq, Repr

/-- What a cause says by itself about the place of an error. -/
def Cause.ownContext : Cause → Context
  | coercion _ received => { token := some received }
  | unknownCommand _ subsystem => { subsystem }
  | _ => {}

/-- The error that a cause gives rise to. -/
def Cause.error (cause : Cause) : ScriptError := ⟨cause, cause.ownContext⟩

namespace ScriptError

/-- Fills in context that is not yet known. -/
def annotate (error : ScriptError) (notes : Context) : ScriptError :=
  { error with context := error.context.annotate notes }

/-- The text of an error: its kind, its wording and its location. -/
def message (error : ScriptError) : String :=
  let location := error.context.location
  let text := error.cause.kind ++ ": " ++ error.cause.message
  if location.isEmpty then text else text ++ " [" ++ location ++ "]"

end ScriptError
end Playbook
