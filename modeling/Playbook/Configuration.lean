import Playbook.Json.Reader
import Playbook.Surroundings
import Playbook.World.Basic

/-! # Configuration of worlds

A world is configured by a JSON file: the network, the accounts and the contracts. The file is the
one named by an option, else the one named by the environment, else the one in the current directory
if it exists; without a file the defaults hold. The network may be overridden by an option or by the
environment. Names that are empty count as missing.
-/

namespace Playbook

/-- What a configuration says about a contract. -/
structure ContractSettings where
  kind : String
  address : String
  description : Option String := none
deriving DecidableEq, Repr

/-- A configuration. -/
structure Configuration where
  network : String := "development"
  accounts : Table String := []
  contracts : Table ContractSettings := []
deriving DecidableEq, Repr

/-- Why a document is no configuration. -/
inductive Misshape where
  | notText
  | notObject
  | notRecord (name : String)
  | missing
deriving DecidableEq, Repr

/-- The wording of a reason. -/
def Misshape.message : Misshape → String
  | notText => "Input should be a valid string"
  | notObject => "Input should be a valid dictionary"
  | notRecord name => "Input should be a valid dictionary or instance of " ++ name
  | missing => "Field required"

/-- A reason and the way to the value that is at fault. -/
structure ShapeFault where
  path : List String
  reason : Misshape
deriving DecidableEq, Repr

/-- Why no configuration was read: the reading broke off, or what was read is not acceptable. -/
inductive LoadFailure where
  | brokenOff (breakdown : Breakdown)
  | refused (fault : Misconfiguration)
deriving DecidableEq, Repr

namespace Configuration

/-- A value that must be a text. -/
def text (path : List String) : JsonValue → Except ShapeFault String
  | .string text => .ok text
  | _ => .error ⟨path, .notText⟩

/-- A member that must be there and be a text. -/
def requiredText (path : List String) (members : Table JsonValue) (key : String) :
    Except ShapeFault String :=
  match members.get? key with
  | none => .error ⟨path ++ [key], .missing⟩
  | some value => text (path ++ [key]) value

/-- A member that may be missing or null and is a text otherwise. -/
def optionalText (path : List String) (members : Table JsonValue) (key : String) :
    Except ShapeFault (Option String) :=
  match members.get? key with
  | none | some .null => .ok none
  | some value => some <$> text (path ++ [key]) value

/-- A member that is an object, each of whose members is read alike; empty if it is missing. -/
def table {α : Type} (members : Table JsonValue) (key : String)
    (read : List String → JsonValue → Except ShapeFault α) : Except ShapeFault (Table α) :=
  match members.get? key with
  | none => .ok []
  | some (.object entries) =>
    entries.mapM fun (name, value) => (read [key, name] value).map (name, ·)
  | some _ => .error ⟨[key], .notObject⟩

/-- Reads what is said about a contract. -/
def contract (path : List String) : JsonValue → Except ShapeFault ContractSettings
  | .object members => do
    return {
      kind := ← requiredText path members "kind"
      address := ← requiredText path members "address"
      description := ← optionalText path members "description" }
  | _ => .error ⟨path, .notRecord "ContractConfig"⟩

/-- Reads a document; members that are not known are ignored. -/
def ofJson : JsonValue → Except ShapeFault Configuration
  | .object members => do
    return {
      network := ← (Table.get? members "network").elim (.ok "development") (text ["network"])
      accounts := ← table members "accounts" text
      contracts := ← table members "contracts" contract }
  | _ => .error ⟨[], .notRecord "WorldConfig"⟩

/-- The place of the default file under the current directory. -/
def defaultParts : List String := [".scenario", "world.json"]

/-- The file that the configuration is read from, if there is one. -/
def path? (surroundings : Surroundings) (named : Option String) : Option FilePath :=
  match (nonempty? named).or (nonempty? surroundings.worldFile) with
  | some text => some (FilePath.ofString text)
  | none =>
    let path := surroundings.directory.join defaultParts
    if surroundings.look path = .nothing then none else some path

/-- Reads the text of the configuration file `name`. -/
def ofText (name : String) (text : List Char) : Except LoadFailure Configuration :=
  match Json.parse text with
  | .error (.beyond limit) => .error (.brokenOff (.beyondLimit limit))
  | .error (.misspelled reason offset) =>
    .error (.refused (.notJson name (reason.messageAt offset text)))
  | .ok document =>
    (ofJson document).mapError fun fault =>
      .refused (.wrongShape name (".".intercalate fault.path) fault.reason.message)

/-- Reads the configuration of a file, or the default one. -/
def load (surroundings : Surroundings) : Option FilePath → Except LoadFailure Configuration
  | none => .ok {}
  | some path =>
    match surroundings.read? path with
    | .error breakdown => .error (.brokenOff breakdown)
    | .ok none => .error (.refused (.notFound path.toString))
    | .ok (some text) => ofText path.toString text

/-- The network to use. -/
def networkFor (configuration : Configuration) (surroundings : Surroundings)
    (named : Option String) :
    String :=
  ((nonempty? named).or (nonempty? surroundings.network)).getD configuration.network

/-- The world that a configuration describes, on the named network or on its own. -/
def world (configuration : Configuration) (network : Option String) (printer : Printer) :
    World where
  network := (nonempty? network).getD configuration.network
  accounts := configuration.accounts
  contracts := configuration.contracts.map fun (name, settings) =>
    (name, ⟨name, settings.kind, settings.address, settings.description⟩)
  printer := printer

end Configuration
end Playbook
