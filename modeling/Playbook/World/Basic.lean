import Playbook.Text.Lowercase
import Playbook.Value.Encoded
import Playbook.World.Printer

/-! # Worlds

A world is everything a command may read: the records it works on, and the collaborators that carry
out calls, verify contracts and print. A command never changes a world; it makes a new one.

Contracts and accounts are found by name, whatever the case. Where an account and a contract have
one name, the account wins; a contract whose name is written exactly wins over the others.
-/

namespace Playbook

/-- The records of a world. -/
structure Records where
  network : String := "development"
  accounts : Table String := []
  contracts : Table Contract := []
  actions : List Action := []
  readOnly : Bool := false
deriving DecidableEq, Repr

/-- A method of a contract with its arguments. -/
structure MethodCall where
  contract : Contract
  method : String
  arguments : List Encoded := []
deriving Repr

/-- A call as a message names it. -/
def MethodCall.describe (call : MethodCall) : String :=
  call.contract.name ++ "." ++ call.method ++
    "(" ++ ", ".intercalate (call.arguments.map (·.text)) ++ ")"

/-- A contract that is to be verified with the key of a verification service. -/
structure Verification where
  apiKey : String
  contractKind : String
  contractName : String
  address : String
deriving DecidableEq, Repr

/-- What a run asks of its collaborators. -/
inductive Request where
  | call (call : MethodCall) (sender : Option String)
  | verification (verification : Verification)
deriving Repr

/-- Why a collaborator gives no answer. -/
inductive Trouble where
  /-- The collaborator raised an error of its own. -/
  | error (error : ScriptError)
  /-- The collaborator failed with an exception of the named kind. -/
  | crash (kind text : String)
deriving DecidableEq, Repr

/-- The collaborator that carries out calls. Its answer may depend on the records of the world and
on all that was asked before. -/
structure Invoker where
  answer : Records → (earlier : List Request) → MethodCall → (sender : Option String) →
    Except Trouble Receipt

/-- The collaborator that verifies contracts. -/
structure Verifier where
  answer : Records → (earlier : List Request) → Verification → Except Trouble Unit

/-- The records with the collaborators. -/
structure World extends Records where
  printer : Printer := {}
  invoker : Option Invoker := none
  verifier : Option Verifier := none

/-- The networks on which nothing is verified. -/
def localNetworks : List String := ["development", "test", "coverage"]

namespace Records

/-- Whether the network is a local one. -/
def isLocalNetwork (records : Records) : Bool := records.network ∈ localNetworks

/-- The account that acts when a script names none: Root, or else the first one. -/
def defaultSender (records : Records) : Option String :=
  match records.accounts.find? fun (account, _) => Text.lower account = "root" with
  | some (_, address) => some address
  | none => records.accounts.head?.map (·.2)

/-- The last action. -/
def lastAction (records : Records) : Option Action := records.actions.getLast?

/-- The first entry whose key equals a name up to case. -/
def findByName {α : Type} (table : Table α) (name : String) : Option α :=
  (table.find? fun (key, _) => Text.lower key = Text.lower name).map (·.2)

/-- The contract of a name. -/
def contract? (records : Records) (name : String) : Option Contract :=
  (records.contracts.get? name).or (findByName records.contracts name)

/-- The address of an account or a contract. -/
def address? (records : Records) (name : String) : Option String :=
  (findByName records.accounts name).or ((findByName records.contracts name).map (·.address))

/-- The contract of a name, or the error that there is none. -/
def resolveContract (records : Records) (name : String) : Except Cause Contract :=
  (records.contract? name).elim (.error (.lookup name "contract")) .ok

/-- The address of a name, or the error that there is none. -/
def resolveAddress (records : Records) (name : String) : Except Cause String :=
  (records.address? name).elim (.error (.lookup name "address")) .ok

end Records

namespace World

/-- The world with one more action. -/
def addAction (world : World) (description : String) (receipt : Option Receipt) : World :=
  { world with actions := world.actions ++ [⟨description, receipt⟩] }

/-- The world with a contract registered under its name. -/
def withContract (world : World) (contract : Contract) : World :=
  { world with contracts := world.contracts.set contract.name contract }

/-- The world in which no contract may be called. -/
def asReadOnly (world : World) : World := { world with readOnly := true }

end World
end Playbook
