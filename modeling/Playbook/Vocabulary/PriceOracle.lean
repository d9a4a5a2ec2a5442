import Playbook.Registry

/-! # The price oracle

The subsystem that controls a deployed price oracle: it registers the oracle, sets its reference
address and its prices by calls, gives its address and has it verified.
-/

namespace Playbook.PriceOracle

/-- The name of the subsystem, and of the contract that it controls. -/
def name : String := "PriceOracle"

/-- The registered oracle, as a parameter that is not written. -/
def oracle : Parameter := .implicit "priceOracle" (Coerce.contract name)

/-- Registers an oracle that is deployed; without a description, its kind describes it. -/
def set (world : World) (kind address : String) (description : Option String) : World :=
  let description := match description with
    | none => kind
    | some text => if text.isEmpty then kind else text
  (world.withContract ⟨name, kind, address, some description⟩).addAction
    ("Set PriceOracle (" ++ description ++ ") to address " ++ address) none

/-- Calls a method of the oracle and records the call. -/
def record (world : World) (sender : Option String) (description : String) (call : MethodCall) :
    Play Returned := do
  let receipt ← Play.invoke world call sender
  return .world (world.addAction description (some receipt))

/-- Sets a price by the method `method`: the price is shown in the record and sent encoded. -/
def setPrice (method : String) (world : World) (sender : Option String) (bound : Bound)
    (target : String) : Play Returned := do
  let (val, scale) := bound.number "amount"
  let shown ← Play.ofResult ((val.render Decimal.shownLimits).mapError .arithmetic)
  let encoded ← Play.ofResult (val.encode scale)
  record world sender ("Set price oracle price for " ++ bound.text target ++ " to " ++ shown)
    ⟨bound.contract "priceOracle", method, [.str (bound.text target), .int encoded]⟩

/-- Has the oracle verified, except on a local network. -/
def verify (world : World) (bound : Bound) : Play Returned := do
  if world.isLocalNetwork then
    Play.printLines ["Politely declining to verify on local network: " ++ world.network ++ "."]
  else
    Play.requestVerification world
      ⟨bound.text "apiKey", name, bound.text "contractName", (bound.contract "priceOracle").address⟩
  return .datum (.value .nothing)

/-- Set: registers an oracle. -/
def setCommand : Command where
  name := "Set"
  parameters :=
    [.required "kind" Coerce.string, .required "address" Coerce.address,
      .nullable "description" Coerce.string]
  handler := .mutating fun world _ bound =>
    .done (.world (set world (bound.text "kind") (bound.text "address")
      (bound.text? "description")))
  doc := "#### Set\n\n" ++
    "* \"Set <Kind> <Address> [Description]\" - " ++
    "Sets the price oracle to an already deployed contract\n" ++
    "  * E.g. \"PriceOracle Set Standard 0x... \"My Already Deployed Oracle\"\""
  wellFormed := rfl

/-- SetRefAddress: sets the reference address. -/
def setRefAddressCommand : Command where
  name := "SetRefAddress"
  parameters := [oracle, .required "ref" Coerce.address]
  handler := .mutating fun world sender bound =>
    record world sender ("Set price oracle ref address to " ++ bound.text "ref")
      ⟨bound.contract "priceOracle", "setRefAddress", [.str (bound.text "ref")]⟩
  doc := "#### SetRefAddress\n\n" ++
    "* \"SetRefAddress <RefAddress>\" - Sets the ref address for price oracle\n" ++
    "  * E.g. \"PriceOracle SetRefAddress 0x...\""
  wellFormed := rfl

/-- SetPrice: sets the price for a token. -/
def setPriceCommand : Command where
  name := "SetPrice"
  parameters := [oracle, .required "sToken" Coerce.address, .required "amount" Coerce.mantissa]
  handler := .mutating fun world sender bound =>
    setPrice "setUnderlyingPrice" world sender bound "sToken"
  doc := "#### SetPrice\n\n" ++
    "* \"SetPrice <SToken> <Amount>\" - Sets the per-ether price for the given sToken\n" ++
    "  * E.g. \"PriceOracle SetPrice sZRX 1.0\""
  wellFormed := rfl

/-- SetDirectPrice: sets the price for an address. -/
def setDirectPriceCommand : Command where
  name := "SetDirectPrice"
  parameters := [oracle, .required "address" Coerce.address, .required "amount" Coerce.mantissa]
  handler := .mutating fun world sender bound =>
    setPrice "setDirectPrice" world sender bound "address"
  doc := "#### SetDirectPrice\n\n" ++
    "* \"SetDirectPrice <Address> <Amount>\" - Sets the per-ether price for the given address\n" ++
    "  * E.g. \"PriceOracle SetDirectPrice (Address Zero) 1.0\""
  wellFormed := rfl

/-- Address: gives the address of the oracle. -/
def addressCommand : Command where
  name := "Address"
  parameters := [oracle]
  handler := .view fun _ bound =>
    .done (.datum (.value (.address (bound.contract "priceOracle").address)))
  doc := "#### Address\n\n* \"Address\" - Returns the address of the registered price oracle\n" ++
    "  * E.g. \"PriceOracle Address\""
  wellFormed := rfl

/-- Verify: has the oracle verified. -/
def verifyCommand : Command where
  name := "Verify"
  parameters :=
    [oracle, .required "apiKey" Coerce.string,
      .defaulted "contractName" Coerce.string (.string "PriceOracle")]
  handler := .view verify
  doc := "#### Verify\n\n" ++
    "* \"Verify apiKey:<String> contractName:<String>=PriceOracle\" - " ++
    "Verifies PriceOracle in Etherscan\n" ++
    "  * E.g. \"PriceOracle Verify \"myApiKey\""
  wellFormed := rfl

/-- The commands of the oracle. -/
def commands : List Command :=
  [setCommand, setRefAddressCommand, setPriceCommand, setDirectPriceCommand, addressCommand,
    verifyCommand]

/-- The subsystem of the oracle. -/
def subsystem : Subsystem := ⟨name, commands, some "Control the registered price oracle"⟩

/-- Runs a statement that starts with the name of a command of the oracle. -/
def run (world : World) (statement : Statement) (sender : Option String) : Play World :=
  subsystem.table.run world statement sender fun _ => .done (.datum .absent)

end Playbook.PriceOracle
