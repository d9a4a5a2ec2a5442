import Playbook.Configuration
import Playbook.Proofs.Engine.Oracle

/-! # Looking up contracts

A contract is looked up in two ways, as itself and by its address. Both take the case of letters
lightly, but only the first prefers the contract whose name is written exactly. The two agree on a
name unless the first contract that has it up to case is not the one that has it exactly, and is at
another address. Scripts add no name but that of the oracle, so that in a world whose configuration
has no contracts with similar names the two always agree.
-/

namespace Playbook

/-- A key with an entry is one of the keys. -/
theorem Table.mem_keys_of_get? {α : Type} {table : Table α} {key : String} {entry : α}
    (found : table.get? key = some entry) : key ∈ table.keys :=
  List.mem_map_of_mem (mem_of_get? found)

namespace Records

/-- An entry under a name is found by the name. -/
theorem isSome_findByName_of_get? {α : Type} {table : Table α} {name : String} {entry : α}
    (found : table.get? name = some entry) : (findByName table name).isSome :=
  isSome_findByName_iff.mpr ⟨name, Table.mem_keys_of_get? found, rfl⟩

/-- Where no other key equals a name up to case, its exact spelling makes no difference. -/
theorem findByName_eq_get? {α : Type} {table : Table α} {name : String}
    (alone : ∀ key ∈ table.keys, Text.lower key = Text.lower name → key = name) :
    findByName table name = table.get? name := by
  induction table with
  | nil => rfl
  | cons head rest ih =>
      rw [Table.keys, List.map_cons, List.forall_mem_cons] at alone
      obtain ⟨first, others⟩ := alone
      by_cases same : name = head.1
      · simp [findByName, Table.get?, same]
      · have differ : Text.lower head.1 ≠ Text.lower name := fun similar =>
          same (first similar).symm
        simpa [findByName, Table.get?, same, differ] using ih others

/-- A name stands for a contract and its address, or for neither. -/
def LookupsAgree (records : Records) (name : String) : Prop :=
  (∃ contract, records.resolveContract name = .ok contract ∧
    records.resolveAddress name = .ok contract.address) ∨
  records.resolveContract name = .error (.lookup name "contract") ∧
    records.resolveAddress name = .error (.lookup name "address")

/-- The two ways to look up a contract part where one contract has a name exactly, and an earlier
one, at another address, has it up to case. -/
theorem lookupsAgree_iff {records : Records} {name : String}
    (noAccount : ∀ account ∈ records.accounts.keys, Text.lower account ≠ Text.lower name) :
    records.LookupsAgree name ↔
      ∀ first exact, findByName records.contracts name = some first →
        records.contracts.get? name = some exact → first.address = exact.address := by
  have notAccount : findByName records.accounts name = none := by
    rw [← Option.not_isSome_iff_eq_none, isSome_findByName_iff]
    rintro ⟨account, member, same⟩
    exact noAccount account member same
  unfold LookupsAgree resolveContract resolveAddress contract? address?
  rw [notAccount, Option.none_or]
  cases exactly : records.contracts.get? name with
  | none => cases findByName records.contracts name <;> simp
  | some exact =>
      obtain ⟨first, byName⟩ := Option.isSome_iff_exists.mp (isSome_findByName_of_get? exactly)
      simp [byName]

end Records

namespace Engine

/-- The worlds that runs of scripts make of a world, each run going on where another has succeeded.
-/
inductive CanReach (engine : Engine) (world : World) : World → Prop
  | refl : engine.CanReach world world
  | run {before after : World} {text : String} {sender : Option String} {earlier : List Request}
      (reached : engine.CanReach world before)
      (succeeds : ((engine.runScript before text sender).run earlier).result = .ok after) :
      engine.CanReach world after

variable {world after : World}

/-- However many scripts are run, they register oracles and add actions, and nothing else. -/
theorem CanReach.onlyRegisters (reached : standard.CanReach world after) :
    ∃ oracle, world.OnlyRegisters oracle after := by
  induction reached with
  | refl => exact ⟨none, .refl world⟩
  | @run before after text sender earlier _ succeeds ih =>
      obtain ⟨oracle, registers⟩ := ih
      cases parsed : Script.parse text with
      | error fault =>
          simp only [runScript, parsed] at succeeds
          cases succeeds
      | ok statements =>
          simp only [runScript, parsed] at succeeds
          exact ⟨_, registers.trans (onlyRegisters_of_processAll succeeds)⟩

/-- Scripts add no name of a contract but that of the oracle. -/
theorem CanReach.mem_keys (reached : standard.CanReach world after) {key : String}
    (member : key ∈ after.contracts.keys) : key ∈ PriceOracle.name :: world.contracts.keys := by
  obtain ⟨oracle, registers⟩ := reached.onlyRegisters
  rw [registers.contracts] at member
  cases oracle with
  | none => exact List.mem_cons_of_mem _ member
  | some oracle =>
      rw [Option.elim, Table.keys_set] at member
      split at member
      · exact List.mem_cons_of_mem _ member
      · simpa [or_comm] using member

/-- **The two lookups.** In a world that scripts make of a configured one, a name that no account
has stands for a contract and its address, or for neither, unless a contract has the name exactly
and another one, which comes before it and is at another address, has it up to case. This cannot
happen where the names in the configuration and the name of the oracle do not differ in case only.
-/
theorem lookupsAgree_iff_of_canReach (configuration : Configuration) (network : Option String)
    (printer : Printer) (invoker : Option Invoker) (verifier : Option Verifier) (world : World)
    (reached :
      standard.CanReach { configuration.world network printer with invoker, verifier } world)
    (name : String)
    (noAccount : ∀ account ∈ world.accounts.keys, Text.lower account ≠ Text.lower name) :
    (world.LookupsAgree name ↔
      ∀ first exact, Records.findByName world.contracts name = some first →
        world.contracts.get? name = some exact → first.address = exact.address) ∧
    ((∀ key ∈ PriceOracle.name :: configuration.contracts.keys,
      ∀ other ∈ PriceOracle.name :: configuration.contracts.keys,
        Text.lower key = Text.lower other → key = other) →
      world.LookupsAgree name) := by
  have iff := Records.lookupsAgree_iff noAccount
  refine ⟨iff, fun toldApart => iff.mpr fun first exact byName exactly => ?_⟩
  have configured {key : String} (member : key ∈ world.contracts.keys) :
      key ∈ PriceOracle.name :: configuration.contracts.keys := by
    simpa [Configuration.world, Table.keys] using reached.mem_keys member
  have present := configured (Table.mem_keys_of_get? exactly)
  have same := Records.findByName_eq_get? fun key member =>
    toldApart key (configured member) name present
  rw [same, exactly] at byName
  rw [Option.some.inj byName]

/-- A configuration with a contract whose name differs from that of the oracle in case. -/
def crowdedConfiguration : Configuration where
  accounts := [("Root", "0x5")]
  contracts := [("priceoracle", ⟨"Old", "0x8", none⟩)]

/-- The configuration makes the world. -/
theorem world_crowdedConfiguration : crowdedConfiguration.world none {} = crowdedWorld := rfl

/-- A script registers the oracle in its world. -/
theorem canReach_newWorld : standard.CanReach crowdedWorld newWorld := by
  have parsed : Script.parse "From Root PriceOracle Set New 0x7" = .ok [setsOracle] := rfl
  have ran : ((standard.process crowdedWorld setsOracle none).run []).result = .ok newWorld :=
    congrArg (·.result) observe_setsOracle
  have succeeds : ((standard.runScript crowdedWorld "From Root PriceOracle Set New 0x7" none).run
      []).result = .ok newWorld := by
    simp only [runScript, parsed, processAll]
    rw [Play.run_bind_of_ok ran]
    rfl
  exact .run .refl succeeds

/-- Once the oracle is registered, its exact name stands for one contract and for the address of
another; written differently, it stands for one contract only. The default configuration has no such
names. -/
theorem lookupsAgree_iff_of_canReach_crowded :
    standard.CanReach (crowdedConfiguration.world none {}) newWorld ∧
      newWorld.LookupsAgree "PRICEORACLE" ∧ ¬newWorld.LookupsAgree "PriceOracle" ∧
      (Configuration.world {} none {}).LookupsAgree "PriceOracle" := by
  have reached : standard.CanReach (crowdedConfiguration.world none {}) newWorld := by
    rw [world_crowdedConfiguration]
    exact canReach_newWorld
  have agree (name : String) (noAccount : Text.lower "Root" ≠ Text.lower name) :
      newWorld.LookupsAgree name ↔ _ :=
    (lookupsAgree_iff_of_canReach crowdedConfiguration none {} none none newWorld reached name
      (List.forall_mem_singleton.mpr noAccount)).1
  refine ⟨reached, (agree _ (by decide)).mpr ?_, fun agrees => ?_, ?_⟩
  · intro first exact byName exactly
    cases exactly
  · exact absurd ((agree _ (by decide)).mp agrees _ _ rfl rfl) (by decide)
  · exact (lookupsAgree_iff_of_canReach {} none {} none none _ .refl "PriceOracle"
      (List.forall_mem_nil _)).2 (by simp [Table.keys])

/-- A configuration of two contracts whose names differ in case. -/
def similarNames : Configuration where
  contracts := [("priceoracle", ⟨"Old", "0x1", none⟩), ("PriceOracle", ⟨"New", "0x2", none⟩)]

/-- Its world gives for one name one contract and the address of the other. -/
theorem not_lookupsAgree_similarNames :
    ¬∀ (configuration : Configuration) (network : Option String) (printer : Printer)
        (invoker : Option Invoker) (verifier : Option Verifier) (world : World),
      standard.CanReach { configuration.world network printer with invoker, verifier } world →
        ∀ name, (∀ account ∈ world.accounts.keys, Text.lower account ≠ Text.lower name) →
          world.LookupsAgree name := by
  intro agree
  have agrees := agree similarNames none {} none none _ .refl "PriceOracle" (List.forall_mem_nil _)
  have found : (similarNames.world none {}).resolveContract "PriceOracle" =
      .ok ⟨"PriceOracle", "New", "0x2", none⟩ := by rfl
  have address : (similarNames.world none {}).resolveAddress "PriceOracle" = .ok "0x1" := by rfl
  rcases agrees with ⟨contract, foundAgain, addressAgain⟩ | ⟨missing, -⟩
  · obtain rfl := Except.ok.inj (found.symm.trans foundAgain)
    exact absurd (Except.ok.inj (address.symm.trans addressAgain)) (by decide)
  · cases found.symm.trans missing

end Engine
end Playbook
