/-! # Tables and records

A table keeps one entry for each key, in the order in which the keys were first set.

The records that a world is made of are the handles of deployed contracts, the receipts of calls to
them, and the actions that a script has performed.
-/

namespace Playbook

/-- Entries with a key each, in order of insertion. -/
abbrev Table (α : Type) := List (String × α)

namespace Table
variable {α : Type}

/-- The entry of a key. -/
def get? (table : Table α) (key : String) : Option α :=
  match table with
  | [] => none
  | (k, entry) :: rest => if key = k then some entry else get? rest key

/-- Whether a key has an entry. -/
def contains (table : Table α) (key : String) : Bool := (table.get? key).isSome

/-- Sets the entry of a key: a key that is present keeps its place, a new one goes to the end. -/
def set (table : Table α) (key : String) (entry : α) : Table α :=
  match table with
  | [] => [(key, entry)]
  | (k, old) :: rest => if key = k then (key, entry) :: rest else (k, old) :: set rest key entry

/-- The table that results from setting pairs one after the other. -/
def ofPairs (pairs : List (String × α)) : Table α :=
  pairs.foldl (fun table (key, entry) => table.set key entry) []

/-- The keys in order. -/
def keys (table : Table α) : List String := table.map (·.1)

/-- The entry that was set last is found under its key. -/
@[simp] theorem get?_set_self (table : Table α) (key : String) (entry : α) :
    (table.set key entry).get? key = some entry := by
  induction table with
  | nil => simp [set, get?]
  | cons head rest ih =>
    by_cases same : key = head.1
    · simp [set, get?, same]
    · simp [set, get?, same, ih]

/-- Setting an entry leaves the entries of other keys as they are. -/
theorem get?_set_of_ne (table : Table α) {key other : String} (entry : α) (differ : other ≠ key) :
    (table.set key entry).get? other = table.get? other := by
  induction table with
  | nil => simp [set, get?, differ]
  | cons head rest ih =>
    by_cases same : key = head.1
    · subst same
      simp [set, get?, differ]
    · simp [set, get?, same, ih]

/-- An entry that is found stands in the table under its key. -/
theorem mem_of_get? {table : Table α} {key : String} {entry : α}
    (found : table.get? key = some entry) :
    (key, entry) ∈ table := by
  induction table with
  | nil => simp [get?] at found
  | cons head rest ih =>
    by_cases same : key = head.1
    · rw [get?, if_pos same] at found
      exact List.mem_cons.mpr (.inl (Prod.ext same (Option.some.inj found).symm))
    · rw [get?, if_neg same] at found
      exact List.mem_cons_of_mem head (ih found)

/-- Of two entries that are set under one key, the last one stays. -/
theorem set_set (table : Table α) (key : String) (first last : α) :
    (table.set key first).set key last = table.set key last := by
  induction table with
  | nil => simp [set]
  | cons head rest ih =>
    by_cases same : key = head.1
    · simp [set, same]
    · simp [set, same, ih]

/-- Setting an entry adds its key at the end, unless the key is there. -/
theorem keys_set (table : Table α) (key : String) (entry : α) :
    (table.set key entry).keys = if key ∈ table.keys then table.keys else table.keys ++ [key] := by
  induction table with
  | nil => simp [set, keys]
  | cons head rest ih =>
    by_cases same : key = head.1
    · simp [set, keys, same]
    · by_cases later : key ∈ rest.map (·.1) <;> simp_all [set, keys]

end Table

/-- The handle of a deployed contract. -/
structure Contract where
  name : String
  kind : String
  address : String
  description : Option String := none
deriving DecidableEq, Repr

/-- What came of a call. The events that a call may report are left out: no command reads them. -/
structure Receipt where
  success : Bool
  errorMessage : Option String := none
  transaction : Option String := none
deriving DecidableEq, Repr

/-- An entry of the action log. -/
structure Action where
  description : String
  receipt : Option Receipt := none
deriving DecidableEq, Repr

end Playbook
