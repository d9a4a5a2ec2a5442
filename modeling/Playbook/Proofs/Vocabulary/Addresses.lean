import Playbook.Proofs.Script.RoundTrip
import Playbook.Proofs.Vocabulary.BoundTexts

/-! # What stands for an address

An event that is read as an address has a token inside of its address tags. The token is a literal
in hexadecimal digits, or stands for no address, or names an account or a contract, whatever the
case of its letters. A literal may end with a line break, which is then part of the address that is
read.
-/

namespace Playbook

/-- The token that is left of an event when the address tags around it are taken off. -/
inductive Event.InnermostToken : Event → (token : String) → Prop where
  | atom (token : String) (quoted : Bool) : InnermostToken (.atom token quoted) token
  | tagged {tag inner : Event} {token : String} (isTag : Coerce.isWord "Address" tag)
      (more : InnermostToken inner token) : InnermostToken (.group [tag, inner]) token

/-- The digits of base sixteen, in both cases. -/
def hexDigits : List Char := "0123456789abcdefABCDEF".toList

/-- A text is 0x with one or more hexadecimal digits after it, and nothing else. -/
def IsHexAddress (text : String) : Prop :=
  ∃ digits : List Char, text.toList = '0' :: 'x' :: digits ∧ digits ≠ [] ∧
    ∀ c ∈ digits, c ∈ hexDigits

/-- A text is an address in hexadecimal digits with a line break after it. -/
def IsHexAddressLine (text : String) : Prop :=
  ∃ address, IsHexAddress address ∧ text = address ++ "\n"

/-- An account or a contract whose key equals a name up to case is registered at an address. -/
inductive Records.Registers (records : Records) (name : String) : (address : String) → Prop where
  | account {key address : String} (registered : (key, address) ∈ records.accounts)
      (same : Text.lower key = Text.lower name) : Registers records name address
  | contract {key : String} {contract : Contract} (registered : (key, contract) ∈ records.contracts)
      (same : Text.lower key = Text.lower name) : Registers records name contract.address

/-- An address that is found is registered under the name. -/
theorem Records.Registers.of_address? {records : Records} {name address : String}
    (found : records.address? name = some address) : records.Registers name address := by
  rcases Option.or_eq_some_iff.mp found with account | ⟨-, byName⟩
  · obtain ⟨key, member, same⟩ := exists_mem_of_findByName account
    exact .account member same
  · obtain ⟨contract, named, rfl⟩ := Option.map_eq_some_iff.mp byName
    obtain ⟨key, member, same⟩ := exists_mem_of_findByName named
    exact .contract member same

/-- The address that stands for none is written in hexadecimal digits. -/
theorem isHexAddress_zeroAddress : IsHexAddress zeroAddress := by
  have isDigit : '0' ∈ hexDigits := by decide
  refine ⟨List.replicate 40 '0', by decide, by decide, fun c member => ?_⟩
  rwa [List.eq_of_mem_replicate member]

/-- The line break is no hexadecimal digit. -/
theorem IsHexAddress.oneLine {text : String} (isHex : IsHexAddress text) : '\n' ∉ text.toList := by
  obtain ⟨digits, split, -, hexadecimal⟩ := isHex
  rw [split, List.mem_cons, List.mem_cons]
  rintro (wrong | wrong | member)
  · exact absurd wrong (by decide)
  · exact absurd wrong (by decide)
  · exact absurd (hexadecimal _ member) (by decide)

namespace Coerce

/-- The digits of base sixteen are listed. -/
theorem isHexDigit_iff (c : Char) : isAddressLiteral.isHexDigit c ↔ c ∈ hexDigits := by
  have code : isAddressLiteral.isHexDigit c ↔ (48 ≤ c.toNat ∧ c.toNat ≤ 57) ∨
      (97 ≤ c.toNat ∧ c.toNat ≤ 102) ∨ (65 ≤ c.toNat ∧ c.toNat ≤ 70) := by
    simp only [isAddressLiteral.isHexDigit, Char.isDigit, Bool.or_eq_true, Bool.and_eq_true,
      decide_eq_true_eq, or_assoc]
    rfl
  rw [code]
  constructor
  · intro range
    have listed : ∀ n < 103, (48 ≤ n ∧ n ≤ 57) ∨ (97 ≤ n ∧ n ≤ 102) ∨ (65 ≤ n ∧ n ≤ 70) →
        Char.ofNat n ∈ hexDigits := by decide
    rw [← Char.ofNat_toNat c]
    exact listed c.toNat (by omega) range
  · have digits : hexDigits.all fun digit => (48 ≤ digit.toNat ∧ digit.toNat ≤ 57) ∨
        (97 ≤ digit.toNat ∧ digit.toNat ≤ 102) ∨ (65 ≤ digit.toNat ∧ digit.toNat ≤ 70) := by decide
    exact fun member => of_decide_eq_true (List.all_eq_true.mp digits c member)

/-- A token is a literal if digits are left between 0x and a line break at its end. -/
theorem isAddressLiteral_iff_digits {token : String} :
    isAddressLiteral token ↔ ∃ digits, token.toList = '0' :: 'x' :: digits ∧
      Decimal.dropLineBreak digits ≠ [] ∧ ∀ c ∈ Decimal.dropLineBreak digits, c ∈ hexDigits := by
  unfold isAddressLiteral
  split
  next digits split =>
    simp only [split, Bool.and_eq_true, Bool.not_eq_true', List.isEmpty_eq_false_iff,
      List.all_eq_true, isHexDigit_iff, List.cons.injEq, true_and, exists_eq_left']
  next other =>
    refine iff_of_false Bool.false_ne_true ?_
    rintro ⟨digits, split, -⟩
    exact other digits split

/-- A literal is an address in hexadecimal digits, without a line break after it or with one. -/
theorem isAddressLiteral_iff {token : String} :
    isAddressLiteral token ↔ IsHexAddress token ∨ IsHexAddressLine token := by
  rw [isAddressLiteral_iff_digits]
  constructor
  · rintro ⟨digits, split, nonempty, hexadecimal⟩
    by_cases broken : digits.getLast? = some '\n'
    · rw [Decimal.dropLineBreak, if_pos broken] at nonempty hexadecimal
      have ended : digits.dropLast ++ ['\n'] = digits := List.dropLast_append_getLast? _ broken
      refine .inr ⟨String.ofList ('0' :: 'x' :: digits.dropLast), ?_, ?_⟩
      · exact ⟨digits.dropLast, String.toList_ofList, nonempty, hexadecimal⟩
      · apply String.toList_injective
        simp [split, ended]
    · rw [Decimal.dropLineBreak, if_neg broken] at nonempty hexadecimal
      exact .inl ⟨digits, split, nonempty, hexadecimal⟩
  · rintro (isHex | ⟨address, isHex, rfl⟩)
    · have oneLine := isHex.oneLine
      obtain ⟨digits, split, nonempty, hexadecimal⟩ := isHex
      rw [split] at oneLine
      have same : Decimal.dropLineBreak digits = digits :=
        Decimal.dropLineBreak_eq_self fun member =>
          oneLine (List.mem_cons_of_mem _ (List.mem_cons_of_mem _ member))
      exact ⟨digits, split, by rwa [same], by rwa [same]⟩
    · obtain ⟨digits, split, nonempty, hexadecimal⟩ := isHex
      have dropped : Decimal.dropLineBreak (digits ++ ['\n']) = digits := by
        rw [Decimal.dropLineBreak, List.getLast?_concat, if_pos rfl, List.dropLast_concat]
      exact ⟨digits ++ ['\n'], by simp [split], by rwa [dropped], by rwa [dropped]⟩

/-- What a token is read as: a literal as itself, and anything else, unless it stands for no
address, as the address that is registered under its name. -/
theorem addressOfToken_gives {world : World} {token : String} {value : Value}
    (reads : addressOfToken world token = .ok value) :
    ∃ account, value = .address account ∧
      (IsHexAddressLine token → account = token) ∧
      (¬ IsHexAddressLine token → IsHexAddress account ∨ world.Registers token account) := by
  unfold addressOfToken at reads
  split at reads
  next literal =>
    refine ⟨token, (Except.ok.inj reads).symm, fun _ => rfl, fun noLine => ?_⟩
    exact .inl ((isAddressLiteral_iff.mp literal).resolve_right noLine)
  next noLiteral =>
    have noLine : ¬ IsHexAddressLine token := fun line =>
      noLiteral (isAddressLiteral_iff.mpr (.inr line))
    split at reads
    · exact ⟨zeroAddress, (Except.ok.inj reads).symm, fun line => absurd line noLine,
        fun _ => .inl isHexAddress_zeroAddress⟩
    · rw [Records.resolveAddress] at reads
      cases found : world.address? token with
      | none =>
          rw [found] at reads
          cases reads
      | some account =>
          rw [found] at reads
          exact ⟨account, (Except.ok.inj reads).symm, fun line => absurd line noLine,
            fun _ => .inr (.of_address? found)⟩

/-- The address of an event is the one of its innermost token. -/
theorem addressOfEvent_gives {world : World} {event : Event} {value : Value}
    (reads : addressOfEvent world event = .ok value) :
    ∃ token, event.InnermostToken token ∧ addressOfToken world token = .ok value := by
  fun_induction addressOfEvent world event with
  | case1 token quoted => exact ⟨token, .atom token quoted, reads⟩
  | case2 tag inner isTag ih =>
      obtain ⟨token, innermost, read⟩ := ih reads
      exact ⟨token, .tagged isTag innermost, read⟩
  | case3 tag inner notTag => cases reads
  | case4 items notPair => cases reads

end Coerce

/-- **Addresses.** What an event is read as is an address in hexadecimal digits, or the address of
an account or a contract whose key equals the innermost token of the event up to case, unless this
token is an address in hexadecimal digits with a line break after it: then the event is read as the
token with its line break. -/
theorem address_of_reads {world : World} {event : Event} {datum : Datum}
    (reads : Coerce.address world (some event) = .ok datum) :
    ∃ token account, event.InnermostToken token ∧ datum = .value (.address account) ∧
      (IsHexAddressLine token → account = token) ∧
      (¬ IsHexAddressLine token → IsHexAddress account ∨ world.Registers token account) := by
  obtain ⟨content, value, same, read, rfl⟩ := Coerce.ofEvent_eq_ok reads
  obtain rfl := Option.some.inj same
  obtain ⟨token, innermost, found⟩ := Coerce.addressOfEvent_gives read
  obtain ⟨account, rfl, line, noLine⟩ := Coerce.addressOfToken_gives found
  exact ⟨token, account, innermost, rfl, line, noLine⟩

/-- Inside of two tags, an alias in other letters stands for the address of its account. -/
theorem address_of_reads_alias :
    ∃ token account,
      Coerce.address { accounts := [("Root", "wallet 5")] }
          (some (.group [.bare "address", .group [.bare "ADDRESS", .quoted "rOOt"]])) =
        .ok (.value (.address account)) ∧
      Event.InnermostToken
        (.group [.bare "address", .group [.bare "ADDRESS", .quoted "rOOt"]]) token ∧
      token = "rOOt" ∧ ¬ IsHexAddressLine token ∧
      (IsHexAddress account ∨
        Records.Registers { accounts := [("Root", "wallet 5")] } token account) := by
  have reads : Coerce.address { accounts := [("Root", "wallet 5")] }
      (some (.group [.bare "address", .group [.bare "ADDRESS", .quoted "rOOt"]])) =
        .ok (.value (.address "wallet 5")) := rfl
  obtain ⟨token, account, innermost, same, -, noLine⟩ := address_of_reads reads
  obtain rfl := Value.address.inj (Datum.value.inj same)
  have isToken : token = "rOOt" := by
    cases innermost with
    | tagged _ inner => cases inner with
      | tagged _ inner => cases inner; rfl
  have isName : ¬ IsHexAddressLine token := by
    rintro ⟨address, ⟨digits, split, -⟩, rfl⟩
    have first := congrArg String.toList isToken
    rw [String.toList_append, split] at first
    exact absurd (List.cons.inj first).1 (by decide)
  exact ⟨token, "wallet 5", reads, innermost, isToken, isName, noLine isName⟩

/-- A literal with a line break, which a script can write with an escape, is read with the break. -/
theorem not_isHexAddress_of_reads :
    ¬ ∀ (text : String) (statements : List Statement), Script.parse text = .ok statements →
        ∀ statement ∈ statements, ∀ event, Event.OccursIn event statement.items →
          ∀ (world : World) (account : String),
            Coerce.address world (some event) = .ok (.value (.address account)) →
            ∃ token, event.InnermostToken token ∧
              (IsHexAddress account ∨ world.Registers token account) := by
  intro wellFormed
  obtain ⟨token, innermost, hex | registered⟩ :=
    wellFormed "\"0x12\\n\"" [⟨[.quoted "0x12\n"], some 1⟩] rfl _ (List.mem_singleton_self _)
      (.quoted "0x12\n") (.item (List.mem_singleton_self _)) {} "0x12\n" rfl
  · exact hex.oneLine (by decide)
  · generalize "0x12\n" = account at registered
    cases registered with
    | account registered => exact absurd registered List.not_mem_nil
    | contract registered => exact absurd registered List.not_mem_nil

end Playbook
