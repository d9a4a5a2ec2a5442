import Playbook.Proofs.Script.Grammar

/-! # Written events are read back

The written form of an event is read back as that event, quotation included, as long as no token in
it has a line break. A quoted token can have one, since there is an escape for it; but tokens are
written with no other escapes than those of marks and backslashes, and a string must not run over a
line end.
-/

namespace Playbook

namespace Event

mutual

/-- The atoms of an event from left to right: the token of each and whether it is quoted. -/
def atoms : Event → List (String × Bool)
  | .atom token quoted => [(token, quoted)]
  | .group items => atomsOfItems items

/-- The atoms of a sequence from left to right. -/
def atomsOfItems : List Event → List (String × Bool)
  | [] => []
  | item :: items => item.atoms ++ atomsOfItems items

end

/-- An event is among the items of a sequence, or in a group that is, at any depth. -/
inductive OccursIn (event : Event) : List Event → Prop
  | item {items : List Event} (member : event ∈ items) : OccursIn event items
  | inside {group items : List Event} (member : .group group ∈ items)
      (occurs : OccursIn event group) : OccursIn event items

/-- Every atom that is not quoted can stand without quotation marks. -/
def IsReadable (atoms : List (String × Bool)) : Prop :=
  ∀ token, (token, false) ∈ atoms → isBareToken token.toList

/-- Some token has a line break. -/
def HasLineBreak (atoms : List (String × Bool)) : Prop :=
  ∃ atom ∈ atoms, '\n' ∈ atom.1.toList

instance (atoms : List (String × Bool)) : Decidable (HasLineBreak atoms) :=
  inferInstanceAs (Decidable (∃ atom ∈ atoms, '\n' ∈ atom.1.toList))

/-- The atoms of an item are atoms of the sequence. -/
theorem atoms_subset_of_mem {event : Event} {items : List Event} (member : event ∈ items) :
    event.atoms ⊆ atomsOfItems items := by
  induction items with
  | nil => cases member
  | cons item items ih =>
      rcases List.mem_cons.mp member with rfl | later
      · exact List.subset_append_left _ _
      · exact List.subset_append_of_subset_right _ (ih later)

/-- The atoms of an event at any depth are atoms of the sequence. -/
theorem OccursIn.atoms_subset {event : Event} {items : List Event} (occurs : event.OccursIn items) :
    event.atoms ⊆ atomsOfItems items := by
  induction occurs with
  | item member => exact atoms_subset_of_mem member
  | @inside group items member _ ih =>
      have inside : (Event.group group).atoms ⊆ atomsOfItems items := atoms_subset_of_mem member
      exact List.Subset.trans ih inside

/-- Atoms are readable in two parts. -/
theorem IsReadable.append {first second : List (String × Bool)} :
    IsReadable (first ++ second) ↔ IsReadable first ∧ IsReadable second := by
  simp only [IsReadable, List.mem_append, or_imp, forall_and]

/-- A line break is in one of two parts. -/
theorem HasLineBreak.append {first second : List (String × Bool)} :
    HasLineBreak (first ++ second) ↔ HasLineBreak first ∨ HasLineBreak second := by
  simp only [HasLineBreak, List.mem_append, or_and_right, exists_or]

end Event

namespace Script

open Event Reader

/-! ### The atoms of what is read -/

mutual

/-- The atoms of an item that is written are readable. -/
theorem Written.isReadable {item : Event} {text rest : List Char}
    (written : Written item text rest) :
    IsReadable item.atoms := by
  cases written with
  | bare isBare ends =>
      intro token member
      obtain rfl : token = String.ofList _ := by simpa [Event.atoms] using member
      rwa [String.toList_ofList]
  | quoted rest quoting =>
      intro token member
      simp [Event.atoms] at member
  | group bracket inside => exact inside.isReadable

/-- The atoms of a sequence that is written are readable. -/
theorem Sequence.isReadable : {breaks : Bool} → {items : List Event} → {text rest : List Char} →
    (sequence : Sequence breaks items text rest) → IsReadable (atomsOfItems items) := by
  intro breaks items text rest sequence
  cases sequence with
  | nil spacing =>
      intro token member
      cases member
  | cons spacing written more => exact IsReadable.append.mpr ⟨written.isReadable, more.isReadable⟩

end

/-- The atoms of statements that are laid out are readable. -/
theorem LaysOut.isReadable {script text : List Char} {statements : List Statement}
    (layout : LaysOut script text statements) :
    ∀ statement ∈ statements, IsReadable (atomsOfItems statement.items) := by
  induction layout with
  | nil => intro statement member; cases member
  | cons spacing place written line ends more ih =>
      refine List.forall_mem_cons.mpr ⟨?_, ih⟩
      exact IsReadable.append.mpr ⟨written.isReadable, line.isReadable⟩

/-! ### Events without line breaks -/

/-- A token without line breaks is quoted as the grammar has it. -/
theorem quoting_of_oneLine {token : List Char} (oneLine : '\n' ∉ token) :
    Quoting token (token.flatMap fun c => if c = '\\' ∨ c = '"' then ['\\', c] else [c]) := by
  induction token with
  | nil => exact .nil
  | cons c token ih =>
      rw [List.mem_cons, not_or] at oneLine
      rw [List.flatMap_cons]
      by_cases escaped : c = '\\' ∨ c = '"'
      · rw [if_pos escaped]
        have listed : (c, c) ∈ escapes := by
          rcases escaped with rfl | rfl <;> decide
        exact .escape listed (ih oneLine.2)
      · rw [if_neg escaped]
        rw [not_or] at escaped
        exact .raw escaped.2 escaped.1 (Ne.symm oneLine.1) (ih oneLine.2)

mutual

/-- The written form of an event without line breaks is one that the grammar has for it. -/
theorem written_written : (event : Event) → (readable : IsReadable event.atoms) →
    (oneLine : ¬ HasLineBreak event.atoms) → (rest : List Char) → (ends : TokenEnds rest) →
    Written event (event.written ++ rest) rest
  | .atom token false => by
      intro readable oneLine rest ends
      have isBare : isBareToken token.toList := readable token (by simp [atoms])
      have written := Written.bare isBare ends
      rw [String.ofList_toList] at written
      simpa [Event.written, isBare] using written
  | .atom token true => by
      intro readable oneLine rest ends
      have noBreak : '\n' ∉ token.toList :=
        fun member => oneLine ⟨(token, true), by simp [atoms], member⟩
      have written := Written.quoted rest (quoting_of_oneLine noBreak)
      rw [String.ofList_toList] at written
      simpa [Event.written, quoteToken] using written
  | .group items => by
      intro readable oneLine rest ends
      have inside := sequence_writtenItems items readable oneLine rest
      rw [Event.written, List.cons_append, List.cons_append, List.append_assoc,
        List.singleton_append]
      exact Written.group .round inside

/-- The written forms of readable items without line breaks are a sequence of these items. -/
theorem sequence_writtenItems : (items : List Event) →
    (readable : IsReadable (atomsOfItems items)) →
    (oneLine : ¬ HasLineBreak (atomsOfItems items)) → (rest : List Char) →
    Sequence true items (writtenItems items ++ ')' :: rest) (')' :: rest)
  | [] => by
      intro _ _ rest
      exact .nil (.nothing _)
  | item :: items => by
      intro readable oneLine rest
      rw [atomsOfItems, IsReadable.append] at readable
      rw [atomsOfItems, HasLineBreak.append, not_or] at oneLine
      have first := written_written item readable.1 oneLine.1
      have others := sequence_writtenItems items readable.2 oneLine.2 rest
      have closed : endsToken ')' := by decide
      have parted : endsToken ' ' := by decide
      match items with
      | [] => exact .cons (.nothing _) (first _ (tokenEnds_cons.mpr closed)) others
      | next :: items =>
          have isBlank : Text.isBlank ' ' := by decide
          have spaced := others.spaced (.blank isBlank (fun _ => rfl) (.nothing _))
          have written := first (' ' :: (writtenItems (next :: items) ++ ')' :: rest))
            (tokenEnds_cons.mpr parted)
          simpa [writtenItems] using Sequence.cons (.nothing _) written spaced

end

/-! ### Events with line breaks -/

/-- A string cannot be read over a line break that stands in it. -/
theorem resume_brokenString (reader : Reader) (opened : Position) (read : List Char)
    {token : List Char} (broken : '\n' ∈ token) (rest : List Char) :
    resume { reader with mode := .string opened read }
      ((token.flatMap fun c => if c = '\\' ∨ c = '"' then ['\\', c] else [c]) ++ rest) =
        .error ⟨.unterminatedString, opened⟩ := by
  induction token generalizing reader read with
  | nil => cases broken
  | cons c token ih =>
      rw [List.flatMap_cons, List.append_assoc]
      by_cases lineBreak : c = '\n'
      · subst lineBreak
        exact resume_of_fault rfl _
      have later : '\n' ∈ token := (List.mem_cons.mp broken).resolve_left (Ne.symm lineBreak)
      by_cases escaped : c = '\\' ∨ c = '"'
      · have quoting : Quoting [c] ['\\', c] := by
          rcases escaped with rfl | rfl <;> exact .escape (by decide) .nil
        rw [if_pos escaped]
        obtain ⟨position, reaches⟩ := reaches_body reader opened read quoting _
        rw [reaches.same]
        exact ih { reader with position } _ later
      · rw [if_neg escaped]
        rw [not_or] at escaped
        have quoting : Quoting [c] [c] := .raw escaped.2 escaped.1 lineBreak .nil
        obtain ⟨position, reaches⟩ := reaches_body reader opened read quoting _
        rw [reaches.same]
        exact ih { reader with position } _ later

mutual

/-- The written form of an event with line breaks cannot be read. -/
theorem resume_written : (event : Event) → (readable : IsReadable event.atoms) →
    (broken : HasLineBreak event.atoms) → (reader : Reader) → (between : reader.mode = .between) →
    (rest : List Char) →
    ∃ opened, reader.resume (event.written ++ rest) = .error ⟨.unterminatedString, opened⟩
  | .atom token false => by
      intro readable broken
      have isBare : isBareToken token.toList := readable token (by simp [atoms])
      obtain ⟨_, _, plain⟩ := isBareToken_iff.mp isBare
      obtain ⟨atom, member, lineBreak⟩ := broken
      obtain rfl : atom = (token, false) := by simpa [atoms] using member
      exact absurd rfl (ne_lineBreak_of_not_endsToken (plain _ lineBreak))
  | .atom token true => by
      intro _ broken reader between rest
      obtain ⟨atom, member, lineBreak⟩ := broken
      obtain rfl : atom = (token, true) := by simpa [atoms] using member
      have opening : reader.readInMode '"' =
          .ok { reader with mode := .string reader.position [] } := by
        simp only [readInMode, between]
        rfl
      refine ⟨reader.position, ?_⟩
      simp only [Event.written, quoteToken, Bool.not_true, Bool.false_and, Bool.false_eq_true,
        ↓reduceIte, List.cons_append, List.append_assoc]
      rw [(Reaches.of_readInMode opening _).same]
      exact resume_brokenString { reader with position := _ } reader.position [] lineBreak _
  | .group items => by
      intro readable broken reader between rest
      obtain ⟨position, opened⟩ :=
        reaches_opener reader between .round (writtenItems items ++ ')' :: rest)
      have inside := resume_writtenItems items readable broken
        { reader.openGroup .round with position } between (')' :: rest)
      rw [← opened.same] at inside
      rw [Event.written, List.cons_append, List.cons_append, List.append_assoc,
        List.singleton_append]
      exact inside

/-- The written forms of readable items with a line break are read as a string that is not closed.
-/
theorem resume_writtenItems : (items : List Event) → (readable : IsReadable (atomsOfItems items)) →
    (broken : HasLineBreak (atomsOfItems items)) → (reader : Reader) →
    (between : reader.mode = .between) → (rest : List Char) →
    ∃ opened, reader.resume (writtenItems items ++ rest) = .error ⟨.unterminatedString, opened⟩
  | [] => by
      intro _ broken
      obtain ⟨_, member, _⟩ := broken
      cases member
  | [item] => by
      intro readable broken reader between rest
      rw [atomsOfItems, atomsOfItems, List.append_nil] at readable broken
      exact resume_written item readable broken reader between rest
  | item :: next :: items => by
      intro readable broken reader between rest
      rw [atomsOfItems, IsReadable.append] at readable
      rw [writtenItems, List.append_assoc, List.cons_append]
      · by_cases inItem : HasLineBreak item.atoms
        · exact resume_written item readable.1 inItem reader between _
        rw [atomsOfItems, HasLineBreak.append] at broken
        have parted : endsToken ' ' := by decide
        obtain ⟨first, emitted⟩ := (written_written item readable.1 inItem _
          (tokenEnds_cons.mpr parted)).reaches reader between
        have again : { reader.emit item with position := first }.mode = .between := rfl
        obtain ⟨second, passed⟩ := reaches_blank again (by decide : Text.isBlank ' ')
          (fun lineBreak => absurd lineBreak (by decide)) (writtenItems (next :: items) ++ rest)
        rw [emitted.same, passed.same]
        exact resume_writtenItems (next :: items) readable.2 (broken.resolve_left inItem) _ rfl rest
      · simp

end

/-- A readable event without line breaks is read back as a statement of its own. -/
theorem parse_render_of_oneLine {event : Event} (readable : IsReadable event.atoms)
    (oneLine : ¬ HasLineBreak event.atoms) : parse event.render = .ok [⟨[event], some 1⟩] := by
  have written := written_written event readable oneLine [] (by simp [TokenEnds])
  rw [List.append_nil] at written
  have layout : IsLayout event.render [⟨[event], some (1 + [].count '\n')⟩] := by
    rw [IsLayout, Event.render, String.toList_ofList]
    have lineEnds : LineEnds [] := by simp [LineEnds]
    exact .cons (.nothing _) rfl written (.nil (.nothing [])) lineEnds (.nil (.nothing []))
  exact layout.parse

/-- A readable event with a line break is refused for a string that is not closed. -/
theorem parse_render_of_hasLineBreak {event : Event} (readable : IsReadable event.atoms)
    (broken : HasLineBreak event.atoms) :
    ∃ opened, parse event.render = .error ⟨.unterminatedString, opened⟩ := by
  rw [parse_eq_resume, Event.render, String.toList_ofList]
  simpa using resume_written event readable broken {} rfl []

/-- **Writing and reading.** An event of what was read of a text, be it the list of a statement or
anything that occurs in it, is read back from its written form as itself if no token in it has a
line break. Otherwise its written form has a string that runs over the end of a line, and cannot be
read. -/
theorem parse_render_of_occursIn (text : String) (statements : List Statement)
    (accepted : parse text = .ok statements) (statement : Statement)
    (member : statement ∈ statements) (event : Event)
    (occurs : event = .group statement.items ∨ event.OccursIn statement.items) :
    if HasLineBreak event.atoms then
      ∃ opened, parse event.render = .error ⟨.unterminatedString, opened⟩
    else parse event.render = .ok [⟨[event], some 1⟩] := by
  have inside : event.atoms ⊆ atomsOfItems statement.items := by
    rcases occurs with rfl | occurs
    · exact List.Subset.refl _
    · exact occurs.atoms_subset
  have readable : IsReadable event.atoms := fun token isAtom =>
    (isLayout_of_parse accepted).isReadable statement member token (inside isAtom)
  split
  next broken => exact parse_render_of_hasLineBreak readable broken
  next oneLine => exact parse_render_of_oneLine readable oneLine

/-- The string in a group has two lines, the bare token beside it one. -/
theorem parse_render_of_occursIn_group :
    parse "Print (f \"a\\nb\")" =
        .ok [⟨[.bare "Print", .group [.bare "f", .quoted "a\nb"]], some 1⟩] ∧
      parse (Event.bare "f").render = .ok [⟨[.bare "f"], some 1⟩] ∧
      (∃ opened, parse (Event.quoted "a\nb").render = .error ⟨.unterminatedString, opened⟩) ∧
      ∃ opened, parse (Event.group
        [.bare "Print", .group [.bare "f", .quoted "a\nb"]]).render =
          .error ⟨.unterminatedString, opened⟩ := by
  have accepted : parse "Print (f \"a\\nb\")" =
      .ok [⟨[.bare "Print", .group [.bare "f", .quoted "a\nb"]], some 1⟩] := rfl
  have group : Event.group [.bare "f", .quoted "a\nb"] ∈
      [.bare "Print", .group [.bare "f", .quoted "a\nb"]] := by decide
  refine ⟨accepted, ?_, ?_, ?_⟩
  · exact parse_render_of_occursIn _ _ accepted _ (List.mem_singleton_self _) (.bare "f")
      (.inr (.inside group (.item (by decide))))
  · exact parse_render_of_occursIn _ _ accepted _ (List.mem_singleton_self _) (.quoted "a\nb")
      (.inr (.inside group (.item (by decide))))
  · exact parse_render_of_occursIn _ _ accepted _ (List.mem_singleton_self _) _ (.inl rfl)

/-- A string of two lines is accepted and cannot be read back. -/
theorem not_parse_render_lineBreak :
    ∃ statement ∈ [(⟨[.quoted "a\nb"], some 1⟩ : Statement)],
      parse "\"a\\nb\"" = .ok [statement] ∧ (Event.quoted "a\nb").OccursIn statement.items ∧
      parse (Event.quoted "a\nb").render = .error ⟨.unterminatedString, ⟨1, 1⟩⟩ := by
  refine ⟨_, List.mem_singleton_self _, rfl, .item (List.mem_singleton_self _), rfl⟩

end Script
end Playbook
