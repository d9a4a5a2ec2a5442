import Playbook.Proofs.Script.Reading

/-! # The grammar of scripts

Scripts are read as their layouts say: reading a text gives statements exactly if the text is a
layout of them. In one direction the pieces of a layout are read one after the other; in the other
the pieces are found in the text as the reader goes, together with the layouts of the groups that
are still open.
-/

namespace Playbook.Script

open Reader

/-! ### Layouts are read -/

/-- Within a statement an item is only put behind those before it. -/
theorem Reader.emit_of_started (reader : Reader) (started : reader.start.isSome) (item : Event) :
    reader.emit item = { reader with mode := .between, items := item :: reader.items } := by
  obtain ⟨line, started⟩ := Option.isSome_iff_exists.mp started
  simp only [emit, begin, started, Option.some_or]

mutual

/-- A written event is read and emitted. -/
theorem Written.reaches {item : Event} {text rest : List Char} (written : Written item text rest)
    (reader : Reader) (between : reader.mode = .between) :
    ∃ position, reader.Reaches text { reader.emit item with position } rest := by
  cases written with
  | bare isBare ends => exact reaches_bare reader between isBare ends
  | quoted rest quoting => exact reaches_quoted reader between quoting rest
  | @group items text rest bracket inside =>
      obtain ⟨opened, opening⟩ := reaches_opener reader between bracket text
      obtain ⟨read, contents⟩ := Sequence.reaches inside
        { reader.openGroup bracket with position := opened }
        between (by simp [openGroup, begin]) (fun _ => List.cons_ne_nil _ _)
      obtain ⟨closed, closing⟩ := reaches_closer { reader.openGroup bracket with
        items := items.reverse ++ [], position := read } between rfl rest
      refine ⟨closed, opening.trans (contents.trans ?_)⟩
      simpa [openGroup, begin, emit, between] using closing

/-- Written events with spacing around them are read and emitted. -/
theorem Sequence.reaches : {breaks : Bool} → {items : List Event} → {text rest : List Char} →
    (sequence : Sequence breaks items text rest) → (reader : Reader) →
    (between : reader.mode = .between) → (started : reader.start.isSome) →
    (inside : breaks → reader.groups ≠ []) →
    ∃ position, reader.Reaches text
      { reader with items := items.reverse ++ reader.items, position } rest := by
  intro breaks items text rest sequence reader between started inside
  cases sequence with
  | nil spacing => exact reaches_spacing reader between (fun counts => .inl (inside counts)) spacing
  | @cons _ item items text start after rest spacing written more =>
      obtain ⟨first, spaced⟩ :=
        reaches_spacing reader between (fun counts => .inl (inside counts)) spacing
      obtain ⟨second, emitted⟩ := Written.reaches written { reader with position := first } between
      rw [emit_of_started { reader with position := first } started] at emitted
      obtain ⟨last, others⟩ := Sequence.reaches more { reader with
        mode := .between, items := item :: reader.items, position := second } rfl started inside
      refine ⟨last, spaced.trans (emitted.trans ?_)⟩
      simpa only [List.reverse_cons, List.append_assoc, List.singleton_append, between] using others

end

/-- The reader stands in front of what is left of a script, on the right line. -/
def Reader.IsAt (reader : Reader) (script text : List Char) : Prop :=
  reader.position.line + text.count '\n' = 1 + script.count '\n'

/-- The reader has finished a statement, or not begun any. -/
structure Reader.IsOutside (reader : Reader) : Prop where
  between : reader.mode = .between
  noGroups : reader.groups = []
  noItems : reader.items = []
  noStart : reader.start = none

/-- Where the reader gets to, it stands on the right line if it has started on it. -/
theorem Reader.Reaches.isAt {reader next : Reader} {script text rest : List Char}
    (reaches : reader.Reaches text next rest) (place : reader.IsAt script text) :
    next.IsAt script rest :=
  reaches.lines.trans place

/-- The line of the reader is one more than the number of line breaks before it. -/
theorem Reader.IsAt.line_eq {reader : Reader} {before text : List Char}
    (place : reader.IsAt (before ++ text) text) : reader.position.line = 1 + before.count '\n' := by
  unfold Reader.IsAt at place
  rw [List.count_append] at place
  omega

/-- A text that ends outside of groups gives the statements read and the one at hand. -/
theorem Reader.finish_of_noGroups (reader : Reader) (between : reader.mode = .between)
    (noGroups : reader.groups = []) :
    reader.finish = .ok reader.endStatement.statements.reverse := by
  obtain ⟨_, _, _, _, _, _⟩ := reader
  obtain rfl : _ = Mode.between := between
  obtain rfl : _ = [] := noGroups
  rfl

/-- A layout is read as its statements. -/
theorem LaysOut.resume {script text : List Char} {statements : List Statement}
    (layout : LaysOut script text statements) (reader : Reader) (outside : reader.IsOutside)
    (place : reader.IsAt script text) :
    reader.resume text = .ok (reader.statements.reverse ++ statements) := by
  induction layout generalizing reader with
  | nil spacing =>
      obtain ⟨last, spaced⟩ :=
        reaches_spacing reader outside.between (fun _ => .inr outside.noItems) spacing
      rw [spaced.same, resume_nil,
        finish_of_noGroups { reader with position := last } outside.between outside.noGroups]
      simp [endStatement, outside.noItems]
  | @cons before text start after stop item items statements spacing split written line ends _ ih =>
      obtain ⟨first, spaced⟩ :=
        reaches_spacing reader outside.between (fun _ => .inr outside.noItems) spacing
      obtain ⟨second, emitted⟩ := written.reaches { reader with position := first } outside.between
      obtain ⟨last, others⟩ := line.reaches
        { emit { reader with position := first } item with position := second } rfl
        (by simp [emit, begin]) (fun breaks => absurd breaks Bool.false_ne_true)
      have ended := reaches_lineEnd { emit { reader with position := first } item with
        items := items.reverse ++ item :: reader.items, position := last } rfl outside.noGroups ends
      have reached := (spaced.trans emitted).trans (others.trans ended)
      have firstLine : first.line = 1 + before.count '\n' := (split ▸ spaced.isAt place).line_eq
      have settled : endStatement { emit { reader with position := first } item with
          items := items.reverse ++ item :: reader.items, position := last } =
          { reader with
            position := last
            statements := ⟨item :: items, some (1 + before.count '\n')⟩ :: reader.statements } := by
        simp [endStatement, emit, begin, outside.noItems, outside.noStart, outside.between,
          firstLine]
      rw [settled] at reached
      have outside' : IsOutside { reader with
          position := last
          statements := ⟨item :: items, some (1 + before.count '\n')⟩ :: reader.statements } :=
        ⟨outside.between, outside.noGroups, outside.noItems, outside.noStart⟩
      rw [reached.same, ih _ outside' (reached.isAt place), List.reverse_cons, List.append_assoc,
        List.singleton_append]

/-! ### What is read is a layout -/

/-- A line break is a blank. -/
theorem isBlank_lineBreak : Text.isBlank '\n' := by
  decide

/-- A comment starts with two dashes. -/
theorem startsComment_iff {text : List Char} :
    startsComment text ↔ ∃ words, text = '-' :: '-' :: words := by
  unfold startsComment
  split <;> simp_all

/-- A text is cut in front of the first character that stops. -/
theorem exists_untilFirst (stops : Char → Bool) (text : List Char) :
    ∃ piece rest, text = piece ++ rest ∧ (∀ c ∈ piece, stops c = false) ∧
      ∀ c ∈ rest.head?, stops c := by
  induction text with
  | nil => exact ⟨[], [], rfl, by simp, by simp⟩
  | cons c text ih =>
      by_cases stop : stops c
      · exact ⟨[], c :: text, rfl, by simp, by simpa using stop⟩
      · obtain ⟨piece, rest, rfl, passed, ends⟩ := ih
        have passes : stops c = false := Bool.eq_false_iff.mpr stop
        exact ⟨c :: piece, rest, rfl, List.forall_mem_cons.mpr ⟨passes, passed⟩, ends⟩

/-- Spacing after spacing is spacing. -/
theorem Spacing.trans {breaks : Bool} {text middle rest : List Char}
    (first : Spacing breaks text middle) (second : Spacing breaks middle rest) :
    Spacing breaks text rest := by
  induction first with
  | nothing => exact second
  | blank isBlank allowed _ ih => exact .blank isBlank allowed (ih second)
  | comment oneLine ends _ ih => exact .comment oneLine ends (ih second)

/-- Where line breaks count as blanks, the other blanks do as well. -/
theorem Spacing.weaken {few all : Bool} (included : few → all) {text rest : List Char}
    (spacing : Spacing few text rest) : Spacing all text rest := by
  induction spacing with
  | nothing rest => exact .nothing rest
  | blank isBlank allowed _ ih =>
      exact .blank isBlank (fun lineBreak => included (allowed lineBreak)) ih
  | comment oneLine ends _ ih => exact .comment oneLine ends ih

/-- Before a sequence there may be more spacing. -/
theorem Sequence.spaced {breaks : Bool} {items : List Event} {text middle rest : List Char}
    (spacing : Spacing breaks text middle) (sequence : Sequence breaks items middle rest) :
    Sequence breaks items text rest := by
  cases sequence with
  | nil more => exact .nil (spacing.trans more)
  | cons more written others => exact .cons (spacing.trans more) written others

/-- Before statements there may be more spacing. -/
theorem LaysOut.spaced {script text middle : List Char} {statements : List Statement}
    (spacing : Spacing true text middle) (layout : LaysOut script middle statements) :
    LaysOut script text statements := by
  cases layout with
  | nil more => exact .nil (spacing.trans more)
  | cons more split written line ends others =>
      exact .cons (spacing.trans more) split written line ends others

/-- What is left of a script completes the items read on the current level, first in the innermost
of the open groups and at last in the statement that started on the line `start`, and lays out the
statements after it. -/
def Completes (script : List Char) (start : Option Nat) : (groups : List OpenGroup) →
    (items : List Event) → (text : List Char) → List Statement → Prop
  | [], [], text, statements => LaysOut script text statements
  | [], items, text, statements =>
    ∃ more stop others, Sequence false more text stop ∧ LineEnds stop ∧ LaysOut script stop others ∧
      statements = ⟨items.reverse ++ more, start⟩ :: others
  | group :: outer, items, text, statements =>
    ∃ more rest, Sequence true more text (group.bracket.closer :: rest) ∧
      Completes script start outer (.group (items.reverse ++ more) :: group.preceding) rest
        statements

/-- Spacing may stand before what completes the items. -/
theorem Completes.spaced {script : List Char} {start : Option Nat} {groups : List OpenGroup}
    {items : List Event} {text rest : List Char} {statements : List Statement} {breaks : Bool}
    (spacing : Spacing breaks text rest) (inside : breaks → groups ≠ [] ∨ items = [])
    (completes : Completes script start groups items rest statements) :
    Completes script start groups items text statements := by
  match groups, items with
  | [], [] => exact LaysOut.spaced (spacing.weaken fun _ => rfl) completes
  | [], item :: items =>
      obtain ⟨more, stop, others, sequence, ends, layout, rfl⟩ := completes
      have weakened : Spacing false text rest := spacing.weaken (by simpa using inside)
      exact ⟨more, stop, others, sequence.spaced weakened, ends, layout, rfl⟩
  | group :: outer, items =>
      obtain ⟨more, after, sequence, completes⟩ := completes
      exact ⟨more, after, sequence.spaced (spacing.weaken fun _ => rfl), completes⟩

/-- An item may stand before what completes the items with it. -/
theorem Completes.item {script before : List Char} {start : Option Nat} {groups : List OpenGroup}
    {items : List Event} {text rest : List Char} {statements : List Statement} {item : Event}
    (begun : start = none ↔ groups = [] ∧ items = []) (split : script = before ++ text)
    (written : Written item text rest)
    (completes : Completes script (start.or (some (1 + before.count '\n'))) groups (item :: items)
      rest statements) :
    Completes script start groups items text statements := by
  match groups, items with
  | [], [] =>
      obtain rfl : start = none := begun.mpr ⟨rfl, rfl⟩
      obtain ⟨more, stop, others, sequence, ends, layout, rfl⟩ := completes
      exact .cons (.nothing text) split written sequence ends layout
  | [], first :: items =>
      obtain ⟨line, rfl⟩ := Option.ne_none_iff_exists'.mp (mt begun.mp (by simp))
      obtain ⟨more, stop, others, sequence, ends, layout, rfl⟩ := completes
      refine ⟨item :: more, stop, others, .cons (.nothing text) written sequence, ends, layout, ?_⟩
      simp
  | group :: outer, items =>
      obtain ⟨line, rfl⟩ := Option.ne_none_iff_exists'.mp (mt begun.mp (by simp))
      obtain ⟨more, after, sequence, completes⟩ := completes
      refine ⟨item :: more, after, .cons (.nothing text) written sequence, ?_⟩
      simpa using completes

/-- A string that is read without fault is closed, and what stands in it is a token. -/
theorem Reader.quoting_of_resume (reader : Reader) (opened : Position) (read : List Char)
    {text : List Char} {statements : List Statement}
    (result : resume { reader with mode := .string opened read } text = .ok statements) :
    ∃ token body rest, text = body ++ '"' :: rest ∧ Quoting token body := by
  match text with
  | [] => cases result
  | c :: text =>
      by_cases lineBreak : c = '\n'
      · subst lineBreak
        cases result
      by_cases mark : c = '"'
      · subst mark
        exact ⟨[], [], text, rfl, .nil⟩
      by_cases backslash : c = '\\'
      · subst backslash
        have taken : readInMode { reader with mode := .string opened read } '\\' =
            .ok { reader with mode := .escape opened read } := rfl
        rw [(Reaches.of_readInMode taken text).same] at result
        match text with
        | [] => cases result
        | c :: text =>
            cases found : unescape? c with
            | none =>
                rw [resume_of_fault (by simp only [readInMode, found]; rfl)] at result
                cases result
            | some meant =>
                have escaped (position : Position) :
                    readInMode { reader with mode := .escape opened read, position } c =
                      .ok { reader with mode := .string opened (meant :: read), position } := by
                  simp only [readInMode, found]
                rw [(Reaches.of_readInMode (escaped _) text).same] at result
                obtain ⟨token, body, rest, rfl, quoting⟩ :=
                  quoting_of_resume { reader with position := _ } opened (meant :: read) result
                exact ⟨meant :: token, _, rest, rfl,
                  .escape (unescape?_eq_some_iff.mp found) quoting⟩
      · have taken : readInMode { reader with mode := .string opened read } c =
            .ok { reader with mode := .string opened (c :: read) } := by
          simp only [readInMode, lineBreak, mark, backslash, ↓reduceIte]
        rw [(Reaches.of_readInMode taken text).same] at result
        obtain ⟨token, body, rest, rfl, quoting⟩ :=
          quoting_of_resume { reader with position := _ } opened (c :: read) result
        exact ⟨c :: token, c :: body, rest, rfl, .raw mark backslash lineBreak quoting⟩

/-- The reader stands between two tokens in front of the rest of a script. -/
structure Reader.StandsAt (reader : Reader) (script text : List Char) : Prop where
  between : reader.mode = .between
  place : reader.IsAt script text
  isRest : ∃ before, script = before ++ text
  begun : reader.start = none ↔ reader.groups = [] ∧ reader.items = []

/-- Whatever is read of a text completes what the reader has at hand. -/
def Reader.IsFaithful (reader : Reader) (script text : List Char) : Prop :=
  ∀ statements, reader.resume text = .ok statements →
    ∃ others, statements = reader.statements.reverse ++ others ∧
      Completes script reader.start reader.groups reader.items text others

namespace Reader

variable {reader next : Reader} {script text rest : List Char}

/-- The reader stands between two tokens again after a piece of the script. -/
theorem StandsAt.after (piece : List Char) (stands : reader.StandsAt script (piece ++ rest))
    (reaches : reader.Reaches (piece ++ rest) next rest) (between : next.mode = .between)
    (begun : next.start = none ↔ next.groups = [] ∧ next.items = []) :
    next.StandsAt script rest := by
  obtain ⟨before, split⟩ := stands.isRest
  have isRest : script = before ++ piece ++ rest := by rw [split, List.append_assoc]
  exact ⟨between, reaches.isAt stands.place, ⟨before ++ piece, isRest⟩, begun⟩

/-- A text is read faithfully if it is after some spacing. -/
theorem IsFaithful.spaced {position : Position} {breaks : Bool}
    (reaches : reader.Reaches text { reader with position } rest)
    (spacing : Spacing breaks text rest) (inside : breaks → reader.groups ≠ [] ∨ reader.items = [])
    (faithful : IsFaithful { reader with position } script rest) :
    reader.IsFaithful script text := by
  intro statements result
  obtain ⟨others, equal, completes⟩ := faithful statements (reaches.same ▸ result)
  exact ⟨others, equal, completes.spaced spacing inside⟩

/-- A text is read faithfully if it is after an item that is written at its start. -/
theorem IsFaithful.item {position : Position} {item : Event} (stands : reader.StandsAt script text)
    (reaches : reader.Reaches text { reader.emit item with position } rest)
    (written : Written item text rest)
    (faithful : IsFaithful { reader.emit item with position } script rest) :
    reader.IsFaithful script text := by
  intro statements result
  obtain ⟨others, equal, completes⟩ := faithful statements (reaches.same ▸ result)
  obtain ⟨before, rfl⟩ := stands.isRest
  refine ⟨others, equal, Completes.item stands.begun rfl written ?_⟩
  rw [← stands.place.line_eq]
  exact completes

/-- A text is read faithfully if it is inside the group that is opened at its start. -/
theorem IsFaithful.group {bracket : Bracket} {position : Position}
    (stands : reader.StandsAt script (bracket.opener :: rest))
    (reaches :
      reader.Reaches (bracket.opener :: rest) { reader.openGroup bracket with position } rest)
    (faithful : IsFaithful { reader.openGroup bracket with position } script rest) :
    reader.IsFaithful script (bracket.opener :: rest) := by
  intro statements result
  obtain ⟨others, equal, items, after, sequence, completes⟩ :=
    faithful statements (reaches.same ▸ result)
  obtain ⟨before, rfl⟩ := stands.isRest
  refine ⟨others, equal, Completes.item stands.begun rfl (.group bracket sequence) ?_⟩
  rw [← stands.place.line_eq]
  exact completes

/-- A text is read faithfully if it is after the group that is closed at its start. -/
theorem IsFaithful.closed {bracket : Bracket} {position opened : Position} {preceding : List Event}
    {outer : List OpenGroup} (inGroup : reader.groups = ⟨bracket, opened, preceding⟩ :: outer)
    (reaches : reader.Reaches (bracket.closer :: rest)
      { reader with
        items := .group reader.items.reverse :: preceding, groups := outer, position } rest)
    (faithful : IsFaithful
      { reader with items := .group reader.items.reverse :: preceding, groups := outer, position }
      script rest) :
    reader.IsFaithful script (bracket.closer :: rest) := by
  intro statements result
  obtain ⟨others, equal, completes⟩ := faithful statements (reaches.same ▸ result)
  rw [inGroup]
  refine ⟨others, equal, [], rest, .nil (.nothing _), ?_⟩
  rw [List.append_nil]
  exact completes

/-- A text is read faithfully if it is after the statement that ends with its first line break. -/
theorem IsFaithful.lineEnded {position : Position} (outside : reader.groups = [])
    (started : reader.items ≠ [])
    (reaches : reader.Reaches ('\n' :: rest) { reader.endStatement with position } rest)
    (faithful : IsFaithful { reader.endStatement with position } script rest) :
    reader.IsFaithful script ('\n' :: rest) := by
  intro statements result
  obtain ⟨others, equal, layout⟩ := faithful statements (reaches.same ▸ result)
  obtain ⟨item, items, nonempty⟩ := List.exists_cons_of_ne_nil started
  simp only [endStatement, nonempty, List.isEmpty_cons, Bool.false_eq_true, ↓reduceIte,
    outside] at equal layout
  refine ⟨⟨(item :: items).reverse, reader.start⟩ :: others, by simpa using equal, ?_⟩
  rw [outside, nonempty]
  refine ⟨[], '\n' :: rest, others, .nil (.nothing _), lineEnds_cons.mpr rfl, ?_, ?_⟩
  · exact LaysOut.spaced (.blank isBlank_lineBreak (fun _ => rfl) (.nothing rest)) layout
  · rw [List.append_nil]

/-- At the end of a script the statement at hand is complete, and no group may be open. -/
theorem StandsAt.isFaithful_nil (stands : reader.StandsAt script []) :
    reader.IsFaithful script [] := by
  intro statements result
  rw [resume_nil] at result
  cases open? : reader.groups with
  | cons group outer =>
      have settled : reader.finishToken = .ok reader := by simp only [finishToken, stands.between]
      simp [finish, settled, open?, bind, Except.bind] at result
  | nil =>
      rw [finish_of_noGroups reader stands.between open?, Except.ok.injEq] at result
      subst result
      cases pending : reader.items with
      | nil =>
          refine ⟨[], ?_, .nil (.nothing [])⟩
          simp only [endStatement, pending, List.isEmpty_nil, ↓reduceIte, List.append_nil]
      | cons item items =>
          refine ⟨[⟨(item :: items).reverse, reader.start⟩], ?_,
            [], [], [], .nil (.nothing []), by simp [LineEnds], .nil (.nothing []), ?_⟩
          · simp only [endStatement, pending, List.isEmpty_cons, Bool.false_eq_true, ↓reduceIte,
              List.reverse_cons]
          · rw [List.append_nil]

section
variable {c : Char}
  (shorter : ∀ next rest, rest.length ≤ text.length → StandsAt next script rest →
    next.IsFaithful script rest)
include shorter

/-- A line break is read faithfully. -/
theorem StandsAt.isFaithful_lineBreak (stands : reader.StandsAt script ('\n' :: text)) :
    reader.IsFaithful script ('\n' :: text) := by
  by_cases inside : reader.groups ≠ [] ∨ reader.items = []
  · obtain ⟨position, reaches⟩ :=
      reaches_blank stands.between isBlank_lineBreak (fun _ => inside) text
    have faithful := shorter _ text (Nat.le_refl _)
      (stands.after ['\n'] reaches stands.between stands.begun)
    have spacing : Spacing true ('\n' :: text) text :=
      .blank isBlank_lineBreak (fun _ => rfl) (.nothing text)
    exact faithful.spaced reaches spacing (fun _ => inside)
  · rw [not_or, Decidable.not_not] at inside
    obtain ⟨outside, pending⟩ := inside
    have lineEnds : LineEnds ('\n' :: text) := lineEnds_cons.mpr rfl
    have ended := reaches_lineEnd reader stands.between outside lineEnds
    have after : reader.endStatement.mode = .between ∧ reader.endStatement.start = none ∧
        reader.endStatement.groups = [] ∧ reader.endStatement.items = [] := by
      simp [endStatement, pending, outside, stands.between]
    obtain ⟨position, passed⟩ :=
      reaches_blank after.1 isBlank_lineBreak (fun _ => .inr after.2.2.2) text
    have reaches := ended.trans passed
    have faithful := shorter _ text (Nat.le_refl _)
      (stands.after ['\n'] reaches after.1 (iff_of_true after.2.1 after.2.2))
    exact faithful.lineEnded outside pending reaches

/-- Any other blank is read faithfully. -/
theorem StandsAt.isFaithful_blank (isBlank : Text.isBlank c) (notBreak : c ≠ '\n')
    (stands : reader.StandsAt script (c :: text)) : reader.IsFaithful script (c :: text) := by
  obtain ⟨position, reaches⟩ :=
    reaches_blank stands.between isBlank (fun lineBreak => absurd lineBreak notBreak) text
  have faithful := shorter _ text (Nat.le_refl _)
    (stands.after [c] reaches stands.between stands.begun)
  have spacing : Spacing false (c :: text) text :=
    .blank isBlank (fun lineBreak => absurd lineBreak notBreak) (.nothing text)
  exact faithful.spaced reaches spacing (by simp)

/-- A quotation mark is read faithfully, with the string after it. -/
theorem StandsAt.isFaithful_mark (stands : reader.StandsAt script ('"' :: text)) :
    reader.IsFaithful script ('"' :: text) := by
  intro statements result
  have opening : reader.readInMode '"' =
      .ok { reader with mode := .string reader.position [] } := by
    simp only [readInMode, stands.between]
    rfl
  obtain ⟨token, body, rest, rfl, quoting⟩ := quoting_of_resume
    { reader with position := reader.position.after '"' } reader.position []
    ((Reaches.of_readInMode opening text).same ▸ result)
  obtain ⟨position, reaches⟩ := reaches_quoted reader stands.between quoting rest
  have faithful := shorter _ rest (by simp; omega)
    (StandsAt.after ('"' :: (body ++ ['"'])) (by simpa using stands) (by simpa using reaches) rfl
      (by simp [emit, begin]))
  exact faithful.item stands reaches (.quoted rest quoting) statements result

/-- An opening bracket is read faithfully. -/
theorem StandsAt.isFaithful_opener {bracket : Bracket}
    (stands : reader.StandsAt script (bracket.opener :: text)) :
    reader.IsFaithful script (bracket.opener :: text) := by
  obtain ⟨position, reaches⟩ := reaches_opener reader stands.between bracket text
  have faithful := shorter _ text (Nat.le_refl _)
    (stands.after [bracket.opener] reaches stands.between (by simp [openGroup, begin]))
  exact faithful.group stands reaches

/-- A closing bracket is read faithfully. -/
theorem StandsAt.isFaithful_closer {bracket : Bracket}
    (stands : reader.StandsAt script (bracket.closer :: text)) :
    reader.IsFaithful script (bracket.closer :: text) := by
  intro statements result
  have closing : reader.readInMode bracket.closer = reader.closeGroup bracket := by
    simp only [readInMode, stands.between]
    cases bracket <;> rfl
  cases open? : reader.groups with
  | nil =>
      rw [resume_of_fault (by rw [closing, closeGroup, open?])] at result
      cases result
  | cons group outer =>
      by_cases same : group.bracket = bracket
      · obtain ⟨_, opened, preceding⟩ := group
        obtain rfl : _ = bracket := same
        obtain ⟨position, reaches⟩ := reaches_closer reader stands.between open? text
        have started : reader.start ≠ none := mt stands.begun.mp (by simp [open?])
        have faithful := shorter _ text (Nat.le_refl _)
          (stands.after [_] reaches stands.between (by simpa using started))
        exact open? ▸ faithful.closed open? reaches statements result
      · have refused : reader.readInMode bracket.closer =
            .error ⟨.mismatched group.bracket bracket, reader.position⟩ := by
          simp only [closing, closeGroup, open?, same, ↓reduceIte]
        rw [resume_of_fault refused] at result
        cases result

/-- Two dashes are read faithfully, with the comment after them. -/
theorem StandsAt.isFaithful_comment (stands : reader.StandsAt script ('-' :: '-' :: text)) :
    reader.IsFaithful script ('-' :: '-' :: text) := by
  obtain ⟨words, rest, rfl, oneLine, ends⟩ := exists_untilFirst (· == '\n') text
  have noBreak : '\n' ∉ words := fun member => absurd (oneLine _ member) (by decide)
  have lineEnds : LineEnds rest := fun c next => beq_iff_eq.mp (ends c next)
  obtain ⟨position, reaches⟩ := reaches_comment stands.between noBreak lineEnds
  have faithful := shorter _ rest (by simp)
    (stands.after ('-' :: '-' :: words) reaches stands.between stands.begun)
  have spacing : Spacing false ('-' :: '-' :: (words ++ rest)) rest :=
    .comment noBreak lineEnds (.nothing rest)
  exact faithful.spaced reaches spacing (by simp)

/-- Any other character is read faithfully, with the token after it. -/
theorem StandsAt.isFaithful_token (plain : endsToken c = false)
    (noComment : startsComment (c :: text) = false) (stands : reader.StandsAt script (c :: text)) :
    reader.IsFaithful script (c :: text) := by
  obtain ⟨more, rest, rfl, others, ends⟩ := exists_untilFirst endsToken text
  have tokenEnds : TokenEnds rest := fun next isNext => by simpa [endsToken] using ends next isNext
  have isBare : isBareToken (c :: more) := by
    have allPlain : ∀ other ∈ c :: more, endsToken other = false :=
      List.forall_mem_cons.mpr ⟨plain, others⟩
    refine isBareToken_iff.mpr ⟨List.cons_ne_nil c more, Bool.eq_false_iff.mpr ?_, allPlain⟩
    intro comment
    obtain ⟨words, equal⟩ := startsComment_iff.mp comment
    have whole : startsComment (c :: (more ++ rest)) := by
      refine startsComment_iff.mpr ⟨words ++ rest, ?_⟩
      rw [← List.cons_append, equal, List.cons_append, List.cons_append]
    exact Bool.false_ne_true (noComment.symm.trans whole)
  obtain ⟨position, reaches⟩ := reaches_bare reader stands.between isBare tokenEnds
  have faithful := shorter _ rest (by simp)
    (stands.after (c :: more) reaches rfl (by simp [emit, begin]))
  exact faithful.item stands reaches (.bare isBare tokenEnds)

end

/-- Wherever the reader stands between two tokens, what is read completes what it has at hand. -/
theorem StandsAt.isFaithful {reader : Reader} {script text : List Char}
    (stands : reader.StandsAt script text) : reader.IsFaithful script text := by
  -- a piece may take many characters, so the induction is on the length of what is left; after each
  -- piece the reader stands between two tokens again
  induction length : text.length using Nat.strongRecOn generalizing reader text with
  | ind _ ih =>
    match text with
    | [] => exact stands.isFaithful_nil
    | c :: text =>
      have shorter (next : Reader) (rest : List Char) (short : rest.length ≤ text.length)
          (stands : next.StandsAt script rest) : next.IsFaithful script rest :=
        ih rest.length (by rw [← length]; exact Nat.lt_succ_of_le short) stands rfl
      by_cases lineBreak : c = '\n'
      · subst lineBreak
        exact stands.isFaithful_lineBreak shorter
      by_cases isBlank : Text.isBlank c
      · exact stands.isFaithful_blank shorter isBlank lineBreak
      by_cases mark : c = '"'
      · subst mark
        exact stands.isFaithful_mark shorter
      cases opener : Bracket.ofOpener? c with
      | some bracket =>
          obtain rfl := Bracket.opener_of_ofOpener? opener
          exact stands.isFaithful_opener shorter
      | none =>
          cases closer : Bracket.ofCloser? c with
          | some bracket =>
              obtain rfl := Bracket.closer_of_ofCloser? closer
              exact stands.isFaithful_closer shorter
          | none =>
              have plain : endsToken c = false :=
                endsToken_eq_false_iff.mpr ⟨Bool.eq_false_iff.mpr isBlank, mark, opener, closer⟩
              by_cases comment : startsComment (c :: text)
              · obtain ⟨words, equal⟩ := startsComment_iff.mp comment
                rw [equal] at stands ⊢
                exact stands.isFaithful_comment (fun next rest short =>
                  shorter next rest (by grind))
              · exact stands.isFaithful_token shorter plain (Bool.eq_false_iff.mpr comment)

end Reader

/-- A text that lays statements out is read as these statements. -/
theorem IsLayout.parse {text : String} {statements : List Statement}
    (layout : IsLayout text statements) : parse text = .ok statements := by
  rw [parse_eq_resume]
  exact layout.resume {} ⟨rfl, rfl, rfl, rfl⟩ rfl

/-- A text that is read as statements lays them out. -/
theorem isLayout_of_parse {text : String} {statements : List Statement}
    (accepted : parse text = .ok statements) : IsLayout text statements := by
  rw [parse_eq_resume] at accepted
  have stands : ({} : Reader).StandsAt text.toList text.toList :=
    ⟨rfl, rfl, ⟨[], rfl⟩, iff_of_true rfl ⟨rfl, rfl⟩⟩
  obtain ⟨_, rfl, layout⟩ := stands.isFaithful statements accepted
  exact layout

/-- **Reading follows the grammar.** A text is read as statements exactly if it is a layout of
them, and it is a layout of no others. -/
theorem parse_eq_ok_iff_isLayout (text : String) (statements : List Statement) :
    (parse text = .ok statements ↔ IsLayout text statements) ∧
      ∀ others, IsLayout text statements → IsLayout text others → others = statements := by
  refine ⟨⟨isLayout_of_parse, IsLayout.parse⟩, ?_⟩
  intro others layout other
  have same : Except.ok others = Except.ok statements := other.parse.symm.trans layout.parse
  exact Except.ok.inj same

end Playbook.Script
