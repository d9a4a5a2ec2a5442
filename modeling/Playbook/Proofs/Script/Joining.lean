import Playbook.Proofs.Script.Reading

/-! # Reading below other lines

A text that is read on its own may be continued on the next line. What follows the line break is
read as it would be read alone, with the same statements and the same faults, some lines further
down: the line break ends the last token, comment and statement, and nothing else is carried over.
-/

namespace Playbook

/-- The statement, some lines further down. -/
def Statement.below (statement : Statement) (lines : Nat) : Statement :=
  { statement with line := statement.line.map (· + lines) }

namespace Script

/-- The place, some lines further down. -/
def Position.below (position : Position) (lines : Nat) : Position :=
  { position with line := position.line + lines }

/-- The fault, some lines further down. -/
def Malformed.below (fault : Malformed) (lines : Nat) : Malformed :=
  { fault with position := fault.position.below lines }

/-- What the reader is inside of, some lines further down. -/
def Mode.below (lines : Nat) : Mode → Mode
  | string opened read => string (opened.below lines) read
  | escape opened read => escape (opened.below lines) read
  | other => other

/-- The open group, some lines further down. -/
def OpenGroup.below (group : OpenGroup) (lines : Nat) : OpenGroup :=
  { group with opened := group.opened.below lines }

/-- What a reading comes to, some lines further down: a fault is moved down, a result is changed. -/
def comesTo {α : Type} (lines : Nat) (change : α → α) : Except Malformed α → Except Malformed α
  | .ok read => .ok (change read)
  | .error fault => .error (fault.below lines)

namespace Reader

/-- The reader, some lines further down in a text of which earlier statements have been read; like
all that the reader keeps, these come last first. -/
def below (lines : Nat) (earlier : List Statement) (reader : Reader) : Reader where
  position := reader.position.below lines
  mode := reader.mode.below lines
  groups := reader.groups.map (·.below lines)
  items := reader.items
  start := reader.start.map (· + lines)
  statements := reader.statements.map (·.below lines) ++ earlier

variable (lines : Nat) (earlier : List Statement) (reader : Reader)

/-- Further down a statement begins in the same way. -/
theorem begin_below : (reader.below lines earlier).begin = reader.begin.below lines earlier := by
  cases start : reader.start <;> simp [begin, below, start, Position.below]

/-- Further down an item is emitted in the same way. -/
theorem emit_below (item : Event) :
    (reader.below lines earlier).emit item = (reader.emit item).below lines earlier := by
  simp only [emit, begin_below]
  rfl

/-- Further down a group is opened in the same way. -/
theorem openGroup_below (bracket : Bracket) :
    (reader.below lines earlier).openGroup bracket =
      (reader.openGroup bracket).below lines earlier := by
  simp only [openGroup, begin_below]
  rfl

/-- Further down a group is closed in the same way, with the same fault further down. -/
theorem closeGroup_below (bracket : Bracket) :
    (reader.below lines earlier).closeGroup bracket =
      comesTo lines (below lines earlier) (reader.closeGroup bracket) := by
  obtain ⟨position, mode, groups, items, start, statements⟩ := reader
  cases groups with
  | nil => rfl
  | cons group outer =>
      by_cases same : group.bracket = bracket
      · simp [closeGroup, below, OpenGroup.below, comesTo, same]
      · simp [closeGroup, below, OpenGroup.below, comesTo, same, Malformed.below]

/-- Further down a statement ends in the same way. -/
theorem endStatement_below :
    (reader.below lines earlier).endStatement = reader.endStatement.below lines earlier := by
  obtain ⟨position, mode, groups, items, start, statements⟩ := reader
  cases items with
  | nil => rfl
  | cons item items => simp [endStatement, below, Statement.below]

/-- Further down a character between tokens is read in the same way. -/
theorem readBetween_below (c : Char) :
    (reader.below lines earlier).readBetween c =
      comesTo lines (below lines earlier) (reader.readBetween c) := by
  have outside : (reader.below lines earlier).groups.isEmpty = reader.groups.isEmpty :=
    List.isEmpty_map
  unfold readBetween
  by_cases lineBreak : c = '\n'
  · rw [if_pos lineBreak, if_pos lineBreak, outside, endStatement_below]
    cases reader.groups.isEmpty <;> rfl
  rw [if_neg lineBreak, if_neg lineBreak]
  by_cases isBlank : Text.isBlank c
  · rw [if_pos isBlank, if_pos isBlank]
    rfl
  rw [if_neg isBlank, if_neg isBlank]
  by_cases mark : c = '"'
  · rw [if_pos mark, if_pos mark]
    rfl
  rw [if_neg mark, if_neg mark]
  cases Bracket.ofOpener? c with
  | some bracket => exact congrArg Except.ok (openGroup_below lines earlier reader bracket)
  | none =>
      cases Bracket.ofCloser? c with
      | some bracket => exact closeGroup_below lines earlier reader bracket
      | none => by_cases dash : c = '-' <;> simp only [dash, ↓reduceIte] <;> rfl

/-- Further down a character is read in the same way. -/
theorem readInMode_below (c : Char) :
    (reader.below lines earlier).readInMode c =
      comesTo lines (below lines earlier) (reader.readInMode c) := by
  have mode : (reader.below lines earlier).mode = reader.mode.below lines := rfl
  unfold readInMode
  cases inside : reader.mode with
  | between =>
      simp only [mode, inside, Mode.below]
      exact readBetween_below lines earlier reader c
  | dash =>
      simp only [mode, inside, Mode.below, emitToken, emit_below, readBetween_below]
      by_cases dash : c = '-'
      · rw [if_pos dash, if_pos dash]
        rfl
      · rw [if_neg dash, if_neg dash]
        cases endsToken c <;> rfl
  | token read =>
      simp only [mode, inside, Mode.below, emitToken, emit_below, readBetween_below]
      cases endsToken c <;> rfl
  | comment =>
      simp only [mode, inside, Mode.below]
      by_cases lineBreak : c = '\n'
      · rw [if_pos lineBreak, if_pos lineBreak]
        exact readBetween_below lines earlier { reader with mode := .between } c
      · rw [if_neg lineBreak, if_neg lineBreak]
        rfl
  | string opened read =>
      simp only [mode, inside, Mode.below, emit_below]
      by_cases lineBreak : c = '\n'
      · rw [if_pos lineBreak, if_pos lineBreak]
        rfl
      rw [if_neg lineBreak, if_neg lineBreak]
      by_cases mark : c = '"'
      · rw [if_pos mark, if_pos mark]
        rfl
      rw [if_neg mark, if_neg mark]
      by_cases backslash : c = '\\' <;> simp only [backslash, ↓reduceIte] <;> rfl
  | escape opened read =>
      simp only [mode, inside, Mode.below]
      cases unescape? c <;> rfl

/-- Further down a reading finishes in the same way, after the statements that were read earlier. -/
theorem finish_below :
    (reader.below lines earlier).finish =
      comesTo lines (fun statements => earlier.reverse ++ statements.map (·.below lines))
        reader.finish := by
  have mode : (reader.below lines earlier).mode = reader.mode.below lines := rfl
  have settled : (reader.below lines earlier).finishToken =
      comesTo lines (below lines earlier) reader.finishToken := by
    unfold finishToken
    cases inside : reader.mode <;>
      simp only [mode, inside, Mode.below, emitToken, emit_below] <;> rfl
  cases settles : reader.finishToken with
  | error fault =>
      rw [settles] at settled
      rw [finish_of_fault settles, finish_of_fault settled]
      rfl
  | ok last =>
      rw [settles] at settled
      have groups : (last.below lines earlier).groups = last.groups.map (·.below lines) := rfl
      rw [finish_of_settled settles, finish_of_settled settled, groups]
      cases last.groups with
      | cons group outer => rfl
      | nil =>
          rw [List.map_nil, endStatement_below]
          simp [below, comesTo]

/-- What comes of a text further down is what comes of it alone, further down and after the
statements that have been read. -/
theorem resume_below (text : List Char) :
    (reader.below lines earlier).resume text =
      comesTo lines (fun statements => earlier.reverse ++ statements.map (·.below lines))
        (reader.resume text) := by
  induction text generalizing reader with
  | nil => exact finish_below lines earlier reader
  | cons c text ih =>
      have moved : (reader.position.below lines).after c =
          (reader.position.after c).below lines := by
        by_cases lineBreak : c = '\n' <;>
          simp [Position.after, Position.below, lineBreak, Nat.add_right_comm]
      rw [resume_cons, resume_cons, readInMode_below]
      cases reader.readInMode c with
      | error fault => rfl
      | ok next =>
          change resume { next.below lines earlier with
            position := (reader.position.below lines).after c } text = _
          rw [moved]
          exact ih { next with position := reader.position.after c }

/-! ### The end of a line -/

/-- The reader after a line break, all tokens and comments having been left. -/
def endLine (reader : Reader) : Reader :=
  { if reader.groups.isEmpty then reader.endStatement else reader with mode := .between }

variable {reader} {next settled : Reader}

/-- A line break ends tokens as the end of the text does. -/
theorem readInMode_lineBreak (settles : reader.finishToken = .ok settled) :
    reader.readInMode '\n' = .ok settled.endLine := by
  obtain ⟨position, mode, groups, items, start, statements⟩ := reader
  cases mode with
  | between | dash | token | comment =>
      obtain rfl := Except.ok.inj settles
      cases groups <;> cases items <;> rfl
  | string | escape => cases settles

/-- Where a line break is read, what comes before it can be left. -/
theorem exists_finishToken_of_lineBreak (taken : reader.readInMode '\n' = .ok next) :
    ∃ settled, reader.finishToken = .ok settled := by
  obtain ⟨position, mode, groups, items, start, statements⟩ := reader
  cases mode with
  | between | dash | token | comment => exact ⟨_, rfl⟩
  | string | escape => cases taken

/-- A text may end where no group is open once its last token has been left. -/
theorem exists_settled_of_finish {statements : List Statement}
    (finishes : reader.finish = .ok statements) :
    ∃ settled, reader.finishToken = .ok settled ∧ settled.groups = [] ∧
      settled.endStatement.statements.reverse = statements := by
  cases settles : reader.finishToken with
  | error fault =>
      rw [finish_of_fault settles] at finishes
      cases finishes
  | ok settled =>
      rw [finish_of_settled settles] at finishes
      cases outside : settled.groups with
      | cons group outer =>
          rw [outside] at finishes
          cases finishes
      | nil =>
          rw [outside] at finishes
          exact ⟨settled, rfl, outside, Except.ok.inj finishes⟩

/-! ### The lines of the statements -/

/-- The lines of statements, which come last first, are known, descending and all below a bound. -/
inductive Descends : (bound : Nat) → List Statement → Prop
  | nil (bound : Nat) : Descends bound []
  | cons {bound line : Nat} {items : List Event} {statements : List Statement}
      (below : line < bound) (before : Descends line statements) :
      Descends bound (⟨items, some line⟩ :: statements)

/-- A bound of descending lines may be raised. -/
theorem Descends.mono {bound higher : Nat} {statements : List Statement}
    (descends : Descends bound statements) (notLower : bound ≤ higher) :
    Descends higher statements := by
  cases descends with
  | nil => exact .nil higher
  | cons below before => exact .cons (Nat.lt_of_lt_of_le below notLower) before

/-- Descending lines are numbers, each below the one before it and all below the bound. -/
theorem Descends.exists_numbers {bound : Nat} {statements : List Statement}
    (descends : Descends bound statements) :
    ∃ numbers : List Nat, statements.map (·.line) = numbers.map some ∧
      numbers.Pairwise (· > ·) ∧ ∀ number ∈ numbers, number < bound := by
  induction descends with
  | nil bound => exact ⟨[], rfl, .nil, by simp⟩
  | @cons bound line items statements below before ih =>
      obtain ⟨numbers, lines, descending, lower⟩ := ih
      refine ⟨line :: numbers, by simp [lines], descending.cons lower, ?_⟩
      rw [List.forall_mem_cons]
      exact ⟨below, fun number member => Nat.lt_trans (lower number member) below⟩

/-- What the reader keeps about lines: a statement has begun just when it has items or open groups,
it has not begun further down than where the reader is, and the statements before it are further up.
-/
structure IsOrderly (reader : Reader) : Prop where
  begun : reader.start = none ↔ reader.groups = [] ∧ reader.items = []
  reached : ∀ line ∈ reader.start, line ≤ reader.position.line
  before : Descends (reader.start.getD reader.position.line) reader.statements

namespace IsOrderly

/-- A reader that has read nothing is orderly. -/
theorem initial : IsOrderly {} := ⟨by simp, by simp, .nil _⟩

/-- Where the reader is may move down. -/
theorem moved (orderly : reader.IsOrderly) {mode : Mode} {position : Position}
    (notHigher : reader.position.line ≤ position.line) :
    IsOrderly { reader with mode, position } where
  begun := orderly.begun
  reached line start := Nat.le_trans (orderly.reached line start) notHigher
  before := by
    cases start : reader.start with
    | none => simpa [start] using orderly.before.mono (by simpa [start] using notHigher)
    | some line => simpa [start] using orderly.before

/-- A statement that begins does so where the reader is. -/
theorem of_begin (orderly : reader.IsOrderly) {groups : List OpenGroup} {items : List Event}
    (begun : ¬(groups = [] ∧ items = [])) (mode : Mode) :
    IsOrderly { reader.begin with mode, groups, items } := by
  cases start : reader.start with
  | none =>
      refine ⟨by simpa [begin, start] using begun, by simp [begin, start], ?_⟩
      simpa [begin, start] using orderly.before
  | some line =>
      refine ⟨by simpa [begin, start] using begun, ?_, ?_⟩
      · simpa [begin, start] using orderly.reached
      · simpa [begin, start] using orderly.before

/-- Emitting an item keeps the reader orderly. -/
theorem emit (orderly : reader.IsOrderly) (item : Event) : (reader.emit item).IsOrderly :=
  orderly.of_begin (by simp) .between

/-- Opening a group keeps the reader orderly. -/
theorem openGroup (orderly : reader.IsOrderly) (bracket : Bracket) :
    (reader.openGroup bracket).IsOrderly :=
  orderly.of_begin (by simp) reader.mode

/-- Closing a group keeps the reader orderly and in its place. -/
theorem closeGroup (orderly : reader.IsOrderly) {bracket : Bracket}
    (closes : reader.closeGroup bracket = .ok next) :
    next.IsOrderly ∧ next.position = reader.position := by
  unfold Reader.closeGroup at closes
  cases inside : reader.groups with
  | nil =>
      rw [inside] at closes
      cases closes
  | cons group outer =>
      by_cases same : group.bracket = bracket
      · simp only [inside, same, ↓reduceIte, Except.ok.injEq] at closes
        subst closes
        exact ⟨⟨by simp [orderly.begun, inside], orderly.reached, orderly.before⟩, rfl⟩
      · simp only [inside, same, ↓reduceIte] at closes
        cases closes

/-- A statement that ends leaves its statements to the reader, and nothing else. -/
theorem endLine_eq (orderly : reader.IsOrderly) (outside : reader.groups = []) :
    reader.endLine =
      { position := reader.position, statements := reader.endStatement.statements } := by
  obtain ⟨position, mode, groups, items, start, statements⟩ := reader
  obtain rfl : groups = [] := outside
  cases items with
  | nil =>
      obtain rfl : start = none := orderly.begun.mpr ⟨rfl, rfl⟩
      rfl
  | cons item items => rfl

/-- Once a statement has ended, the lines of all statements descend. -/
theorem descends_endStatement (orderly : reader.IsOrderly) (outside : reader.groups = []) :
    Descends (reader.position.line + 1) reader.endStatement.statements := by
  cases items : reader.items with
  | nil =>
      have start : reader.start = none := orderly.begun.mpr ⟨outside, items⟩
      have before := orderly.before.mono (show _ ≤ reader.position.line + 1 by simp [start])
      simpa [Reader.endStatement, items] using before
  | cons item more =>
      obtain ⟨line, start⟩ : ∃ line, reader.start = some line :=
        Option.ne_none_iff_exists'.mp fun start => by simp [orderly.begun.mp start] at items
      have before : Descends line reader.statements := by simpa [start] using orderly.before
      have lower : line < reader.position.line + 1 := Nat.lt_succ_of_le (orderly.reached line start)
      simpa [Reader.endStatement, items, start] using Descends.cons lower before

/-- A line break keeps the reader orderly, further down. -/
theorem endLine (orderly : reader.IsOrderly) {position : Position}
    (lower : reader.position.line < position.line) :
    IsOrderly { reader.endLine with position } := by
  cases outside : reader.groups with
  | nil =>
      rw [orderly.endLine_eq outside]
      exact ⟨by simp, by simp, (orderly.descends_endStatement outside).mono lower⟩
  | cons group outer =>
      have moved : IsOrderly { reader with mode := .between, position } :=
        orderly.moved (Nat.le_of_lt lower)
      simpa [Reader.endLine, outside] using moved

/-- Leaving a token keeps the reader orderly and in its place. -/
theorem finishToken (orderly : reader.IsOrderly) (settles : reader.finishToken = .ok settled) :
    settled.IsOrderly ∧ settled.position = reader.position := by
  unfold Reader.finishToken at settles
  cases inside : reader.mode with
  | between | comment =>
      rw [inside] at settles
      obtain rfl := Except.ok.inj settles
      exact ⟨orderly, rfl⟩
  | dash | token =>
      rw [inside] at settles
      obtain rfl := Except.ok.inj settles
      exact ⟨orderly.emit _, rfl⟩
  | string | escape =>
      rw [inside] at settles
      cases settles

/-- A character that is not a line break leaves the reader on its line. -/
theorem readBetween (orderly : reader.IsOrderly) {c : Char} (notBreak : c ≠ '\n')
    (taken : reader.readBetween c = .ok next) :
    next.IsOrderly ∧ next.position = reader.position := by
  unfold Reader.readBetween at taken
  rw [if_neg notBreak] at taken
  split at taken
  · obtain rfl := Except.ok.inj taken
    exact ⟨orderly, rfl⟩
  split at taken
  · obtain rfl := Except.ok.inj taken
    exact ⟨orderly.moved (Nat.le_refl _), rfl⟩
  split at taken
  · obtain rfl := Except.ok.inj taken
    exact ⟨orderly.openGroup _, rfl⟩
  · exact orderly.closeGroup taken
  · obtain rfl := Except.ok.inj taken
    exact ⟨orderly.moved (Nat.le_refl _), rfl⟩

/-- Every character but a line break keeps the reader orderly and in its place. -/
theorem readInMode (orderly : reader.IsOrderly) {c : Char} (notBreak : c ≠ '\n')
    (taken : reader.readInMode c = .ok next) :
    next.IsOrderly ∧ next.position = reader.position := by
  unfold Reader.readInMode at taken
  cases inside : reader.mode with
  | between =>
      rw [inside] at taken
      exact orderly.readBetween notBreak taken
  | dash =>
      rw [inside] at taken
      simp only at taken
      split at taken
      · obtain rfl := Except.ok.inj taken
        exact ⟨orderly.moved (Nat.le_refl _), rfl⟩
      split at taken
      · exact (orderly.emit _).readBetween notBreak taken
      · obtain rfl := Except.ok.inj taken
        exact ⟨orderly.moved (Nat.le_refl _), rfl⟩
  | token read =>
      rw [inside] at taken
      simp only at taken
      split at taken
      · exact (orderly.emit _).readBetween notBreak taken
      · obtain rfl := Except.ok.inj taken
        exact ⟨orderly.moved (Nat.le_refl _), rfl⟩
  | comment =>
      rw [inside] at taken
      simp only [notBreak, ↓reduceIte, Except.ok.injEq] at taken
      subst taken
      exact ⟨orderly, rfl⟩
  | string opened read =>
      rw [inside] at taken
      simp only [notBreak, ↓reduceIte] at taken
      split at taken
      · obtain rfl := Except.ok.inj taken
        exact ⟨orderly.emit _, rfl⟩
      split at taken
      · obtain rfl := Except.ok.inj taken
        exact ⟨orderly.moved (Nat.le_refl _), rfl⟩
      · obtain rfl := Except.ok.inj taken
        exact ⟨orderly.moved (Nat.le_refl _), rfl⟩
  | escape opened read =>
      rw [inside] at taken
      simp only at taken
      split at taken
      · obtain rfl := Except.ok.inj taken
        exact ⟨orderly.moved (Nat.le_refl _), rfl⟩
      · cases taken

/-- Reading one character. -/
theorem read (orderly : reader.IsOrderly) {c : Char} (taken : reader.read c = .ok next) :
    next.IsOrderly ∧ next.position = reader.position.after c := by
  unfold Reader.read at taken
  cases read : reader.readInMode c with
  | error fault =>
      rw [read] at taken
      cases taken
  | ok inMode =>
      rw [read] at taken
      obtain rfl := Except.ok.inj taken
      refine ⟨?_, rfl⟩
      have line := Position.line_after reader.position c
      by_cases lineBreak : c = '\n'
      · subst lineBreak
        obtain ⟨settled, settles⟩ := exists_finishToken_of_lineBreak read
        obtain rfl := Except.ok.inj ((readInMode_lineBreak settles).symm.trans read)
        obtain ⟨orderly, same⟩ := orderly.finishToken settles
        exact orderly.endLine (by simp [line, same])
      · obtain ⟨orderly, same⟩ := orderly.readInMode lineBreak read
        exact orderly.moved (by simp [line, same])

/-- Reading a text leads down as many lines as it has line breaks. -/
theorem readAll (orderly : reader.IsOrderly) {text : List Char}
    (taken : reader.readAll text = .ok next) :
    next.IsOrderly ∧ next.position.line = reader.position.line + text.count '\n' := by
  induction text generalizing reader with
  | nil =>
      obtain rfl := Except.ok.inj taken
      exact ⟨orderly, rfl⟩
  | cons c text ih =>
      rw [Reader.readAll, List.foldlM_cons] at taken
      cases read : reader.read c with
      | error fault =>
          rw [read] at taken
          cases taken
      | ok middle =>
          rw [read] at taken
          obtain ⟨orderly, position⟩ := orderly.read read
          obtain ⟨orderly, lines⟩ := ih orderly taken
          refine ⟨orderly, ?_⟩
          rw [lines, position, Position.line_after, Nat.add_assoc, ← List.count_append,
            List.singleton_append]

end IsOrderly

/-- Where a text may end, it may go on below: what is below is read from the start, after the
statements of the text. -/
theorem resume_lineBreak (orderly : reader.IsOrderly) {statements : List Statement}
    (finishes : reader.finish = .ok statements) (text : List Char) :
    reader.resume ('\n' :: text) =
      (below reader.position.line statements.reverse {}).resume text := by
  obtain ⟨settled, settles, outside, rfl⟩ := exists_settled_of_finish finishes
  obtain ⟨orderly, same⟩ := orderly.finishToken settles
  have nextLine : reader.position.after '\n' = Position.below {} reader.position.line := by
    simp [Position.after, Position.below, Nat.add_comm]
  rw [resume_cons, readInMode_lineBreak settles, orderly.endLine_eq outside, nextLine,
    List.reverse_reverse]
  rfl

/-- The lines of the statements that are read are known and go up from statement to statement. -/
theorem exists_numbers_of_finish (orderly : reader.IsOrderly) {statements : List Statement}
    (finishes : reader.finish = .ok statements) :
    ∃ numbers : List Nat, statements.map (·.line) = numbers.map some ∧
      numbers.Pairwise (· < ·) := by
  obtain ⟨settled, settles, outside, rfl⟩ := exists_settled_of_finish finishes
  obtain ⟨orderly, -⟩ := orderly.finishToken settles
  obtain ⟨numbers, lines, descending, -⟩ := (orderly.descends_endStatement outside).exists_numbers
  exact ⟨numbers.reverse, by rw [List.map_reverse, lines, List.map_reverse],
    List.pairwise_reverse.mpr descending⟩

end Reader

/-- A script may be continued on the next line. What is there is read as it is read alone, with the
same faults, only further down: the token, the comment and the statement before it have ended. The
lines of the statements of a script go up from statement to statement. -/
theorem parse_append_lineBreak (first second : String) {statements : List Statement}
    (accepted : parse first = .ok statements) :
    parse (first ++ "\n" ++ second) =
        (match parse second with
        | .ok others =>
          .ok (statements ++ others.map (·.below (1 + first.toList.count '\n')))
        | .error fault => .error (fault.below (1 + first.toList.count '\n'))) ∧
      ∃ numbers : List Nat, statements.map (·.line) = numbers.map some ∧
        numbers.Pairwise (· < ·) := by
  rw [parse] at accepted
  cases taken : ({} : Reader).readAll first.toList with
  | error fault =>
      rw [taken] at accepted
      cases accepted
  | ok reader =>
      rw [taken] at accepted
      obtain ⟨orderly, line⟩ := Reader.IsOrderly.initial.readAll taken
      refine ⟨?_, Reader.exists_numbers_of_finish orderly accepted⟩
      have joined : (first ++ "\n" ++ second).toList = first.toList ++ '\n' :: second.toList := by
        simp
      calc parse (first ++ "\n" ++ second)
          = ({} : Reader).readAll first.toList >>=
              (·.readAll ('\n' :: second.toList)) >>= Reader.finish := by
            rw [parse, joined, Reader.readAll_append]
        _ = reader.resume ('\n' :: second.toList) := by rw [taken]; rfl
        _ = (Reader.below reader.position.line statements.reverse {}).resume second.toList :=
            Reader.resume_lineBreak orderly accepted second.toList
        _ = _ := by
            rw [Reader.resume_below, ← Reader.parse_eq_resume, List.reverse_reverse, line]
            cases parse second <;> rfl

/-- Below a text of three lines that ends in a comment, one text is read and another is at fault. -/
theorem parse_append_lineBreak_comment :
    parse "Print a\n\n-b -- (c" =
        .ok [⟨[.bare "Print", .bare "a"], some 1⟩, ⟨[.bare "-b"], some 3⟩] ∧
      parse ("Print a\n\n-b -- (c" ++ "\n" ++ "f\n(\n)") =
        .ok [⟨[.bare "Print", .bare "a"], some 1⟩, ⟨[.bare "-b"], some 3⟩, ⟨[.bare "f"], some 4⟩,
          ⟨[.group []], some 5⟩] ∧
      parse ("Print a\n\n-b -- (c" ++ "\n" ++ "f\n )") =
        .error ⟨.unmatched .round, ⟨5, 2⟩⟩ := by
  have accepted : parse "Print a\n\n-b -- (c" =
      .ok [⟨[.bare "Print", .bare "a"], some 1⟩, ⟨[.bare "-b"], some 3⟩] := rfl
  refine ⟨accepted, ?_, ?_⟩
  · rw [(parse_append_lineBreak _ "f\n(\n)" accepted).1]
    rfl
  · rw [(parse_append_lineBreak _ "f\n )" accepted).1]
    rfl

end Script
end Playbook
