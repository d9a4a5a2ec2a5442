import Playbook.Proofs.Script.Layout

/-! # Reading piece by piece

The reader takes one character at a time. This module says what it does with the pieces of a layout:
with spacing, with bare and quoted tokens, with the two ends of a group and with the end of a line.
After each of them the reader is between tokens again, and what comes of the rest does not depend on
how the piece was written, except for the position that has been reached.
-/

namespace Playbook.Script

namespace Bracket

/-- Two characters open groups. -/
theorem ofOpener?_eq_none_iff {c : Char} : ofOpener? c = none ↔ c ≠ '(' ∧ c ≠ '[' := by
  rw [ofOpener?, List.find?_eq_none]
  simp [opener, @eq_comm _ _ c]

/-- Two characters close groups. -/
theorem ofCloser?_eq_none_iff {c : Char} : ofCloser? c = none ↔ c ≠ ')' ∧ c ≠ ']' := by
  rw [ofCloser?, List.find?_eq_none]
  simp [closer, @eq_comm _ _ c]

/-- A bracket that is found by its opening character has this character. -/
theorem opener_of_ofOpener? {c : Char} {bracket : Bracket} (found : ofOpener? c = some bracket) :
    bracket.opener = c := by
  simpa using List.find?_some found

/-- A bracket that is found by its closing character has this character. -/
theorem closer_of_ofCloser? {c : Char} {bracket : Bracket} (found : ofCloser? c = some bracket) :
    bracket.closer = c := by
  simpa using List.find?_some found

end Bracket

/-- A character that does not end a token is neither blank nor a quotation mark nor a bracket. -/
theorem endsToken_eq_false_iff {c : Char} :
    endsToken c = false ↔ Text.isBlank c = false ∧ c ≠ '"' ∧ Bracket.ofOpener? c = none ∧
      Bracket.ofCloser? c = none := by
  simp only [endsToken, isDelimiter, Bracket.ofOpener?_eq_none_iff, Bracket.ofCloser?_eq_none_iff,
    Bool.or_eq_false_iff, decide_eq_false_iff_not, List.mem_cons, List.not_mem_nil, or_false]
  grind

/-- A line break ends tokens. -/
theorem ne_lineBreak_of_not_endsToken {c : Char} (plain : endsToken c = false) : c ≠ '\n' := by
  rintro rfl
  exact absurd plain (by decide)

/-- A bare token is not empty, starts no comment and has no character that ends tokens. -/
theorem isBareToken_iff {token : List Char} :
    isBareToken token ↔
      token ≠ [] ∧ startsComment token = false ∧ ∀ c ∈ token, endsToken c = false := by
  simp [isBareToken, endsToken, and_assoc]

/-- A token ends before a character that ends tokens. -/
theorem tokenEnds_cons {c : Char} {rest : List Char} : TokenEnds (c :: rest) ↔ endsToken c := by
  simp [TokenEnds, endsToken]

/-- A line ends before a line break. -/
theorem lineEnds_cons {c : Char} {rest : List Char} : LineEnds (c :: rest) ↔ c = '\n' := by
  simp [LineEnds]

/-- What stands for a character after a backslash is listed. -/
theorem unescape?_eq_some_iff {c meant : Char} :
    unescape? c = some meant ↔ (c, meant) ∈ escapes := by
  unfold unescape? escapes
  split <;> grind

/-- A string stands on one line. -/
theorem Quoting.oneLine {token body : List Char} (quoting : Quoting token body) :
    body.count '\n' = 0 := by
  induction quoting with
  | nil => rfl
  | raw _ _ notBreak _ ih => rw [List.count_cons_of_ne notBreak, ih]
  | @escape c meant _ _ listed _ ih =>
      have notBreak : c ≠ '\n' := by
        rintro rfl
        simp [escapes] at listed
      rw [List.count_cons_of_ne (by decide), List.count_cons_of_ne notBreak, ih]

namespace Position

/-- A line break moves the place to the next line. -/
theorem line_after (position : Position) (c : Char) :
    (position.after c).line = position.line + [c].count '\n' := by
  unfold Position.after
  split <;> simp_all

/-- Every other character keeps the line. -/
theorem line_after_of_ne (position : Position) {c : Char} (notBreak : c ≠ '\n') :
    (position.after c).line = position.line := by
  rw [line_after, List.count_singleton, beq_eq_false_iff_ne.mpr notBreak, if_neg Bool.false_ne_true,
    Nat.add_zero]

end Position

namespace Reader

/-- What comes of reading a text from here to its end. -/
def resume (reader : Reader) (text : List Char) : Except Malformed (List Statement) :=
  reader.readAll text >>= finish

/-- A script is read from its start with nothing at hand. -/
theorem parse_eq_resume (text : String) : parse text = ({} : Reader).resume text.toList := rfl

/-- At its end a reading is finished. -/
theorem resume_nil (reader : Reader) : reader.resume [] = reader.finish := rfl

/-- A reading goes on with the first character, and then with the others. -/
theorem resume_cons (reader : Reader) (c : Char) (text : List Char) :
    reader.resume (c :: text) =
      reader.readInMode c >>= fun next =>
        { next with position := reader.position.after c }.resume text := by
  unfold resume readAll
  rw [List.foldlM_cons, read]
  cases reader.readInMode c <;> rfl

/-- The reader in front of `text` gets to where `next` is in front of `rest`: what comes of the two
is the same, and the line breaks between them have been counted. -/
structure Reaches (reader : Reader) (text : List Char) (next : Reader) (rest : List Char) :
    Prop where
  same : reader.resume text = next.resume rest
  lines : next.position.line + rest.count '\n' = reader.position.line + text.count '\n'

variable {reader next last : Reader} {text rest rear : List Char}

/-- The reader gets to where it is. -/
theorem Reaches.refl (reader : Reader) (text : List Char) : reader.Reaches text reader text :=
  ⟨rfl, rfl⟩

/-- The reader gets on from where it gets to. -/
theorem Reaches.trans (first : reader.Reaches text next rest)
    (second : next.Reaches rest last rear) :
    reader.Reaches text last rear :=
  ⟨first.same.trans second.same, second.lines.trans first.lines⟩

/-- One character that is read without fault. -/
theorem Reaches.of_readInMode {c : Char} (taken : reader.readInMode c = .ok next)
    (text : List Char) :
    reader.Reaches (c :: text) { next with position := reader.position.after c } text := by
  refine ⟨?_, ?_⟩
  · rw [resume_cons, taken]
    rfl
  · rw [← List.singleton_append, List.count_append, Position.line_after, Nat.add_assoc]

/-- One character that cannot be read. -/
theorem resume_of_fault {c : Char} {fault : Malformed}
    (refused : reader.readInMode c = .error fault)
    (text : List Char) : reader.resume (c :: text) = .error fault := by
  rw [resume_cons, refused]
  rfl

/-! ### Spacing -/

/-- A blank between tokens is passed over. A line break must not be one that ends a statement. -/
theorem reaches_blank (between : reader.mode = .between) {c : Char} (isBlank : Text.isBlank c)
    (inside : c = '\n' → reader.groups ≠ [] ∨ reader.items = []) (text : List Char) :
    ∃ position, reader.Reaches (c :: text) { reader with position } text := by
  have taken : reader.readInMode c = .ok reader := by
    by_cases lineBreak : c = '\n'
    · simp only [readInMode, between, readBetween, lineBreak, ↓reduceIte]
      rcases inside lineBreak with opened | empty
      · simp [opened]
      · simp [endStatement, empty]
    · simp only [readInMode, between, readBetween, lineBreak, isBlank, ↓reduceIte]
  exact ⟨_, Reaches.of_readInMode taken text⟩

/-- The words of a comment are passed over. -/
theorem reaches_words (reader : Reader) {words : List Char} (oneLine : '\n' ∉ words)
    (text : List Char) :
    ∃ position, Reaches { reader with mode := .comment } (words ++ text)
      { reader with mode := .comment, position } text := by
  induction words generalizing reader with
  | nil => exact ⟨reader.position, Reaches.refl _ text⟩
  | cons c words ih =>
      rw [List.mem_cons, not_or] at oneLine
      have taken : readInMode { reader with mode := .comment } c =
          .ok { reader with mode := .comment } := by
        simp only [readInMode, Ne.symm oneLine.1, ↓reduceIte]
      obtain ⟨position, more⟩ := ih { reader with position := reader.position.after c } oneLine.2
      exact ⟨position, (Reaches.of_readInMode taken _).trans more⟩

/-- A comment ends in front of the line break. -/
theorem reaches_commentEnd (reader : Reader) (ends : LineEnds text) :
    Reaches { reader with mode := .comment } text { reader with mode := .between } text := by
  refine ⟨?_, rfl⟩
  cases text with
  | nil =>
      obtain ⟨_, _, groups, items, _, _⟩ := reader
      cases groups <;> cases items <;> rfl
  | cons c text =>
      obtain rfl := lineEnds_cons.mp ends
      rfl

/-- A character that does not end a token starts one, or a comment. -/
theorem readBetween_of_not_endsToken (reader : Reader) {c : Char} (plain : endsToken c = false) :
    reader.readBetween c = .ok { reader with mode := if c = '-' then .dash else .token [c] } := by
  obtain ⟨notBlank, notMark, notOpener, notCloser⟩ := endsToken_eq_false_iff.mp plain
  simp only [readBetween, ne_lineBreak_of_not_endsToken plain, notBlank, notMark, notOpener,
    notCloser, ↓reduceIte, Bool.false_eq_true]

/-- The reader gets behind a comment with its items unchanged. -/
theorem reaches_comment (between : reader.mode = .between) {words : List Char}
    (oneLine : '\n' ∉ words) (ends : LineEnds text) :
    ∃ position, reader.Reaches ('-' :: '-' :: (words ++ text)) { reader with position } text := by
  have first : reader.readInMode '-' = .ok { reader with mode := .dash } := by
    simp only [readInMode, between]
    exact readBetween_of_not_endsToken reader (by decide)
  have second (position : Position) : readInMode { reader with mode := .dash, position } '-' =
      .ok { reader with mode := .comment, position } := rfl
  obtain ⟨position, more⟩ := reaches_words
    { reader with position := (reader.position.after '-').after '-' } oneLine text
  have ended := reaches_commentEnd { reader with position } ends
  rw [← between] at ended
  exact ⟨position, (Reaches.of_readInMode first _).trans <|
    (Reaches.of_readInMode (second _) _).trans <| more.trans ended⟩

/-- Spacing is passed over. Its line breaks must not be ones that end a statement. -/
theorem reaches_spacing (reader : Reader) (between : reader.mode = .between) {breaks : Bool}
    (inside : breaks → reader.groups ≠ [] ∨ reader.items = [])
    (spacing : Spacing breaks text rest) :
    ∃ position, reader.Reaches text { reader with position } rest := by
  induction spacing generalizing reader with
  | nothing rest => exact ⟨reader.position, Reaches.refl reader rest⟩
  | @blank c text rest isBlank allowed more ih =>
      obtain ⟨middle, first⟩ :=
        reaches_blank between isBlank (fun lineBreak => inside (allowed lineBreak)) text
      obtain ⟨position, others⟩ := ih { reader with position := middle } between inside
      exact ⟨position, first.trans others⟩
  | @comment words text rest oneLine ends more ih =>
      obtain ⟨middle, first⟩ := reaches_comment between oneLine ends
      obtain ⟨position, others⟩ := ih { reader with position := middle } between inside
      exact ⟨position, first.trans others⟩

/-! ### Tokens -/

/-- The characters of a bare token are collected. -/
theorem reaches_more (reader : Reader) (read : List Char) {more : List Char}
    (plain : ∀ c ∈ more, endsToken c = false) (rest : List Char) :
    ∃ position, Reaches { reader with mode := .token read } (more ++ rest)
      { reader with mode := .token (more.reverse ++ read), position } rest := by
  induction more generalizing reader read with
  | nil => exact ⟨reader.position, Reaches.refl _ rest⟩
  | cons c more ih =>
      have taken : readInMode { reader with mode := .token read } c =
          .ok { reader with mode := .token (c :: read) } := by
        simp only [readInMode, plain c List.mem_cons_self, Bool.false_eq_true, ↓reduceIte]
      obtain ⟨position, others⟩ :=
        ih { reader with position := reader.position.after c } (c :: read)
        (fun other member => plain other (List.mem_cons_of_mem c member))
      rw [List.reverse_cons, List.append_assoc]
      exact ⟨position, (Reaches.of_readInMode taken _).trans others⟩

/-- The end of the text settles what the reader is inside of. -/
theorem finish_of_finishToken (settled : reader.finishToken = .ok next)
    (between : next.mode = .between) : reader.finish = next.finish := by
  have again : next.finishToken = .ok next := by simp only [finishToken, between]
  simp only [finish, settled, again]

/-- A piece that cannot be left at the end of the text is the fault of the reading. -/
theorem finish_of_fault {fault : Malformed} (unsettled : reader.finishToken = .error fault) :
    reader.finish = .error fault := by
  unfold finish
  rw [unsettled]
  rfl

/-- A group that is still open then is at fault. -/
theorem finish_of_settled {settled : Reader} (settles : reader.finishToken = .ok settled) :
    reader.finish = settled.groups.head?.elim (.ok settled.endStatement.statements.reverse)
      fun group => .error ⟨.unclosed group.bracket, group.opened⟩ := by
  unfold finish
  rw [settles]
  cases inside : settled.groups <;> simp [bind, Except.bind, inside]

/-- A bare token ends in front of what ends tokens. -/
theorem reaches_tokenEnd (reader : Reader) {read : List Char}
    (inToken : reader.mode = .token read ∨ reader.mode = .dash ∧ read = ['-'])
    (ends : TokenEnds rest) :
    reader.Reaches rest (reader.emitToken read) rest := by
  refine ⟨?_, rfl⟩
  cases rest with
  | nil =>
      have settled : reader.finishToken = .ok (reader.emitToken read) := by
        rcases inToken with inToken | ⟨afterDash, rfl⟩
        · simp only [finishToken, inToken]
        · simp only [finishToken, afterDash]
      exact finish_of_finishToken settled rfl
  | cons c rest =>
      have ending := tokenEnds_cons.mp ends
      have notDash : c ≠ '-' := by
        rintro rfl
        exact absurd ending (by decide)
      rcases inToken with inToken | ⟨afterDash, rfl⟩
      · simp only [resume_cons, readInMode, inToken, ending, ↓reduceIte]
        rfl
      · simp only [resume_cons, readInMode, afterDash, notDash, ending, ↓reduceIte]
        rfl

/-- A token is emitted on the line it stands on, wherever on the line the reader has got to. -/
theorem emit_of_line_eq (reader : Reader) (mode : Mode) {position : Position} (item : Event)
    (sameLine : position.line = reader.position.line) :
    emit { reader with mode, position } item = { reader.emit item with position } := by
  simp only [emit, begin, sameLine]

/-- What is left of a bare token, the part `read` of it being read, is read and the whole emitted.
-/
theorem reaches_restOfToken (reader : Reader) {position : Position} (read : List Char)
    {more : List Char} (sameLine : position.line = reader.position.line)
    (plain : ∀ c ∈ more, endsToken c = false) (ends : TokenEnds rest) :
    ∃ last, Reaches { reader with mode := .token read, position } (more ++ rest)
      { reader.emit (.bare (String.ofList (read.reverse ++ more))) with
        position := last } rest := by
  obtain ⟨last, collected⟩ := reaches_more { reader with position } read plain rest
  have lastLine : last.line = reader.position.line := by
    have oneLine : more.count '\n' = 0 :=
      List.count_eq_zero.mpr fun member => ne_lineBreak_of_not_endsToken (plain _ member) rfl
    have lines := collected.lines
    rw [List.count_append, oneLine, Nat.zero_add] at lines
    exact (Nat.add_right_cancel lines).trans sameLine
  have ended := reaches_tokenEnd
    { reader with mode := .token (more.reverse ++ read), position := last } (.inl rfl) ends
  rw [emitToken, emit_of_line_eq reader _ _ lastLine, List.reverse_append,
    List.reverse_reverse] at ended
  exact ⟨last, collected.trans ended⟩

/-- The reader gets behind a bare token by emitting its atom. -/
theorem reaches_bare (reader : Reader) (between : reader.mode = .between) {token : List Char}
    (isBare : isBareToken token) (ends : TokenEnds rest) :
    ∃ position, reader.Reaches (token ++ rest)
      { reader.emit (.bare (String.ofList token)) with position } rest := by
  obtain ⟨nonempty, noComment, plain⟩ := isBareToken_iff.mp isBare
  obtain ⟨first, more, rfl⟩ := List.exists_cons_of_ne_nil nonempty
  rw [List.forall_mem_cons] at plain
  have started : reader.readInMode first =
      .ok { reader with mode := if first = '-' then .dash else .token [first] } := by
    simp only [readInMode, between]
    exact readBetween_of_not_endsToken reader plain.1
  have firstRead := Reaches.of_readInMode started (more ++ rest)
  have firstLine : (reader.position.after first).line = reader.position.line :=
    Position.line_after_of_ne _ (ne_lineBreak_of_not_endsToken plain.1)
  by_cases dash : first = '-'
  · subst dash
    cases more with
    | nil =>
        have ended := reaches_tokenEnd
          { reader with mode := .dash, position := reader.position.after '-' }
          (.inr ⟨rfl, rfl⟩) ends
        rw [emitToken, emit_of_line_eq reader _ _ firstLine] at ended
        exact ⟨_, firstRead.trans ended⟩
    | cons second more =>
        rw [List.forall_mem_cons] at plain
        have notDash : second ≠ '-' := by
          rintro rfl
          cases noComment
        have secondRead : readInMode
            { reader with mode := .dash, position := reader.position.after '-' } second =
              .ok { reader with
                mode := .token [second, '-'], position := reader.position.after '-' } := by
          simp only [readInMode, notDash, plain.2.1, Bool.false_eq_true, ↓reduceIte]
        have secondLine : ((reader.position.after '-').after second).line = reader.position.line :=
          (Position.line_after_of_ne _ (ne_lineBreak_of_not_endsToken plain.2.1)).trans firstLine
        obtain ⟨position, others⟩ :=
          reaches_restOfToken reader [second, '-'] secondLine plain.2.2 ends
        exact ⟨position, firstRead.trans <| (Reaches.of_readInMode secondRead _).trans others⟩
  · rw [if_neg dash] at firstRead
    obtain ⟨position, others⟩ := reaches_restOfToken reader [first] firstLine plain.2 ends
    exact ⟨position, firstRead.trans others⟩

/-! ### Strings -/

/-- What stands between quotation marks is collected as the token it stands for. -/
theorem reaches_body (reader : Reader) (opened : Position) (read : List Char)
    {token body : List Char} (quoting : Quoting token body) (rest : List Char) :
    ∃ position, Reaches { reader with mode := .string opened read } (body ++ rest)
      { reader with mode := .string opened (token.reverse ++ read), position } rest := by
  induction quoting generalizing reader read with
  | nil => exact ⟨reader.position, Reaches.refl _ rest⟩
  | @raw c token body notMark notBackslash notBreak more ih =>
      have taken : readInMode { reader with mode := .string opened read } c =
          .ok { reader with mode := .string opened (c :: read) } := by
        simp only [readInMode, notMark, notBackslash, notBreak, ↓reduceIte]
      obtain ⟨position, others⟩ :=
        ih { reader with position := reader.position.after c } (c :: read)
      rw [List.reverse_cons, List.append_assoc]
      exact ⟨position, (Reaches.of_readInMode taken _).trans others⟩
  | @escape c meant token body listed more ih =>
      have backslash : readInMode { reader with mode := .string opened read } '\\' =
          .ok { reader with mode := .escape opened read } := rfl
      have taken (position : Position) :
          readInMode { reader with mode := .escape opened read, position } c =
            .ok { reader with mode := .string opened (meant :: read), position } := by
        simp only [readInMode, unescape?_eq_some_iff.mpr listed]
      obtain ⟨position, others⟩ := ih
        { reader with position := (reader.position.after '\\').after c } (meant :: read)
      rw [List.reverse_cons, List.append_assoc]
      exact ⟨position, (Reaches.of_readInMode backslash _).trans <|
        (Reaches.of_readInMode (taken _) _).trans others⟩

/-- The reader gets behind a string by emitting its atom. -/
theorem reaches_quoted (reader : Reader) (between : reader.mode = .between) {token body : List Char}
    (quoting : Quoting token body) (rest : List Char) :
    ∃ position, reader.Reaches ('"' :: (body ++ '"' :: rest))
      { reader.emit (.quoted (String.ofList token)) with position } rest := by
  have opening : reader.readInMode '"' =
      .ok { reader with mode := .string reader.position [] } := by
    simp only [readInMode, between]
    rfl
  obtain ⟨last, collected⟩ := reaches_body
    { reader with position := reader.position.after '"' } reader.position [] quoting ('"' :: rest)
  rw [List.append_nil] at collected
  have lastLine : last.line = reader.position.line := by
    have lines := collected.lines
    rw [List.count_append, quoting.oneLine, Nat.zero_add] at lines
    exact (Nat.add_right_cancel lines).trans (Position.line_after_of_ne _ (by decide))
  have closing : readInMode
      { reader with mode := .string reader.position token.reverse, position := last } '"' =
        .ok { reader.emit (.quoted (String.ofList token)) with position := last } := by
    rw [← emit_of_line_eq reader (.string reader.position token.reverse) _ lastLine]
    simp [readInMode]
  exact ⟨_, (Reaches.of_readInMode opening _).trans <|
    collected.trans (Reaches.of_readInMode closing _)⟩

/-! ### Groups and lines -/

/-- The reader gets behind an opening bracket by opening a group. -/
theorem reaches_opener (reader : Reader) (between : reader.mode = .between) (bracket : Bracket)
    (text : List Char) :
    ∃ position, reader.Reaches (bracket.opener :: text)
      { reader.openGroup bracket with position } text := by
  have taken : reader.readInMode bracket.opener = .ok (reader.openGroup bracket) := by
    simp only [readInMode, between]
    cases bracket <;> rfl
  exact ⟨_, Reaches.of_readInMode taken text⟩

/-- The reader gets behind the closing bracket of the innermost group by closing the group. -/
theorem reaches_closer (reader : Reader) (between : reader.mode = .between) {bracket : Bracket}
    {opened : Position} {preceding : List Event} {outer : List OpenGroup}
    (inGroup : reader.groups = ⟨bracket, opened, preceding⟩ :: outer) (text : List Char) :
    ∃ position, reader.Reaches (bracket.closer :: text)
      { reader with
        items := .group reader.items.reverse :: preceding, groups := outer, position } text := by
  have taken : reader.readInMode bracket.closer =
      .ok { reader with items := .group reader.items.reverse :: preceding, groups := outer } := by
    have closing : reader.readBetween bracket.closer = reader.closeGroup bracket := by
      cases bracket <;> rfl
    simp only [readInMode, between, closing, closeGroup, inGroup, ↓reduceIte]
  exact ⟨_, Reaches.of_readInMode taken text⟩

/-- A statement is over where its line ends. -/
theorem reaches_lineEnd (reader : Reader) (between : reader.mode = .between)
    (outside : reader.groups = []) (ends : LineEnds rest) :
    reader.Reaches rest reader.endStatement rest := by
  obtain ⟨position, mode, groups, items, start, statements⟩ := reader
  obtain rfl : mode = .between := between
  obtain rfl : groups = [] := outside
  cases items with
  | nil => exact Reaches.refl _ rest
  | cons item items =>
      refine ⟨?_, rfl⟩
      cases rest with
      | nil => rfl
      | cons c rest =>
          obtain rfl := lineEnds_cons.mp ends
          rfl

end Reader
end Playbook.Script
