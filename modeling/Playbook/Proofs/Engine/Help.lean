import Playbook.Proofs.Command.Usage
import Playbook.Proofs.Engine.Dispatch

/-! # The reference

The reference of an engine is a list of lines, in which nothing but the order tells the sections of
the subsystems and the commands in them apart. The module takes it to pieces again: there is a
section for each subsystem that is registered, with the usage of each of its commands, and what
stands first in a usage is the name by which a script reaches the subsystem. The title alone decides
whether it does, so the section of a subsystem that is called Core leaves its name out, as that of
the core commands does.
-/

namespace Playbook

/-- The lines about a command, whose usage starts with the name of a subsystem if that is given. -/
def Command.IsExplainedBy (command : Command) (subsystem : Option String) (lines : List String) :
    Prop :=
  ∃ usage, command.usage subsystem = .ok usage ∧
    lines = "" :: ("    " ++ usage ++ "  (" ++ command.kind.name ++ ")") ::
      if command.doc.isEmpty then [] else "" :: Text.lines command.doc

/-- The lines of a section whose usages start with the name of a subsystem if that is given: the
title, the description and the lines about each command in the order of the table, with empty lines
between. -/
def Section.IsToldBy (part : Section) (subsystem : Option String) (lines : List String) : Prop :=
  ∃ parts,
    List.Forall₂ (fun command part => command.IsExplainedBy subsystem part) part.commands parts ∧
    lines = ("## " ++ part.title) ::
      ((part.description.filter (!·.isEmpty)).toList.flatMap fun text => ["", text]) ++
        parts.flatten ++ [""]

/-- The lines of a command explain it under the name of the section. -/
theorem Section.commandLines_eq_ok_iff {part : Section} {command : Command} {lines : List String} :
    part.commandLines command = .ok lines ↔ command.IsExplainedBy part.subsystem? lines := by
  rw [commandLines, usageLine, Command.IsExplainedBy]
  cases command.usage part.subsystem? with
  | error signal => exact iff_of_false nofun nofun
  | ok usage =>
      constructor
      · rintro ⟨⟩
        exact ⟨usage, rfl, rfl⟩
      · rintro ⟨_, ⟨⟩, rfl⟩
        rfl

/-- The lines of a section tell of it under its name. -/
theorem Section.lines_eq_ok_iff {part : Section} {lines : List String} :
    part.lines = .ok lines ↔ part.IsToldBy part.subsystem? lines := by
  simp only [IsToldBy, ← commandLines_eq_ok_iff, ← mapM_eq_ok_iff]
  exact bind_pure_eq_ok_iff

/-- The lines of the section of a subsystem, whose name stands before each usage unless it is Core.
-/
def Subsystem.IsToldBy (subsystem : Subsystem) (lines : List String) : Prop :=
  (Section.ofSubsystem subsystem).IsToldBy
    (if subsystem.name = "Core" then none else some subsystem.name) lines

/-! ### Sections that can be told -/

/-- A command can be explained if its defaults can be shown. -/
theorem Command.exists_isExplainedBy_iff {command : Command} {subsystem : Option String} :
    (∃ lines, command.IsExplainedBy subsystem lines) ↔ command.ShowsDefaults := by
  rw [← exists_usage_iff]
  exact ⟨fun ⟨_, usage, shown, _⟩ => ⟨usage, shown⟩, fun ⟨usage, shown⟩ => ⟨_, usage, shown, rfl⟩⟩

/-- There is a section if all defaults in it can be shown. -/
theorem Section.exists_isToldBy_iff {part : Section} {subsystem : Option String} :
    (∃ lines, part.IsToldBy subsystem lines) ↔
      ∀ command ∈ part.commands, command.ShowsDefaults := by
  calc
    _ ↔ ∃ parts, List.Forall₂ (fun command lines => command.IsExplainedBy subsystem lines)
          part.commands parts :=
      ⟨fun ⟨_, parts, each, _⟩ => ⟨parts, each⟩, fun ⟨parts, each⟩ => ⟨_, parts, each, rfl⟩⟩
    _ ↔ ∀ command ∈ part.commands, ∃ lines, command.IsExplainedBy subsystem lines :=
      exists_forall₂_iff
    _ ↔ _ := forall₂_congr fun _ _ => Command.exists_isExplainedBy_iff

/-- A subsystem can be told of if the defaults of its commands can be shown. -/
theorem Subsystem.exists_isToldBy_iff {subsystem : Subsystem} :
    (∃ lines, subsystem.IsToldBy lines) ↔ ∀ command ∈ subsystem.commands, command.ShowsDefaults :=
  Section.exists_isToldBy_iff

/-- The core commands can be told of. -/
theorem Section.exists_core : ∃ lines, Section.core.IsToldBy none lines :=
  ⟨_, Section.lines_eq_ok_iff.mp rfl⟩

/-! ### Lines that look like usages -/

/-- A line is laid out as that of a usage is. -/
def LooksLikeUsage (line : String) : Prop :=
  ∃ (usage : String) (kind : CommandKind), line = "    " ++ usage ++ "  (" ++ kind.name ++ ")"

/-- A line that looks like a usage is indented. -/
theorem LooksLikeUsage.head {line : String} (looks : LooksLikeUsage line) :
    line.toList.head? = some ' ' := by
  obtain ⟨usage, kind, rfl⟩ := looks
  simp

/-- A line that looks like a usage is one, unless the description or a documentation has such a
line. -/
theorem Section.IsToldBy.of_looksLikeUsage {part : Section} {subsystem : Option String}
    {lines : List String} (told : part.IsToldBy subsystem lines) {line : String}
    (member : line ∈ lines) (looks : LooksLikeUsage line) :
    (∃ command ∈ part.commands, ∃ usage, command.usage subsystem = .ok usage ∧
        line = "    " ++ usage ++ "  (" ++ command.kind.name ++ ")") ∨
      part.description = some line ∨ ∃ command ∈ part.commands, line ∈ Text.lines command.doc := by
  have head := looks.head
  have nonempty : line ≠ "" := by
    rintro rfl
    simp at head
  obtain ⟨parts, each, rfl⟩ := told
  simp only [List.mem_append, List.mem_cons, List.mem_flatMap, List.not_mem_nil, or_false, nonempty,
    List.mem_flatten, Option.mem_toList, Option.filter_eq_some_iff, false_or] at member
  rcases member with (rfl | ⟨text, ⟨described, -⟩, rfl⟩) | ⟨lines, inside, member⟩
  · simp at head
  · exact .inr (.inl described)
  · obtain ⟨command, listed, usage, shown, rfl⟩ := exists_of_mem_right each inside
    simp only [List.mem_cons, nonempty, false_or] at member
    rcases member with rfl | documented
    · exact .inl ⟨command, listed, usage, shown, rfl⟩
    · refine .inr (.inr ⟨command, listed, ?_⟩)
      split_ifs at documented
      · cases documented
      · simpa [nonempty] using documented

/-- A usage under a name starts with the name. -/
theorem Command.exists_of_usage_some {command : Command} {name usage : String}
    (shown : command.usage (some name) = .ok usage) : ∃ rest, usage = name ++ rest := by
  obtain ⟨words, -, rfl⟩ := usage_eq_ok_iff.mp shown
  cases empty : name.isEmpty with
  | true =>
      rw [String.isEmpty_iff] at empty
      exact ⟨_, by rw [empty, String.empty_append]⟩
  | false =>
      refine ⟨" " ++ " ".intercalate (command.name :: words.filterMap id), ?_⟩
      simp [Option.filter, empty, String.intercalate_cons_cons, String.append_assoc]

namespace Engine
variable {engine : Engine} {subsystem : Subsystem}

/-! ### The way to a subsystem -/

/-- The subsystem of a name is the entry that has it, whatever the case. -/
theorem get?_eq_some_iff (isTable : engine.registry.IsTable) {name : String} :
    engine.registry.get? name = some subsystem ↔
      subsystem ∈ engine.registry.entries ∧ subsystem.key = Text.lower name :=
  find?_key_eq_some_iff Subsystem.key isTable.distinct (Text.lower name) subsystem

/-- A statement whose head names a subsystem goes to its table. -/
theorem route_of_get? {statement : Statement} {head : String} {quoted : Bool} {rest : List Event}
    (items : statement.items = .atom head quoted :: rest)
    (found : engine.registry.get? head = some subsystem) :
    engine.route statement = .ok ⟨subsystem.table, ⟨rest, statement.line⟩⟩ := by
  simp only [Engine.route, items, found]

/-- A statement goes to the table of a subsystem exactly if it starts with the name, whatever the
case. -/
theorem exists_route_iff (isTable : engine.registry.IsTable)
    (registered : subsystem ∈ engine.registry.entries) {statement : Statement} :
    (∃ route, engine.route statement = .ok route ∧ route.table = subsystem.table) ↔
      ∃ head quoted rest, statement.items = .atom head quoted :: rest ∧
        Text.lower head = subsystem.key := by
  constructor
  · rintro ⟨route, routed, table⟩
    unfold Engine.route at routed
    split at routed
    · cases routed
    next head quoted rest items =>
      split at routed
      next other found =>
        obtain rfl := Except.ok.inj routed
        obtain ⟨-, same⟩ := (get?_eq_some_iff isTable).mp found
        have name : other.name = subsystem.name :=
          Option.some.inj (congrArg CommandTable.subsystem table)
        rw [Subsystem.key, name] at same
        exact ⟨head, quoted, rest, items, same.symm⟩
      next =>
        split at routed
        · obtain rfl := Except.ok.inj routed
          cases congrArg CommandTable.subsystem table
        · cases routed
    · cases routed
  · rintro ⟨head, quoted, rest, items, same⟩
    have found := (get?_eq_some_iff isTable).mpr ⟨registered, same.symm⟩
    exact ⟨_, route_of_get? items found, rfl⟩

/-- What stands first in a usage names the command: its subsystem and then itself. -/
theorem named?_of_mem (isTable : engine.registry.IsTable)
    (registered : subsystem ∈ engine.registry.entries) {command : Command}
    (listed : command ∈ subsystem.commands) (quoted quoted' : Bool) (arguments : List Event)
    (line : Option Nat) :
    engine.named? ⟨.atom subsystem.name quoted :: .atom command.name quoted' :: arguments, line⟩ =
      some (command, ⟨.atom command.name quoted' :: arguments, line⟩) := by
  have found := (get?_eq_some_iff isTable).mpr ⟨registered, rfl⟩
  have named : subsystem.commands.find? (·.isNamed command.name) = some command :=
    (find?_key_eq_some_iff (fun command : Command => Text.lower command.name)
      (isTable.tables subsystem registered) (Text.lower command.name) command).mpr ⟨listed, rfl⟩
  refine named?_eq_some_iff.mpr ⟨_, route_of_get? rfl found, rfl, ?_⟩
  simp only [CommandTable.find, Subsystem.table, named]

/-! ### The sections -/

/-- The lines of a subsystem tell of it. -/
theorem lines_ofSubsystem_eq_ok_iff {lines : List String} :
    (Section.ofSubsystem subsystem).lines = .ok lines ↔ subsystem.IsToldBy lines :=
  Section.lines_eq_ok_iff

/-- The lines of the core commands tell of them without a name. -/
theorem lines_core_eq_ok_iff {lines : List String} :
    Section.core.lines = .ok lines ↔ Section.core.IsToldBy none lines :=
  Section.lines_eq_ok_iff

/-- The whole reference tells of the core commands and of each subsystem in turn. -/
theorem help_none_eq_ok_iff {lines : List String} :
    engine.help none = .ok lines ↔ ∃ core parts, Section.core.IsToldBy none core ∧
      List.Forall₂ Subsystem.IsToldBy engine.registry.sorted parts ∧
        lines = core ++ parts.flatten := by
  have sections {parts : List (List String)} : engine.sections.mapM (·.lines) = .ok parts ↔
      ∃ core others, Section.core.IsToldBy none core ∧
        List.Forall₂ Subsystem.IsToldBy engine.registry.sorted others ∧ parts = core :: others := by
    rw [mapM_eq_ok_iff, Engine.sections, List.forall₂_cons_left_iff]
    simp only [List.forall₂_map_left_iff, lines_core_eq_ok_iff, lines_ofSubsystem_eq_ok_iff]
  change engine.reference.mapError _ = _ ↔ _
  rw [mapError_eq_ok_iff, reference, map_eq_pure_bind]
  refine bind_pure_eq_ok_iff.trans ?_
  constructor
  · rintro ⟨parts, read, rfl⟩
    obtain ⟨core, others, told, each, rfl⟩ := sections.mp read
    exact ⟨core, others, told, each, rfl⟩
  · rintro ⟨core, others, told, each, rfl⟩
    exact ⟨_, sections.mpr ⟨core, others, told, each, rfl⟩, rfl⟩

/-- There is a reference if all defaults of the subsystems can be shown; the core commands have
none. -/
theorem exists_help_none_iff : (∃ lines, engine.help none = .ok lines) ↔
    ∀ subsystem ∈ engine.registry.sorted, ∀ command ∈ subsystem.commands,
      command.ShowsDefaults := by
  simp only [help_none_eq_ok_iff, ← Subsystem.exists_isToldBy_iff, ← exists_forall₂_iff]
  constructor
  · rintro ⟨_, _, parts, -, each, -⟩
    exact ⟨parts, each⟩
  · rintro ⟨parts, each⟩
    obtain ⟨core, told⟩ := Section.exists_core
    exact ⟨_, core, parts, told, each, rfl⟩

/-- The reference for a name tells of the subsystem that has it. -/
theorem help_some_eq_ok_iff (isTable : engine.registry.IsTable)
    (registered : subsystem ∈ engine.registry.entries) {name : String}
    (same : Text.lower name = subsystem.key) {lines : List String} :
    engine.help (some name) = .ok lines ↔ subsystem.IsToldBy lines := by
  have found := (Registry.get_eq_ok_iff isTable).mpr ⟨registered, same.symm⟩
  simp only [help, found]
  exact mapError_eq_ok_iff.trans lines_ofSubsystem_eq_ok_iff

end Engine

/-- **Help.** The reference of an engine, whatever registrations were tried, is the section of the
core commands followed by one for each subsystem that was accepted, in the order of the names in
lower case, and the reference under a name in any case is the section of that subsystem alone; there
is none only where a default has no shown form. The section has the usage of each command in the
order of the table, after the name of the subsystem unless that is Core. So, unless it is, a line
that looks like a usage starts with the name, if it is not in the description or a documentation.
The name is what a script has to write first: no statement without it comes to the subsystem, and
with it and the name of a command, as they stand in the usage, it comes to the command. -/
theorem help_isComplete (calls : List Subsystem) :
    let engine : Engine := ⟨Registry.afterCalls calls⟩
    ∃ subsystems : List Subsystem,
      (∀ subsystem, subsystem ∈ subsystems ↔ Registry.WasAccepted calls subsystem) ∧
      subsystems.Pairwise (fun left right => left.key < right.key) ∧
      (∀ lines, engine.help none = .ok lines ↔ ∃ core parts, Section.core.IsToldBy none core ∧
        List.Forall₂ Subsystem.IsToldBy subsystems parts ∧ lines = core ++ parts.flatten) ∧
      ((∃ lines, engine.help none = .ok lines) ↔
        ∀ subsystem ∈ subsystems, ∀ command ∈ subsystem.commands, command.ShowsDefaults) ∧
      ∀ subsystem ∈ subsystems,
        (∀ name, Text.lower name = subsystem.key →
          (∀ lines, engine.help (some name) = .ok lines ↔ subsystem.IsToldBy lines) ∧
          ((∃ lines, engine.help (some name) = .ok lines) ↔
            ∀ command ∈ subsystem.commands, command.ShowsDefaults)) ∧
        (subsystem.name ≠ "Core" → ∀ lines, engine.help (some subsystem.name) = .ok lines →
          ∀ line ∈ lines, LooksLikeUsage line → (∃ rest, line = "    " ++ subsystem.name ++ rest) ∨
            subsystem.description = some line ∨
            ∃ command ∈ subsystem.commands, line ∈ Text.lines command.doc) ∧
        (∀ statement,
          (∃ route, engine.route statement = .ok route ∧ route.table = subsystem.table) ↔
          ∃ head quoted rest, statement.items = .atom head quoted :: rest ∧
            Text.lower head = subsystem.key) ∧
        ∀ command ∈ subsystem.commands, ∀ quoted quoted' arguments line, engine.named?
            ⟨.atom subsystem.name quoted :: .atom command.name quoted' :: arguments, line⟩ =
          some (command, ⟨.atom command.name quoted' :: arguments, line⟩) := by
  intro engine
  have isTable : engine.registry.IsTable := Registry.isTable_afterCalls calls
  have tabulates := Registry.tabulates_afterCalls calls
  refine ⟨engine.registry.sorted, tabulates.lists, tabulates.ordered,
    fun _ => Engine.help_none_eq_ok_iff, Engine.exists_help_none_iff, fun subsystem listed => ?_⟩
  have registered : subsystem ∈ engine.registry.entries := Registry.mem_sorted_iff.mp listed
  have helps {name : String} (same : Text.lower name = subsystem.key) (lines : List String) :
      engine.help (some name) = .ok lines ↔ subsystem.IsToldBy lines :=
    Engine.help_some_eq_ok_iff isTable registered same
  refine ⟨fun name same => ⟨helps same, ?_⟩, ?_,
    fun _ => Engine.exists_route_iff isTable registered,
    fun _ member _ _ _ _ => Engine.named?_of_mem isTable registered member _ _ _ _⟩
  · rw [exists_congr (helps same), Subsystem.exists_isToldBy_iff]
  · intro other lines told line member looks
    have told : (Section.ofSubsystem subsystem).IsToldBy (some subsystem.name) lines := by
      simpa only [Subsystem.IsToldBy, if_neg other] using (helps rfl lines).mp told
    rcases told.of_looksLikeUsage member looks with ⟨command, -, usage, shown, rfl⟩ | elsewhere
    · obtain ⟨rest, rfl⟩ := Command.exists_of_usage_some shown
      exact .inl ⟨_, by simp only [String.append_assoc]; rfl⟩
    · exact .inr elsewhere

/-- A view of a subsystem that is called like the section of the core commands. -/
def takeCommand : Command where
  name := "Take"
  parameters := [.required "item" Coerce.string]
  handler := .view fun _ _ => .done (.datum (.value .nothing))
  wellFormed := rfl

/-- The usage leaves out the name of such a subsystem, but a script must not. -/
theorem help_omitsCore :
    let subsystem : Subsystem := ⟨"Core", [takeCommand], none⟩
    let engine : Engine := ⟨⟨[subsystem]⟩⟩
    Registry.ofList [subsystem] = .ok engine.registry ∧
      takeCommand.usage (some "Core") = .ok "Core Take <item>" ∧
      engine.help (some "Core") = .ok ["## Core", "", "    Take <item>  (view)", ""] ∧
      engine.named? ⟨[.bare "Take", .bare "x"], none⟩ = none ∧
      engine.named? ⟨[.bare "Core", .bare "Take", .bare "x"], none⟩ =
        some (takeCommand, ⟨[.bare "Take", .bare "x"], none⟩) := by
  refine ⟨Registry.ofList_eq_ok_iff.mpr ⟨rfl, List.nodup_singleton _, ?_⟩, rfl, rfl, rfl, rfl⟩
  exact List.forall_mem_singleton.mpr (List.nodup_singleton _)

end Playbook
