import Playbook.Event.Basic
import Playbook.Text.Characters

/-! # Written form of events

An atom is written as its token where that reads back as the same atom, and between quotation marks
otherwise; a group is written between parentheses, its items separated by single spaces.
-/

namespace Playbook

/-- Holds of the characters that end a bare token without separating it from what follows. -/
def isDelimiter (c : Char) : Bool := c ∈ ['(', ')', '[', ']', '"']

/-- Whether two dashes start a text, as they start a comment. -/
def startsComment : List Char → Bool
  | '-' :: '-' :: _ => true
  | _ => false

/-- Whether a token stands for itself when it is written without quotation marks. -/
def isBareToken (token : List Char) : Bool :=
  !token.isEmpty && !startsComment token && !token.any fun c => Text.isBlank c || isDelimiter c

/-- A token between quotation marks; marks and backslashes in it are escaped. -/
def quoteToken (token : List Char) : List Char :=
  '"' :: (token.flatMap fun c => if c = '\\' ∨ c = '"' then ['\\', c] else [c]) ++ ['"']

namespace Event

mutual

/-- The written form of an event. -/
def written : Event → List Char
  | .atom token quoted =>
    if !quoted && isBareToken token.toList then token.toList else quoteToken token.toList
  | .group items => '(' :: writtenItems items ++ [')']

/-- The written forms of events, separated by spaces. -/
def writtenItems : List Event → List Char
  | [] => []
  | [item] => item.written
  | item :: items => item.written ++ ' ' :: writtenItems items

end

/-- The written form of an event as a text. -/
def render (event : Event) : String := String.ofList event.written

/-- The written form of an event that may be missing. -/
def renderOrNothing : Option Event → String
  | none => "<nothing>"
  | some event => event.render

end Event

namespace Statement

/-- The statement written as a group. -/
def render (statement : Statement) : String := (Event.group statement.items).render

/-- The items of the statement, written one after the other. -/
def text (statement : Statement) : String := String.ofList (Event.writtenItems statement.items)

end Statement
end Playbook
