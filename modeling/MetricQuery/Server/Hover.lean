import MetricQuery.Server.Document
import MetricQuery.Syntax.Builtin
import MetricQuery.Token.Basic

/-!
Hovering: what is known about the word under the cursor.
-/

set_option autoImplicit false

namespace MetricQuery

/-- Whether a character can stand in a word: an ASCII letter or digit, an underscore or a colon. -/
def isWordChar (c : Char) : Bool := c.isAlphanum || c == '_' || c == ':'

/-- The word that touches the boundary `offset`. -/
def wordAt? (t : Text) (offset : Nat) : Option Span :=
  let before := ((Text.takeBytes? t offset).getD t).reverse.takeWhile isWordChar
  let after := ((Text.dropBytes? t offset).getD []).takeWhile isWordChar
  let length := Text.size before + Text.size after
  if 0 < length then some ⟨offset - Text.size before, length⟩ else none

/-- What is known about a word: as the name of a function, else as that of an aggregation. -/
def wordInfo? (word : String) : Option String :=
  ((QueryFunction.ofName? word).bind QueryFunction.info?).orElse fun _ =>
    (Aggregator.ofName? word).bind Aggregator.info?

/-- A word, where it stands, and what is known about it. -/
structure Hover where
  word : String
  info : String
  range : Range
  deriving DecidableEq, Repr

namespace Hover

/-- What to show at a position. -/
def at? (d : Document) (p : Position) : Option Hover := do
  let span ← wordAt? d.text (d.offset p)
  let word := Text.sliceString d.text span.offset span.stop
  let info ← wordInfo? word
  return ⟨word, info, d.range span.offset span.stop⟩

/-- What is shown, in Markdown. -/
def content (h : Hover) : String := "**" ++ h.word ++ "**\n\n" ++ h.info

end Hover

end MetricQuery
