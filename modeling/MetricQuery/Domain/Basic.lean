import MetricQuery.Domain.Composition
import MetricQuery.Domain.Direction
import MetricQuery.Domain.Joining
import MetricQuery.Domain.Mapping
import MetricQuery.Domain.Punycode

/-!
Domains. A domain is a row of labels with dots between them. It has one spelling, in lower case
and composed, and one form in ASCII, where a label with other code points is written behind a mark.
-/

set_option autoImplicit false

namespace MetricQuery.Domain

/-- The mark of a label that stands for one with code points beyond ASCII. -/
def mark : Text := ['x', 'n', '-', '-']

/-- Whether code points are all ASCII. -/
def isAscii (codes : List Nat) : Bool := codes.all (· < 0x80)

/-- Whether a label is well-formed: its code points may stand in a domain, no mark comes first, and
joiners are where they may be. -/
def isLabel (label : List Nat) : Bool :=
  label.all isValid && !((label.head?.map marks.covers).getD false) && joinersFit [] label

/-- The label that a label in its one spelling stands for. What a marked one stands for must not
be ASCII, and must be in its one spelling itself. -/
def readLabel? (label : List Nat) : Option (List Nat) :=
  if (mark.map Char.toNat).isPrefixOf label then
    if isAscii label then
      (Punycode.decode? ((label.drop mark.length).map Char.ofNat)).filter fun read =>
        !isAscii read && (spell? read).map compose == some read && isLabel read
    else none
  else if isLabel label then some label
  else none

/-- A label in ASCII. -/
def asciiLabel (label : List Nat) : Text :=
  if isAscii label then label.map Char.ofNat else mark ++ Punycode.encode label

/-- Splits code points at the dots. -/
def labels : List Nat → List (List Nat)
  | [] => [[]]
  | c :: cs =>
    let rest := labels cs
    if c = '.'.toNat then [] :: rest else (c :: rest.head?.getD []) :: rest.tail

/-- The form of a domain in ASCII; nothing for a text that is no domain. -/
def toAscii? (t : Text) : Option Text := do
  let spelled ← spell? (t.map Char.toNat)
  let read ← (labels (compose spelled)).mapM readLabel?
  if !read.any isRight || read.all isStraight then
    some (['.'].intercalate (read.map asciiLabel))
  else none

end MetricQuery.Domain
