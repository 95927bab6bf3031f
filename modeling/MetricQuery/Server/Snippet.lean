import MetricQuery.Text.Basic

/-!
Snippets. In a template `${name}` is a placeholder; an editor wants placeholders numbered, as
`${1:name}`. A placeholder opens at the first `${` after the one before it and closes at the first
brace after that; what is never closed is no placeholder.
-/

set_option autoImplicit false

namespace MetricQuery

namespace Snippet

/-- What opens a placeholder. -/
def opening : Text := ['$', '{']

/-- What closes a placeholder. -/
def closing : Text := ['}']

/-- A template in parts: each placeholder with the text before it, and the text after the last. -/
structure Parts where
  placeholders : List (Text × Text)
  rest : Text
  deriving DecidableEq, Repr

/-- The parts of a template. -/
def split (template : Text) : Parts :=
  match opened : Text.cutAt? opening template with
  | none => ⟨[], template⟩
  | some (before, inside) =>
    match closed : Text.cutAt? closing inside with
    | none => ⟨[], template⟩
    | some (name, after) =>
      have shorter : after.length < template.length := by
        have inner := Text.length_cutAt? opened
        have outer := Text.length_cutAt? closed
        simp only [opening, closing, List.length_cons, List.length_nil] at inner outer
        omega
      let more := split after
      ⟨(before, name) :: more.placeholders, more.rest⟩
termination_by template.length

/-- Placeholders written with numbers, from `n` on. -/
def writeNumbered (n : Nat) : List (Text × Text) → Text
  | [] => []
  | (before, name) :: more =>
    before ++ opening ++ (toString n).toList ++ [':'] ++ name ++ closing ++
      writeNumbered (n + 1) more

/-- A template with its placeholders numbered from 1. -/
def number (template : Text) : Text :=
  let parts := split template
  writeNumbered 1 parts.placeholders ++ parts.rest

/-- Whether a text is a template: something opens in it. -/
def isTemplate (t : Text) : Bool := (Text.cutAt? opening t).isSome

end Snippet

end MetricQuery
