import MetricQuery.Completion.Assembly
import MetricQuery.Server.Document
import MetricQuery.Server.Snippet

/-!
Completion items: candidates as an editor inserts them, each with the edit that it makes.
-/

set_option autoImplicit false

namespace MetricQuery

/-- How an inserted text is to be read. -/
inductive InsertFormat where
  | plain
  | snippet
  deriving DecidableEq, Repr

/-- The code of a format. -/
def InsertFormat.code : InsertFormat → Nat
  | .plain => 1
  | .snippet => 2

/-- The code of a kind of candidate. -/
def CandidateKind.code : CandidateKind → Nat
  | .text => 1
  | .function => 3
  | .keyword => 14
  | .constant => 21

/-- A candidate with the edit that inserts it. -/
structure CompletionItem where
  candidate : Candidate
  format : InsertFormat
  edit : Edit
  deriving DecidableEq, Repr

namespace CompletionItem

/-- The item that puts a candidate in the place of a range. -/
def ofCandidate (range : Range) (c : Candidate) : CompletionItem :=
  let inserted := (c.apply.getD c.label).toList
  if Snippet.isTemplate inserted then
    ⟨c, .snippet, range, String.ofList (Snippet.number inserted)⟩
  else ⟨c, .plain, range, String.ofList inserted⟩

/-- The items of a completion. -/
def ofResult (d : Document) (r : CompletionResult) : List CompletionItem :=
  r.options.map (ofCandidate (d.range r.start r.stop))

end CompletionItem

end MetricQuery
