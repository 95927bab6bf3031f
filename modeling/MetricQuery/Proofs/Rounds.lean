/-!
Loops, round by round. A round either goes on from another state or ends the loop with a result;
nothing bounds how often it goes on.
-/

set_option autoImplicit false

namespace MetricQuery

variable {State Result : Type}

/-- A loop that starts from a state ends, with a result. -/
inductive Ends (round : State → State ⊕ Result) : State → Result → Prop where
  | stop {s : State} {r : Result} (stops : round s = .inr r) : Ends round s r
  | next {s s' : State} {r : Result} (goes : round s = .inl s') (later : Ends round s' r) :
      Ends round s r

/-- A recursion that takes one round at each step gives what the loop ends with, provided that a
round which goes on makes something smaller and that there are as many steps as it is large. -/
theorem ends_of_steps {round : State → State ⊕ Result} (size : State → Nat)
    (run : Nat → State → Result) (smaller : ∀ s s', round s = .inl s' → size s' < size s)
    (finished : ∀ s, size s = 0 → round s = .inr (run 0 s))
    (unrolls : ∀ steps s, run (steps + 1) s = Sum.elim (run steps) id (round s)) {steps : Nat}
    {s : State} (enough : size s ≤ steps) : Ends round s (run steps s) := by
  induction steps generalizing s with
  | zero => exact .stop (finished s (Nat.le_zero.mp enough))
  | succ steps ih =>
    rw [unrolls]
    cases outcome : round s with
    | inr r => exact .stop outcome
    | inl s' =>
      have less := smaller s s' outcome
      exact .next outcome (ih (by omega))

end MetricQuery
