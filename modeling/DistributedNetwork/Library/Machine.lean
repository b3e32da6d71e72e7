import Mathlib.Data.List.Induction

/-!
# Machines that answer every call

* `Machine` — a state, and for each call an answer and the next state;
* `after`, `answers` — a sequence of calls;
* `answers_eq_iff` — two machines give the same answers if and only if they agree on each call after
  the calls before it;
* `after_invariant` — the induction on sequences, with the calls made so far at hand.
-/

namespace DistributedNetwork.Library

structure Machine (State Call Answer : Type) where
  perform : State → Call → Answer × State

namespace Machine

variable {State Spec Call Answer : Type}

/-- The state after a sequence of calls. -/
def after (m : Machine State Call Answer) (s : State) (calls : List Call) : State :=
  calls.foldl (fun s call => (m.perform s call).2) s

/-- The answers to a sequence of calls. -/
def answers (m : Machine State Call Answer) : State → List Call → List Answer
  | _, [] => []
  | s, call :: calls => (m.perform s call).1 :: answers m (m.perform s call).2 calls

variable (m : Machine State Call Answer)

theorem after_concat (s : State) (calls : List Call) (call : Call) :
    m.after s (calls ++ [call]) = (m.perform (m.after s calls) call).2 := by
  rw [after, List.foldl_append]
  rfl

/-- **Invariant rule.**  `I` speaks of the calls made so far. -/
theorem after_invariant {I : List Call → State → Prop} {s : State} (hinit : I [] s)
    (hstep : ∀ calls s' call, I calls s' → I (calls ++ [call]) (m.perform s' call).2)
    (calls : List Call) : I calls (m.after s calls) := by
  induction calls using List.reverseRecOn with
  | nil => exact hinit
  | append_singleton calls call ih =>
    rw [after_concat]
    exact hstep calls _ call ih

/-- **Equal answers, call by call.** -/
theorem answers_eq_iff (m' : Machine Spec Call Answer) (s : State) (q : Spec) (calls : List Call) :
    m.answers s calls = m'.answers q calls ↔
      ∀ earlier call later, calls = earlier ++ call :: later →
        (m.perform (m.after s earlier) call).1 = (m'.perform (m'.after q earlier) call).1 := by
  induction calls generalizing s q with
  | nil =>
    refine ⟨fun _ earlier call later h => ?_, fun _ => rfl⟩
    exact absurd h.symm (List.append_ne_nil_of_right_ne_nil _ (List.cons_ne_nil _ _))
  | cons first calls ih =>
    rw [answers, answers, List.cons.injEq, ih]
    constructor
    · rintro ⟨hfirst, hlater⟩ earlier call later h
      cases earlier with
      | nil =>
        cases h
        exact hfirst
      | cons e earlier =>
        cases h
        exact hlater earlier call later rfl
    · intro h
      refine ⟨h [] first calls rfl, fun earlier call later hcalls => ?_⟩
      exact h (first :: earlier) call later (by rw [hcalls]; rfl)

end Machine

end DistributedNetwork.Library
