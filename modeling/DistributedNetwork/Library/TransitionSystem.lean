import Mathlib.Data.List.Induction
import Mathlib.Tactic.Common

/-!
# Labelled transition systems with executable steps

A system is a predicate of initial states and a partial, executable step function: a label that is
not enabled has no successor.  Two notions are used everywhere else:

* `run` — replay a list of labels, so that a concrete trace is checked by evaluation (`guardedRun`
  checks a guard on the way);
* `Reaches guard` — the states reached by runs **all of whose steps meet `guard`**.  With the trivial
  guard this is plain reachability (`Reachable`); a property that a program keeps only on part of its
  inputs is an invariant of `Reaches guard` for that part.

`Along P` says that the steps of one run meet `P`.  `Reaches.invariant`, `run_history` and `run_simulation`
are the inductions on runs; everything else is a step lemma.
-/

namespace DistributedNetwork.Library

universe u v

/-- A labelled transition system whose step is a partial function. -/
structure TransitionSystem (State : Type u) (Label : Type v) where
  init : State → Prop
  step : State → Label → Option State

namespace TransitionSystem

variable {State : Type u} {Label : Type v} {S : TransitionSystem State Label}
variable {guard guard' : State → Label → Prop}

/-- Replay a list of labels. -/
def run (S : TransitionSystem State Label) : State → List Label → Option State
  | s, [] => some s
  | s, a :: as => (S.step s a).bind fun s' => run S s' as

/-- The states reached from an initial state by steps that all meet `guard`. -/
inductive Reaches (S : TransitionSystem State Label) (guard : State → Label → Prop) : State → Prop
  | init {s : State} : S.init s → Reaches S guard s
  | step {s s' : State} {a : Label} :
      Reaches S guard s → guard s a → S.step s a = some s' → Reaches S guard s'

/-- The states reached by unrestricted runs. -/
abbrev Reachable (S : TransitionSystem State Label) : State → Prop :=
  S.Reaches fun _ _ => True

/-- **Invariant rule.**  What holds initially and is preserved by every step that meets the guard
holds of every state such runs reach. -/
theorem Reaches.invariant {I : State → Prop} (hinit : ∀ s, S.init s → I s)
    (hstep : ∀ s a s', I s → guard s a → S.step s a = some s' → I s') {s : State}
    (h : S.Reaches guard s) : I s := by
  induction h with
  | init h0 => exact hinit _ h0
  | step _ hg hs ih => exact hstep _ _ _ ih hg hs

theorem Reaches.mono (hle : ∀ s a, guard s a → guard' s a) {s : State}
    (h : S.Reaches guard s) : S.Reaches guard' s := by
  induction h with
  | init h0 => exact .init h0
  | step _ hg hs ih => exact .step ih (hle _ _ hg) hs

/-- A guarded run is a run. -/
theorem Reaches.reachable {s : State} (h : S.Reaches guard s) : S.Reachable s :=
  h.mono fun _ _ _ => trivial

/-- Two lists of labels, one after the other. -/
theorem run_append (s : State) (as bs : List Label) :
    S.run s (as ++ bs) = (S.run s as).bind fun s' => S.run s' bs := by
  induction as generalizing s with
  | nil => rfl
  | cons a as ih =>
    rw [List.cons_append, run, run, Option.bind_assoc]
    exact congrArg _ (funext fun s' => ih s')

/-- A replayed trace ends in a reachable state. -/
theorem Reachable.of_run {s s' : State} {as : List Label} (hs : S.Reachable s)
    (h : S.run s as = some s') : S.Reachable s' := by
  induction as generalizing s with
  | nil =>
    cases h
    exact hs
  | cons a as ih =>
    rw [run, Option.bind_eq_some_iff] at h
    obtain ⟨s₁, hstep, hrun⟩ := h
    exact ih (.step hs trivial hstep) hrun

/-- **Induction on the history of a run**: what holds of the empty history and is preserved by one more step
holds of every history. -/
theorem run_history {s₀ : State} {P : List Label → State → Prop} (hnil : P [] s₀)
    (hstep : ∀ as s a s', P as s → S.run s₀ as = some s → S.step s a = some s' → P (as ++ [a]) s')
    {as : List Label} {s : State} (h : S.run s₀ as = some s) : P as s := by
  induction as using List.reverseRecOn generalizing s with
  | nil =>
    cases h
    exact hnil
  | append_singleton as a ih =>
    rw [run_append, Option.bind_eq_some_iff] at h
    obtain ⟨s₁, hrun, hlast⟩ := h
    rw [run, Option.bind_eq_some_iff] at hlast
    obtain ⟨s₂, hs₂, heq⟩ := hlast
    cases heq
    exact hstep as s₁ a _ (ih hrun) hrun hs₂

/-- Replay a list of labels as long as each meets the guard. -/
def guardedRun (S : TransitionSystem State Label) (guard : State → Label → Prop)
    [∀ s a, Decidable (guard s a)] : State → List Label → Option State
  | s, [] => some s
  | s, a :: as => if guard s a then (S.step s a).bind fun s' => guardedRun S guard s' as else none

/-- A trace replayed under the guard ends in a state that guarded runs reach. -/
theorem Reaches.of_guardedRun [∀ s a, Decidable (guard s a)] {s s' : State} {as : List Label}
    (hs : S.Reaches guard s) (h : S.guardedRun guard s as = some s') : S.Reaches guard s' := by
  induction as generalizing s with
  | nil =>
    cases h
    exact hs
  | cons a as ih =>
    rw [guardedRun] at h
    split at h
    · next hguard =>
      obtain ⟨s₁, hstep, hrun⟩ := Option.bind_eq_some_iff.mp h
      exact ih (.step hs hguard hstep) hrun
    · cases h

/-- A reflexive and transitive relation that every step meets relates the two ends of a run. -/
theorem guardedRun_related [∀ s a, Decidable (guard s a)] {R : State → State → Prop} (hrefl : ∀ s, R s s)
    (htrans : ∀ s₁ s₂ s₃, R s₁ s₂ → R s₂ s₃ → R s₁ s₃) (hstep : ∀ s a s', S.step s a = some s' → R s s')
    {s s' : State} {as : List Label} (h : S.guardedRun guard s as = some s') : R s s' := by
  induction as generalizing s with
  | nil =>
    cases h
    exact hrefl _
  | cons a as ih =>
    rw [guardedRun] at h
    split at h
    · obtain ⟨s₁, hs₁, hrun⟩ := Option.bind_eq_some_iff.mp h
      exact htrans s s₁ s' (hstep s a s₁ hs₁) (ih hrun)
    · cases h

/-- Every step of the run that `labels` describe meets `P`. -/
def Along (S : TransitionSystem State Label) (P : State → Label → Prop) (s : State)
    (labels : List Label) : Prop :=
  ∀ before a after s₁ s₂, labels = before ++ a :: after → S.run s before = some s₁ →
    S.step s₁ a = some s₂ → P s₁ a

/-- One more step. -/
theorem along_concat {P : State → Label → Prop} {s s₁ s₂ : State} {as : List Label} {a : Label}
    (hrun : S.run s as = some s₁) (hstep : S.step s₁ a = some s₂) :
    S.Along P s (as ++ [a]) ↔ S.Along P s as ∧ P s₁ a := by
  constructor
  · intro h
    refine ⟨fun before b after s₃ s₄ has => h before b (after ++ [a]) s₃ s₄ ?_, ?_⟩
    · rw [has, List.append_assoc, List.cons_append]
    · exact h as a [] s₁ s₂ rfl hrun hstep
  · intro h before b after s₃ s₄ has hbefore hb
    obtain rfl | ⟨after, last, rfl⟩ := List.eq_nil_or_concat after
    · obtain ⟨rfl, heq⟩ := List.append_inj' has rfl
      cases heq
      cases hrun.symm.trans hbefore
      exact h.2
    · rw [List.concat_eq_append, ← List.cons_append, ← List.append_assoc] at has
      exact h.1 before b after s₃ s₄ (List.append_inj' has rfl).1 hbefore hb

/-- What agrees on the steps from reachable states agrees on runs. -/
theorem along_congr {P Q : State → Label → Prop} {s : State} (hs : S.Reachable s)
    (h : ∀ s₁ a s₂, S.Reachable s₁ → S.step s₁ a = some s₂ → (P s₁ a ↔ Q s₁ a))
    (labels : List Label) : S.Along P s labels ↔ S.Along Q s labels := by
  constructor <;> intro halong before a after s₁ s₂ hlabels hrun hstep
  · exact (h s₁ a s₂ (hs.of_run hrun) hstep).mp (halong before a after s₁ s₂ hlabels hrun hstep)
  · exact (h s₁ a s₂ (hs.of_run hrun) hstep).mpr (halong before a after s₁ s₂ hlabels hrun hstep)

/-- **Simulation rule.**  If every concrete step from related states is matched by an abstract step
with the same label into related states, then every concrete run is matched by an abstract one. -/
theorem run_simulation {Abstract : Type u} {A : TransitionSystem Abstract Label}
    {R : State → Abstract → Prop}
    (hstep : ∀ s q a s', R s q → S.step s a = some s' → ∃ q', A.step q a = some q' ∧ R s' q')
    {s s' : State} {q : Abstract} {as : List Label} (hR : R s q) (h : S.run s as = some s') :
    ∃ q', A.run q as = some q' ∧ R s' q' := by
  induction as generalizing s q with
  | nil =>
    cases h
    exact ⟨q, rfl, hR⟩
  | cons a as ih =>
    rw [run, Option.bind_eq_some_iff] at h
    obtain ⟨s₁, hs₁, hrun⟩ := h
    obtain ⟨q₁, hq₁, hR₁⟩ := hstep s q a s₁ hR hs₁
    obtain ⟨q', hq', hR'⟩ := ih hR₁ hrun
    refine ⟨q', ?_, hR'⟩
    rw [run, hq₁]
    exact hq'

end TransitionSystem

end DistributedNetwork.Library
