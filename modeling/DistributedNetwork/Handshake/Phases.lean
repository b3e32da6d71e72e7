import Mathlib.Data.Int.Notation
import Mathlib.Tactic.Common
import DistributedNetwork.Library.TransitionSystem

/-!
# The handshake, abstractly

Two sides may each open **one** connection to the other.  All that matters of a connection is its
`Phase`, and the phases of the two connections determine every table: this file is the protocol
without nodes, sessions or messages.

* `Phase.next` — the one next phase of a connection, given the other one's;
* `Coherent` — how the two phases fit together, kept by every step (`coherent_next`);
* `survivor_of_settled` — once both connections are settled, exactly one of them is established and
  the other is gone or was never opened, unless a reply has been **ignored**.
-/

namespace DistributedNetwork.Handshake

open DistributedNetwork.Library

inductive Side where
  | A
  | B
  deriving DecidableEq

namespace Side

def other : Side → Side
  | A => B
  | B => A

@[simp] theorem other_other (x : Side) : x.other.other = x := by
  cases x <;> rfl

theorem other_ne (x : Side) : x.other ≠ x := by
  cases x <;> nofun

theorem eq_or_eq_other (x y : Side) : y = x ∨ y = x.other := by
  cases x <;> cases y <;> simp [other]

end Side

/-- Why a connection is taken down: the peer had one already, or both were opened at once. -/
inductive Refusal where
  | serial
  | parallel
  deriving DecidableEq

/-- The life of a connection, from the side that opens it. -/
inductive Phase where
  | unopened
  /-- its `ClientInfo` is under way -/
  | greeting
  /-- the reply `0` is under way, and the peer has recorded the connection -/
  | accepted
  /-- the reply `-3` is under way -/
  | refused
  /-- the opener has recorded the connection as well -/
  | established
  /-- the opener has received the reply `0` and done nothing -/
  | ignored
  /-- the opener's request to destroy it is queued -/
  | ending (refusal : Refusal)
  /-- the opener has closed it, and the peer has not noticed -/
  | closing (refusal : Refusal)
  /-- the peer's request to destroy it is queued -/
  | noticed (refusal : Refusal)
  | gone
  deriving DecidableEq

namespace Phase

/-- The peer's table holds the connection. -/
def held : Phase → Bool
  | accepted | established | ignored => true
  | ending .parallel | closing .parallel | noticed .parallel => true
  | _ => false

/-- The connection is or will be taken down. -/
def losing : Phase → Bool
  | refused | ending _ | closing _ | noticed _ | gone => true
  | _ => false

/-- The connection is there to stay, as far as its opener is concerned. -/
def winning : Phase → Bool
  | accepted | established | ignored => true
  | _ => false

/-- The connection lost to one opened at the same time. -/
def tied : Phase → Bool
  | ending .parallel | closing .parallel | noticed .parallel => true
  | _ => false

/-- Nothing more happens to the connection by itself. -/
def settled : Phase → Bool
  | unopened | established | ignored | gone => true
  | _ => false

/-- The next phase of a connection.  `smaller` tells whether the opener has the smaller node id,
`rival` is the phase of the connection in the other direction. -/
def next (smaller : Bool) (rival : Phase) : Phase → Option Phase
  | unopened => some greeting
  | greeting => some (if rival = established then refused else accepted)
  | accepted =>
    if rival.held = true then some (if smaller = true then ending .parallel else ignored)
    else some established
  | refused => some (ending .serial)
  | ending refusal => some (closing refusal)
  | closing refusal => some (noticed refusal)
  | noticed _ => some gone
  | established | ignored | gone => none

end Phase

/-! ### How the two connections fit together -/

/-- What the phase of a connection says about its rival. -/
structure Coherent (smaller : Bool) (own rival : Phase) : Prop where
  /-- the opener has only one entry for the peer -/
  single : own = .established → rival.held = false
  loser : own.losing = true → rival.winning = true
  tie : own.tied = true → smaller = true
  larger : own = .ignored → smaller = false

theorem Phase.held_cases {p : Phase} (h : p.held = true) : p.winning = true ∨ p.tied = true := by
  cases p with
  | ending refusal => cases refusal <;> first | exact .inr rfl | cases h
  | closing refusal => cases refusal <;> first | exact .inr rfl | cases h
  | noticed refusal => cases refusal <;> first | exact .inr rfl | cases h
  | _ => first | exact .inl rfl | cases h

theorem Phase.not_losing_of_winning {p : Phase} (h : p.winning = true) : p.losing = false := by
  cases p <;> first | rfl | cases h

theorem Phase.settled_cases {p : Phase} (h : p.settled = true) :
    p = .unopened ∨ p = .established ∨ p = .ignored ∨ p = .gone := by
  cases p <;> first | cases h; done | simp

namespace Coherent

variable {smaller : Bool} {own rival own' : Phase}

/-- A connection on its way down goes on, and never holds more than before. -/
theorem losing_next (h : Coherent smaller own rival) (h' : Coherent (!smaller) rival own)
    (hlosing : own.losing = true) (hlosing' : own'.losing = true)
    (hheld : own'.held = true → own.held = true) (htied : own'.tied = true → own.tied = true) :
    Coherent smaller own' rival ∧ Coherent (!smaller) rival own' := by
  have hrival : rival.losing = false := Phase.not_losing_of_winning (h.loser hlosing)
  refine ⟨⟨?_, fun _ => h.loser hlosing, fun ht => h.tie (htied ht), ?_⟩, ⟨?_, ?_, h'.tie, h'.larger⟩⟩
  · rintro rfl
    cases hlosing'
  · rintro rfl
    cases hlosing'
  · intro he
    by_contra hh
    have hown := hheld (by simpa using hh)
    rw [h'.single he] at hown
    cases hown
  · intro hl
    rw [hrival] at hl
    cases hl

/-- The reply `0` reaches an opener that has no entry. -/
theorem establish (h' : Coherent (!smaller) rival .accepted) (hfree : rival.held = false) :
    Coherent smaller .established rival ∧ Coherent (!smaller) rival .established := by
  refine ⟨⟨fun _ => hfree, nofun, nofun, nofun⟩, ⟨?_, fun _ => rfl, h'.tie, h'.larger⟩⟩
  rintro rfl
  cases hfree

/-- The reply `0` reaches an opener that has the peer's connection as its entry: whoever has the
smaller id takes its own connection down. -/
theorem tie_break (h' : Coherent (!smaller) rival .accepted) (hheld : rival.held = true) :
    let own' := if smaller = true then Phase.ending .parallel else Phase.ignored
    Coherent smaller own' rival ∧ Coherent (!smaller) rival own' := by
  have hrival : rival ≠ .established := fun he => by cases h'.single he
  cases smaller with
  | true =>
    have hwins : rival.winning = true := by
      rcases Phase.held_cases hheld with hw | ht
      · exact hw
      · cases h'.tie ht
    refine ⟨⟨nofun, fun _ => hwins, fun _ => rfl, nofun⟩, ⟨?_, ?_, h'.tie, h'.larger⟩⟩
    · exact fun he => absurd he hrival
    · intro hl
      rw [Phase.not_losing_of_winning hwins] at hl
      cases hl
  | false =>
    refine ⟨⟨nofun, nofun, nofun, fun _ => rfl⟩, ⟨?_, fun _ => rfl, h'.tie, h'.larger⟩⟩
    exact fun he => absurd he hrival

end Coherent

/-- **Step lemma.**  The next phase of a connection fits its rival, seen from both sides. -/
theorem coherent_next {smaller : Bool} {own rival own' : Phase} (h : Coherent smaller own rival)
    (h' : Coherent (!smaller) rival own) (hnext : Phase.next smaller rival own = some own') :
    Coherent smaller own' rival ∧ Coherent (!smaller) rival own' := by
  cases own with
  | unopened =>
    cases hnext
    refine ⟨⟨nofun, nofun, nofun, nofun⟩, ⟨fun _ => rfl, ?_, h'.tie, h'.larger⟩⟩
    exact fun hl => absurd (h'.loser hl) nofun
  | greeting =>
    cases hnext
    split
    · next he =>
      subst he
      exact ⟨⟨nofun, fun _ => rfl, nofun, nofun⟩, ⟨fun _ => rfl, nofun, nofun, nofun⟩⟩
    · next he =>
      refine ⟨⟨nofun, nofun, nofun, nofun⟩, ⟨?_, fun _ => rfl, h'.tie, h'.larger⟩⟩
      exact fun hr => absurd hr he
  | accepted =>
    dsimp only [Phase.next] at hnext
    split at hnext
    · next hheld =>
      cases hnext
      exact Coherent.tie_break h' hheld
    · next hfree =>
      cases hnext
      exact Coherent.establish h' (by simpa using hfree)
  | refused =>
    cases hnext
    exact h.losing_next h' rfl rfl nofun nofun
  | ending refusal =>
    cases hnext
    exact h.losing_next h' rfl rfl (by cases refusal <;> exact id) (by cases refusal <;> exact id)
  | closing refusal =>
    cases hnext
    exact h.losing_next h' rfl rfl (by cases refusal <;> exact id) (by cases refusal <;> exact id)
  | noticed refusal =>
    cases hnext
    exact h.losing_next h' rfl rfl nofun nofun
  | established => cases hnext
  | ignored => cases hnext
  | gone => cases hnext

/-! ### Runs of the two connections -/

/-- The phases of the connections that the two sides open. -/
abbrev Phases := Side → Phase

/-- The two connections, one step of one of them at a time. -/
def protocol (smaller : Side → Bool) : TransitionSystem Phases Side where
  init phases := ∀ x, phases x = .unopened
  step phases x := (Phase.next (smaller x) (phases x.other) (phases x)).map (Function.update phases x)

theorem coherent_step {smaller : Side → Bool} (hsmaller : ∀ x, smaller x.other = !smaller x)
    {phases phases' : Phases} {x : Side} (h : ∀ y, Coherent (smaller y) (phases y) (phases y.other))
    (hstep : (protocol smaller).step phases x = some phases') (y : Side) :
    Coherent (smaller y) (phases' y) (phases' y.other) := by
  obtain ⟨own', hnext, rfl⟩ := Option.map_eq_some_iff.mp hstep
  have hrival := h x.other
  rw [hsmaller, Side.other_other] at hrival
  obtain ⟨hown, hother⟩ := coherent_next (h x) hrival hnext
  rcases Side.eq_or_eq_other x y with rfl | rfl
  · rw [Function.update_self, Function.update_of_ne y.other_ne]
    exact hown
  · rw [Side.other_other, Function.update_self, Function.update_of_ne x.other_ne, hsmaller]
    exact hother

/-- **Run lemma.** -/
theorem coherent_of_reachable {smaller : Side → Bool} (hsmaller : ∀ x, smaller x.other = !smaller x)
    {phases : Phases} (h : (protocol smaller).Reachable phases) (x : Side) :
    Coherent (smaller x) (phases x) (phases x.other) := by
  refine h.invariant (I := fun phases => ∀ y, Coherent (smaller y) (phases y) (phases y.other))
    ?_ (fun _ _ _ hs _ hstep => coherent_step hsmaller hs hstep) x
  intro phases hinit y
  rw [hinit y]
  exact ⟨nofun, nofun, nofun, nofun⟩

/-- **One connection survives.**  When both connections are settled and one was opened, some side's is
established while the other one is gone or was never opened, unless a reply was ignored. -/
theorem survivor_of_settled {smaller : Side → Bool} {phases : Phases}
    (h : ∀ x, Coherent (smaller x) (phases x) (phases x.other))
    (hsettled : ∀ x, (phases x).settled = true) (hopened : ∃ x, phases x ≠ .unopened)
    (hignored : ∀ x, phases x ≠ .ignored) :
    ∃ x, phases x = .established ∧ (phases x.other = .unopened ∨ phases x.other = .gone) := by
  have hestablished : ∀ x, phases x = .established →
      phases x.other = .unopened ∨ phases x.other = .gone := by
    intro x hx
    have hfree := (h x).single hx
    rcases Phase.settled_cases (hsettled x.other) with hp | hp | hp | hp
    · exact .inl hp
    · rw [hp] at hfree
      cases hfree
    · exact absurd hp (hignored _)
    · exact .inr hp
  obtain ⟨x, hx⟩ := hopened
  rcases Phase.settled_cases (hsettled x) with hp | hp | hp | hp
  · exact absurd hp hx
  · exact ⟨x, hp, hestablished x hp⟩
  · exact absurd hp (hignored x)
  · -- the connection that is gone lost to the other one
    have hwins := (h x).loser (by rw [hp]; rfl)
    rcases Phase.settled_cases (hsettled x.other) with hq | hq | hq | hq
    · rw [hq] at hwins
      cases hwins
    · exact ⟨x.other, hq, hestablished _ hq⟩
    · exact absurd hq (hignored _)
    · rw [hq] at hwins
      cases hwins

end DistributedNetwork.Handshake
