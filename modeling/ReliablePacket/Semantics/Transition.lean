/-
# Transition systems with a partial step function

A system has one initial state and a step function that says, for every action
and state, whether the action is enabled and where it leads. Reachability takes
a side condition on the steps, so that "every run whose steps all satisfy a
condition" and "every run" are the same notion at two conditions.

An invariant of all reachable states is proved from the initial state and from
one step, and what every step keeps is kept by every run. A rank that falls bounds
how many steps a run can take, or shows that a goal can still be reached.
-/
import Mathlib.Tactic.TypeStar

set_option autoImplicit false

/-- A system whose actions are partial functions on states. -/
structure TransitionSystem (State Action : Type*) where
  /-- The state every run starts in. -/
  init : State
  /-- The successor under an action, when the action is enabled. -/
  step : Action → State → Option State

namespace TransitionSystem

variable {State Action : Type*} {sys : TransitionSystem State Action}
variable {allowed allowed' : State → Action → Prop} {s s' : State} {a : Action}

/-- The states at the ends of the runs all of whose steps are allowed. -/
inductive ReachableVia (sys : TransitionSystem State Action)
    (allowed : State → Action → Prop) : State → Prop
  | init : ReachableVia sys allowed sys.init
  | step {s s' : State} {a : Action} :
      ReachableVia sys allowed s → allowed s a → sys.step a s = some s' →
        ReachableVia sys allowed s'

/-- The states at the ends of all runs. -/
def Reachable (sys : TransitionSystem State Action) : State → Prop :=
  sys.ReachableVia fun _ _ => True

namespace Reachable

theorem init : sys.Reachable sys.init := ReachableVia.init

theorem step (h : sys.Reachable s) (hstep : sys.step a s = some s') : sys.Reachable s' :=
  ReachableVia.step h trivial hstep

end Reachable

namespace ReachableVia

theorem mono (himp : ∀ s a, allowed s a → allowed' s a) (h : sys.ReachableVia allowed s) :
    sys.ReachableVia allowed' s := by
  induction h with
  | init => exact .init
  | step _ hallowed hstep ih => exact .step ih (himp _ _ hallowed) hstep

/-- Forgetting the side condition. -/
theorem reachable (h : sys.ReachableVia allowed s) : sys.Reachable s :=
  h.mono fun _ _ _ => trivial

/-- **Invariant rule.** What holds initially and is kept by every allowed step
between reachable states holds in every state an allowed run reaches. -/
theorem invariant {I : State → Prop} (hinit : I sys.init)
    (hstep : ∀ s a s', sys.ReachableVia allowed s → I s → allowed s a →
      sys.step a s = some s' → I s')
    (h : sys.ReachableVia allowed s) : I s := by
  induction h with
  | init => exact hinit
  | step hreach hallowed hs ih => exact hstep _ _ _ hreach ih hallowed hs

end ReachableVia

/-- The invariant rule for unrestricted runs. -/
theorem Reachable.invariant {I : State → Prop} (hinit : I sys.init)
    (hstep : ∀ s a s', I s → sys.step a s = some s' → I s')
    (h : sys.Reachable s) : I s :=
  ReachableVia.invariant hinit (fun s a s' _ hs _ => hstep s a s' hs) h

/-- **Simulation rule.** When every step from related reachable states is matched by a
step, every reachable state is related to a reachable state. -/
theorem Reachable.simulate {State' Action' : Type*} {sys' : TransitionSystem State' Action'}
    {R : State → State' → Prop} (hinit : R sys.init sys'.init)
    (hstep : ∀ s u a s₁, sys.Reachable s → sys'.Reachable u → R s u → sys.step a s = some s₁ →
      ∃ b u₁, sys'.step b u = some u₁ ∧ R s₁ u₁)
    (h : sys.Reachable s) : ∃ u, sys'.Reachable u ∧ R s u := by
  refine ReachableVia.invariant (I := fun s => ∃ u, sys'.Reachable u ∧ R s u)
    ⟨_, .init, hinit⟩ ?_ h
  rintro s a s₁ hs ⟨u, hu, hR⟩ - hstep₁
  obtain ⟨b, u₁, hu₁, hR₁⟩ := hstep s u a s₁ hs hu hR hstep₁
  exact ⟨u₁, hu.step hu₁, hR₁⟩

/-- **Refinement rule.** When a mapping takes every step from a reachable state to a step
or leaves its image unchanged, it takes reachable states to reachable states. -/
theorem Reachable.map {State' Action' : Type*} {sys' : TransitionSystem State' Action'}
    {f : State → State'} (hinit : f sys.init = sys'.init)
    (hstep : ∀ s a s', sys.Reachable s → sys.step a s = some s' →
      (∃ b, sys'.step b (f s) = some (f s')) ∨ f s' = f s)
    (h : sys.Reachable s) : sys'.Reachable (f s) := by
  refine ReachableVia.invariant (I := fun s => sys'.Reachable (f s)) ?_ ?_ h
  · rw [hinit]
    exact .init
  · rintro s a s' hs hf - hs'
    rcases hstep s a s' hs hs' with ⟨b, hb⟩ | hsame
    · exact hf.step hb
    · rw [hsame]
      exact hf

/-! ## Runs over explicit lists of actions -/

/-- Take the listed actions one after the other; `none` when one of them is not
enabled. -/
def run (sys : TransitionSystem State Action) : List Action → State → Option State
  | [], s => some s
  | a :: as, s => (sys.step a s).bind (sys.run as)

theorem run_append (sys : TransitionSystem State Action) (as bs : List Action) (s : State) :
    sys.run (as ++ bs) s = (sys.run as s).bind (sys.run bs) := by
  induction as generalizing s with
  | nil => rfl
  | cons a as ih =>
    rw [List.cons_append, run, run, Option.bind_assoc]
    exact congrArg _ (funext ih)

/-- The end of a run from a reachable state is reachable. -/
theorem Reachable.run {as : List Action} (h : sys.Reachable s)
    (hrun : sys.run as s = some s') : sys.Reachable s' := by
  induction as generalizing s with
  | nil => exact Option.some.inj hrun ▸ h
  | cons a as ih =>
    obtain ⟨u, hu, hrest⟩ := Option.bind_eq_some_iff.mp hrun
    exact ih (h.step hu) hrest

/-- **Stability rule.** What every step from a reachable state keeps, every run from
one keeps. -/
theorem Reachable.stable {I : State → Prop} {as : List Action}
    (hstep : ∀ s a s', sys.Reachable s → I s → sys.step a s = some s' → I s')
    (hreach : sys.Reachable s) (h : I s) (hrun : sys.run as s = some s') : I s' := by
  induction as generalizing s with
  | nil => exact Option.some.inj hrun ▸ h
  | cons a as ih =>
    obtain ⟨u, hu, hrest⟩ := Option.bind_eq_some_iff.mp hrun
    exact ih (hreach.step hu) (hstep s a u hreach h hu) hrest

/-- The state at the end of the listed actions, taken from the initial state. -/
def endOf (sys : TransitionSystem State Action) (as : List Action) : State :=
  (sys.run as sys.init).getD sys.init

theorem reachable_endOf (sys : TransitionSystem State Action) (as : List Action) :
    sys.Reachable (sys.endOf as) := by
  simp only [endOf]
  cases hrun : sys.run as sys.init with
  | none => exact .init
  | some s => exact Reachable.init.run hrun

/-- Take the listed actions as long as each passes a test. -/
def runVia (sys : TransitionSystem State Action) (test : State → Action → Bool) :
    List Action → State → Option State
  | [], s => some s
  | a :: as, s => if test s a then (sys.step a s).bind (sys.runVia test as) else none

/-- A run whose actions pass a test that implies the side condition is allowed. -/
theorem ReachableVia.runVia {test : State → Action → Bool} {as : List Action}
    (h : sys.ReachableVia allowed s) (htest : ∀ s a, test s a = true → allowed s a)
    (hrun : sys.runVia test as s = some s') : sys.ReachableVia allowed s' := by
  induction as generalizing s with
  | nil => exact Option.some.inj hrun ▸ h
  | cons a as ih =>
    obtain ⟨hpass, hbind⟩ := Option.ite_none_right_eq_some.mp hrun
    obtain ⟨u, hu, hrest⟩ := Option.bind_eq_some_iff.mp hbind
    exact ih (h.step (htest _ _ hpass) hu) hrest

/-- **Exit rule.** A run that leaves a set of states does so in one of its steps. -/
theorem exists_exit {I : State → Prop} {test : State → Action → Bool} {as : List Action}
    (h : I s) (h' : ¬ I s') (hrun : sys.runVia test as s = some s') :
    ∃ as₁ a as₂ u u', as = as₁ ++ a :: as₂ ∧ sys.run as₁ s = some u ∧ I u ∧
      test u a = true ∧ sys.step a u = some u' ∧ ¬ I u' := by
  induction as generalizing s with
  | nil => exact absurd (Option.some.inj hrun ▸ h) h'
  | cons a as ih =>
    obtain ⟨hpass, hbind⟩ := Option.ite_none_right_eq_some.mp hrun
    obtain ⟨u, hu, hrest⟩ := Option.bind_eq_some_iff.mp hbind
    by_cases hI : I u
    · obtain ⟨as₁, b, as₂, v, v', rfl, hv, hexit⟩ := ih hI hrest
      refine ⟨a :: as₁, b, as₂, v, v', rfl, ?_, hexit⟩
      rw [run, hu]
      exact hv
    · exact ⟨[], a, as, s, u, rfl, rfl, h, hpass, hu, hI⟩

/-- Some step of the listed ones is taken in a state where it passes a test. -/
def someStep (sys : TransitionSystem State Action) (test : State → Action → Bool) :
    List Action → State → Bool
  | [], _ => false
  | a :: as, s => test s a || (sys.step a s).any (sys.someStep test as)

theorem someStep_of_run {test : State → Action → Bool} {as₁ as₂ : List Action}
    (hrun : sys.run as₁ s = some s') (htest : test s' a = true) :
    sys.someStep test (as₁ ++ a :: as₂) s = true := by
  induction as₁ generalizing s with
  | nil =>
    cases hrun
    exact Bool.or_eq_true_iff.mpr (.inl htest)
  | cons b as₁ ih =>
    obtain ⟨u, hu, hrest⟩ := Option.bind_eq_some_iff.mp hrun
    refine Bool.or_eq_true_iff.mpr (.inr ?_)
    rw [hu]
    exact ih hrest

/-! ## Counting steps -/

/-- **Counting rule.** A rank that no step raises and that every action of a class
lowers bounds how many actions of the class a run takes. -/
theorem Reachable.countP_add_rank_le {I : State → Prop} {rank : State → Nat}
    {test : Action → Bool} {as : List Action}
    (hstep : ∀ s a s', sys.Reachable s → I s → sys.step a s = some s' →
      I s' ∧ rank s' + (if test a then 1 else 0) ≤ rank s)
    (hreach : sys.Reachable s) (h : I s) (hrun : sys.run as s = some s') :
    as.countP test + rank s' ≤ rank s := by
  induction as generalizing s with
  | nil =>
    cases hrun
    exact Nat.le_of_eq (Nat.zero_add _)
  | cons a as ih =>
    obtain ⟨u, hu, hrest⟩ := Option.bind_eq_some_iff.mp hrun
    obtain ⟨hI, hrank⟩ := hstep s a u hreach h hu
    have htail := ih (hreach.step hu) hI hrest
    rw [List.countP_cons]
    omega

/-! ## What can still be reached -/

/-- Some run of permitted actions from `s` ends in a state with the property. -/
def CanReach (sys : TransitionSystem State Action) (permitted : Action → Prop) (s : State)
    (goal : State → Prop) : Prop :=
  ∃ as s', (∀ a ∈ as, permitted a) ∧ sys.run as s = some s' ∧ goal s'

namespace CanReach

variable {permitted permitted' : Action → Prop} {goal goal' mid : State → Prop}

theorem here (h : goal s) : sys.CanReach permitted s goal :=
  ⟨[], s, List.forall_mem_nil _, rfl, h⟩

/-- One step towards the goal. -/
theorem step (hstep : sys.step a s = some s') (ha : permitted a)
    (h : sys.CanReach permitted s' goal) : sys.CanReach permitted s goal := by
  obtain ⟨as, u, has, hrun, hu⟩ := h
  refine ⟨a :: as, u, List.forall_mem_cons.mpr ⟨ha, has⟩, ?_, hu⟩
  rw [run, hstep]
  exact hrun

theorem imp (himp : ∀ s', goal s' → goal' s') (h : sys.CanReach permitted s goal) :
    sys.CanReach permitted s goal' := by
  obtain ⟨as, u, has, hrun, hu⟩ := h
  exact ⟨as, u, has, hrun, himp u hu⟩

/-- More actions reach more. -/
theorem mono (himp : ∀ a, permitted a → permitted' a) (h : sys.CanReach permitted s goal) :
    sys.CanReach permitted' s goal := by
  obtain ⟨as, u, has, hrun, hu⟩ := h
  exact ⟨as, u, fun a hmem => himp a (has a hmem), hrun, hu⟩

/-- What every permitted step does, the run does. -/
theorem and_of_step {R : State → State → Prop} (hrefl : ∀ s, R s s)
    (htrans : ∀ s₁ s₂ s₃, R s₁ s₂ → R s₂ s₃ → R s₁ s₃)
    (hstep : ∀ s a s', permitted a → sys.step a s = some s' → R s s')
    (h : sys.CanReach permitted s goal) :
    sys.CanReach permitted s fun s' => goal s' ∧ R s s' := by
  obtain ⟨as, u, has, hrun, hu⟩ := h
  refine ⟨as, u, has, hrun, hu, ?_⟩
  induction as generalizing s with
  | nil =>
    cases hrun
    exact hrefl _
  | cons a as ih =>
    obtain ⟨ha, has'⟩ := List.forall_mem_cons.mp has
    obtain ⟨v, hv, hrest⟩ := Option.bind_eq_some_iff.mp hrun
    exact htrans _ v u (hstep _ a v ha hv) (ih has' hrest)

/-- What every permitted step keeps holds where the run ends. -/
theorem and_invariant {I : State → Prop}
    (hstep : ∀ s a s', sys.Reachable s → I s → permitted a → sys.step a s = some s' → I s')
    (hreach : sys.Reachable s) (hI : I s) (h : sys.CanReach permitted s goal) :
    sys.CanReach permitted s fun s' => goal s' ∧ I s' := by
  have hkept := h.and_of_step (R := fun s s' => sys.Reachable s ∧ I s → sys.Reachable s' ∧ I s')
    (fun _ => id) (fun _ _ _ h₁ h₂ hs => h₂ (h₁ hs))
    fun s a s' ha hs hboth => ⟨hboth.1.step hs, hstep s a s' hboth.1 hboth.2 ha hs⟩
  exact hkept.imp fun _ hs' => ⟨hs'.1, (hs'.2 ⟨hreach, hI⟩).2⟩

/-- **First-entry rule.** A run that reaches the goal enters it in one of its steps. -/
theorem first_entry (h : sys.CanReach permitted s goal) (hnot : ¬ goal s)
    (hreach : sys.Reachable s) :
    sys.CanReach permitted s fun s' => goal s' ∧
      ∃ u a, sys.Reachable u ∧ ¬ goal u ∧ sys.step a u = some s' := by
  obtain ⟨as, v, has, hrun, hv⟩ := h
  induction as generalizing s with
  | nil => exact absurd (Option.some.inj hrun ▸ hv) hnot
  | cons a as ih =>
    obtain ⟨ha, has'⟩ := List.forall_mem_cons.mp has
    obtain ⟨u, hu, hrest⟩ := Option.bind_eq_some_iff.mp hrun
    by_cases hgoal : goal u
    · exact .step hu ha (.here ⟨hgoal, s, a, hreach, hnot, hu⟩)
    · exact .step hu ha (ih hgoal (hreach.step hu) has' hrest)

/-- One run after another. -/
theorem trans (hreach : sys.Reachable s) (h : sys.CanReach permitted s mid)
    (hgoal : ∀ s', sys.Reachable s' → mid s' → sys.CanReach permitted s' goal) :
    sys.CanReach permitted s goal := by
  obtain ⟨as, u, has, hrun, hu⟩ := h
  obtain ⟨bs, v, hbs, hrest, hv⟩ := hgoal u (hreach.run hrun) hu
  refine ⟨as ++ bs, v, List.forall_mem_append.mpr ⟨has, hbs⟩, ?_, hv⟩
  rw [run_append, hrun]
  exact hrest

/-- **Possibility rule.** When from every reachable state of a set a run leads to the goal
or to a state of the set with a smaller rank, the goal can be reached from the set. -/
theorem of_rank (I : State → Prop) (rank : State → Nat)
    (hfall : ∀ s, sys.Reachable s → I s →
      sys.CanReach permitted s fun s' => goal s' ∨ I s' ∧ rank s' < rank s)
    (hreach : sys.Reachable s) (h : I s) : sys.CanReach permitted s goal := by
  induction hrank : rank s using Nat.strongRecOn generalizing s with
  | ind n ih =>
    refine (hfall s hreach h).trans hreach fun u hu hfallen => ?_
    rcases hfallen with hgoal | ⟨hI, hlt⟩
    · exact here hgoal
    · exact ih (rank u) (hrank ▸ hlt) hu hI rfl

end CanReach

end TransitionSystem
