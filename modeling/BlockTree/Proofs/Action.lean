import BlockTree.Dispatch
import Mathlib.Data.List.Forall2
import Mathlib.Tactic

/-!
Actions one by one and one after another.

* `Settles`: an action that comes to one outcome in every state and leaves the state alone;
  `Settles.bind` and `Settles.map` carry it through a program, `settles_runInTurn` and
  `attemptAll_of_settles` through a list of actions.
* `Evaluates`: actions that succeed one after another, the state passing through; `runInTurn_ok`
  says that every evaluation that succeeds is such a chain, and `runInTurn_error` that a fault of an
  evaluation is the fault of one of its actions.
* `attemptAll_cases`: an evaluation that goes on after a fault has the same results.
-/

namespace BlockTree

variable {ε σ α β : Type}

/-! ### Evaluation of actions -/

namespace Action

/-- Two ends of an action are the same if outcome and state are; the type of an end is that of an
applied action, which pairs in general do not match. -/
@[simp] lemma end_inj {x y : Except ε α} {s t : σ} :
    @Eq (Id (Except ε α × σ)) (x, s) (y, t) ↔ x = y ∧ s = t :=
  Prod.mk_inj

@[simp] lemma pure_apply (a : α) (s : σ) : (pure a : Action ε σ α) s = (.ok a, s) := rfl

@[simp] lemma throw_apply (e : ε) (s : σ) : (throw e : Action ε σ α) s = (.error e, s) := rfl

@[simp] lemma liftM_apply (x : Except ε α) (s : σ) : (liftM x : Action ε σ α) s = (x, s) := rfl

lemma bind_apply (action : Action ε σ α) (next : α → Action ε σ β) (s : σ) :
    (action >>= next) s
      = match action s with
        | (.ok a, t) => next a t
        | (.error e, t) => (.error e, t) := by
  have hbind : (action >>= next) s
      = (ExceptT.bindCont next (action s).1 : StateM σ (Except ε β)) (action s).2 := rfl
  rw [hbind]
  rcases action s with ⟨x | x, t⟩ <;> rfl

lemma map_apply (f : α → β) (action : Action ε σ α) (s : σ) :
    (f <$> action) s = ((action s).1.map f, (action s).2) := by
  show (action >>= fun a => pure (f a)) s = _
  rw [bind_apply]
  rcases action s with ⟨x | x, t⟩ <;> rfl

/-- A program succeeds if its first action does and the rest does from there. -/
lemma bind_eq_ok {action : Action ε σ α} {next : α → Action ε σ β} {s t : σ} {b : β} :
    (action >>= next) s = (.ok b, t)
      ↔ ∃ a u, action s = (.ok a, u) ∧ next a u = (.ok b, t) := by
  rw [bind_apply]
  rcases action s with ⟨x | x, u⟩ <;> simp

/-- A fault of a program is that of its first action, or of the rest once that has succeeded. -/
lemma bind_eq_error {action : Action ε σ α} {next : α → Action ε σ β} {s t : σ} {e : ε} :
    (action >>= next) s = (.error e, t)
      ↔ action s = (.error e, t)
        ∨ ∃ a u, action s = (.ok a, u) ∧ next a u = (.error e, t) := by
  rw [bind_apply]
  rcases action s with ⟨x | x, u⟩ <;> simp

lemma map_eq_ok {f : α → β} {action : Action ε σ α} {s t : σ} {b : β} :
    (f <$> action) s = (.ok b, t) ↔ ∃ a, action s = (.ok a, t) ∧ f a = b := by
  rw [map_apply]
  rcases action s with ⟨x | x, u⟩ <;> simp [Except.map, and_comm]

end Action

/-- The fault of an outcome, if it is one. -/
def faultOf : Except ε α → Option ε
  | .error e => some e
  | .ok _ => none

@[simp] lemma faultOf_error (e : ε) : faultOf (.error e : Except ε α) = some e := rfl

@[simp] lemma faultOf_ok (a : α) : faultOf (.ok a : Except ε α) = none := rfl

@[simp] lemma faultOf_map (f : α → β) (x : Except ε α) : faultOf (x.map f) = faultOf x := by
  cases x <;> rfl

lemma map_eq_ok_iff {f : α → β} {x : Except ε α} {b : β} :
    x.map f = .ok b ↔ ∃ a, x = .ok a ∧ f a = b := by
  cases x <;> simp [Except.map]

/-- The same for outcomes: a result comes from a result of the first. -/
lemma outcome_bind_eq_ok {x : Except ε α} {next : α → Except ε β} {b : β} :
    x >>= next = .ok b ↔ ∃ a, x = .ok a ∧ next a = .ok b := by
  cases x with
  | error e =>
      constructor
      · exact fun h => nomatch h
      · rintro ⟨a, h, -⟩
        exact nomatch h
  | ok a =>
      constructor
      · exact fun h => ⟨a, rfl, h⟩
      · rintro ⟨_, h, hnext⟩
        rwa [← Except.ok.inj h] at hnext

lemma faultOf_eq_some {x : Except ε α} {e : ε} : faultOf x = some e ↔ x = .error e := by
  cases x <;> simp

lemma faultOf_eq_none {x : Except ε α} : faultOf x = none ↔ ∃ a, x = .ok a := by
  cases x <;> simp

/-- If the fault of the rest does not depend on the result before it, it comes after the fault of the
first part. -/
lemma faultOf_bind {x : Except ε α} {next : α → Except ε β} {e : Option ε}
    (h : ∀ a, faultOf (next a) = e) : faultOf (x >>= next) = (faultOf x).or e := by
  cases x with
  | error fault => rfl
  | ok a => exact h a

/-! ### Settled actions -/

/-- **An action settles** on an outcome: it comes to it in every state and leaves the state alone. -/
def Settles (action : Action ε σ α) (outcome : Except ε α) : Prop :=
  ∀ s, action s = (outcome, s)

lemma settles_pure (a : α) : Settles (pure a : Action ε σ α) (.ok a) := fun _ => rfl

lemma settles_throw (e : ε) : Settles (throw e : Action ε σ α) (.error e) := fun _ => rfl

lemma settles_liftM (x : Except ε α) : Settles (liftM x : Action ε σ α) x := fun _ => rfl

lemma Settles.map {action : Action ε σ α} {x : Except ε α} (h : Settles action x) (f : α → β) :
    Settles (f <$> action) (x.map f) := fun s => by
  rw [Action.map_apply, h s]

lemma Settles.bind {action : Action ε σ α} {x : Except ε α} {next : α → Action ε σ β}
    {y : α → Except ε β} (h : Settles action x) (hnext : ∀ a, Settles (next a) (y a)) :
    Settles (action >>= next) (x >>= y) := fun s => by
  rw [Action.bind_apply, h s]
  cases x with
  | error e => rfl
  | ok a => exact hnext a s

/-- The indices agree, and the action settles on the outcome. -/
def SettlesAt (action : Nat × Action ε σ α) (outcome : Nat × Except ε α) : Prop :=
  action.1 = outcome.1 ∧ Settles action.2 outcome.2

lemma runInTurn_cons (i : Nat) (action : Action ε σ α) (rest : List (Nat × Action ε σ α)) (s : σ) :
    runInTurn ((i, action) :: rest) s
      = match action s with
        | (.error e, t) => (.error e, t)
        | (.ok a, t) => ((runInTurn rest t).1.map ((i, a) :: ·), (runInTurn rest t).2) := by
  rw [runInTurn, Action.bind_apply]
  rcases action s with ⟨x | a, t⟩
  · rfl
  · show ((fun others => (i, a) :: others) <$> runInTurn rest) t = _
    rw [Action.map_apply]

lemma settles_runInTurn {actions : List (Nat × Action ε σ α)} {outcomes : List (Nat × Except ε α)}
    (h : List.Forall₂ SettlesAt actions outcomes) :
    Settles (runInTurn actions) (collect outcomes) := by
  induction h with
  | nil => exact settles_pure []
  | @cons a o _ _ hao _ ih =>
      obtain ⟨i, action⟩ := a
      obtain ⟨j, x⟩ := o
      obtain ⟨hij, hx⟩ := hao
      obtain rfl : i = j := hij
      intro s
      have hs : action s = (x, s) := hx s
      rw [runInTurn_cons, hs]
      cases x with
      | error e => rfl
      | ok a => simp only [ih s]; rfl

/-- Settled actions have the outcomes on which they settle. -/
lemma attemptAll_of_settles {actions : List (Nat × Action ε σ α)}
    {outcomes : List (Nat × Except ε α)} (h : List.Forall₂ SettlesAt actions outcomes) (s : σ) :
    attemptAll actions s = (outcomes, s) := by
  induction h with
  | nil => rfl
  | @cons a o _ _ hao _ ih =>
      obtain ⟨i, action⟩ := a
      obtain ⟨j, x⟩ := o
      obtain ⟨hij, hx⟩ := hao
      obtain rfl : i = j := hij
      have hs : action s = (x, s) := hx s
      simp only [attemptAll, hs, ih]

/-! ### Chains of successful actions -/

/-- **Actions evaluate** to their results one after another, the state passing through. -/
inductive Evaluates : List (Action ε σ α) → σ → List α → σ → Prop where
  | nil (s : σ) : Evaluates [] s [] s
  | cons {action : Action ε σ α} {actions : List (Action ε σ α)} {s t u : σ} {a : α}
      {results : List α} : action s = (.ok a, t) → Evaluates actions t results u →
      Evaluates (action :: actions) s (a :: results) u

lemma Evaluates.exists_of_mem {actions : List (Action ε σ α)} {s t : σ} {results : List α}
    (h : Evaluates actions s results t) :
    ∀ a ∈ results, ∃ action ∈ actions, ∃ u v, action u = (.ok a, v) := by
  induction h with
  | nil s => simp
  | cons ha _ ih =>
      intro b hb
      rcases List.mem_cons.mp hb with rfl | hb
      · exact ⟨_, List.mem_cons_self, _, _, ha⟩
      · obtain ⟨action, hmem, u, v, huv⟩ := ih b hb
        exact ⟨action, List.mem_cons_of_mem _ hmem, u, v, huv⟩

lemma runInTurn_ok {actions : List (Nat × Action ε σ α)} {s t : σ} {results : List (Nat × α)}
    (h : runInTurn actions s = (.ok results, t)) :
    results.map Prod.fst = actions.map Prod.fst
      ∧ Evaluates (actions.map Prod.snd) s (results.map Prod.snd) t := by
  induction actions generalizing s results with
  | nil =>
      simp only [runInTurn, Action.pure_apply, Action.end_inj, Except.ok.injEq] at h
      obtain ⟨rfl, rfl⟩ := h
      exact ⟨rfl, .nil _⟩
  | cons entry rest ih =>
      obtain ⟨i, action⟩ := entry
      obtain ⟨a, u, ha, h⟩ := Action.bind_eq_ok.mp h
      obtain ⟨others, v, ho, h⟩ := Action.bind_eq_ok.mp h
      simp only [Action.pure_apply, Action.end_inj, Except.ok.injEq] at h
      obtain ⟨rfl, rfl⟩ := h
      obtain ⟨hfst, hrest⟩ := ih ho
      exact ⟨by simp [hfst], .cons ha hrest⟩

/-- To go on after a fault makes no difference to what comes in front of it: the outcomes give the
results of an evaluation that ends there, and on success the state, too. -/
lemma attemptAll_cases (actions : List (Nat × Action ε σ α)) (s : σ) :
    collect (attemptAll actions s).1 = (runInTurn actions s).1
      ∧ ∀ results, (runInTurn actions s).1 = .ok results →
          (attemptAll actions s).2 = (runInTurn actions s).2 := by
  induction actions generalizing s with
  | nil => exact ⟨rfl, fun _ _ => rfl⟩
  | cons entry rest ih =>
      obtain ⟨i, action⟩ := entry
      rw [runInTurn_cons]
      simp only [attemptAll]
      rcases action s with ⟨x | a, u⟩
      · exact ⟨rfl, fun _ h => nomatch h⟩
      · obtain ⟨hfst, hok⟩ := ih u
        refine ⟨congrArg (Except.map ((i, a) :: ·)) hfst, fun results h => ?_⟩
        obtain ⟨others, ho, -⟩ := map_eq_ok_iff.mp h
        exact hok others ho

lemma map_fst_attemptAll (actions : List (Nat × Action ε σ α)) (s : σ) :
    (attemptAll actions s).1.map Prod.fst = actions.map Prod.fst := by
  induction actions generalizing s with
  | nil => rfl
  | cons entry rest ih =>
      rw [attemptAll, List.map_cons, ← ih (entry.2 s).2]
      rfl

/-- Every outcome is that of an action in some state. -/
lemma exists_of_mem_attemptAll {actions : List (Nat × Action ε σ α)} {s : σ}
    {outcome : Nat × Except ε α} (h : outcome ∈ (attemptAll actions s).1) :
    ∃ entry ∈ actions, ∃ u v, entry.2 u = (outcome.2, v) := by
  induction actions generalizing s with
  | nil => cases h
  | cons entry rest ih =>
      obtain ⟨i, action⟩ := entry
      rw [attemptAll] at h
      rcases List.mem_cons.mp h with rfl | h
      · exact ⟨(i, action), List.mem_cons_self, s, (action s).2, rfl⟩
      · obtain ⟨entry, hmem, huv⟩ := ih h
        exact ⟨entry, List.mem_cons_of_mem _ hmem, huv⟩

lemma runInTurn_fst {actions : List (Nat × Action ε σ α)} {f : Nat → α}
    (h : ∀ entry ∈ actions, ∀ s, (entry.2 s).1 = .ok (f entry.1)) (s : σ) :
    (runInTurn actions s).1 = .ok (actions.map fun entry => (entry.1, f entry.1)) := by
  induction actions generalizing s with
  | nil => rfl
  | cons entry rest ih =>
      obtain ⟨i, action⟩ := entry
      have ha : (action s).1 = .ok (f i) := h (i, action) List.mem_cons_self s
      have hrest := ih (fun e he => h e (List.mem_cons_of_mem _ he))
      rw [runInTurn_cons]
      rcases hs : action s with ⟨x, t⟩
      rw [hs] at ha
      obtain rfl : x = .ok (f i) := ha
      simp only [hrest t, List.map_cons]
      rfl

lemma runInTurn_error {actions : List (Nat × Action ε σ α)} {s t : σ} {e : ε}
    (h : runInTurn actions s = (.error e, t)) :
    ∃ entry ∈ actions, ∃ u v, entry.2 u = (.error e, v) := by
  induction actions generalizing s with
  | nil => simp [runInTurn] at h
  | cons entry rest ih =>
      obtain ⟨i, action⟩ := entry
      rcases Action.bind_eq_error.mp h with ha | ⟨a, u, -, h⟩
      · exact ⟨_, List.mem_cons_self, s, t, ha⟩
      · rcases Action.bind_eq_error.mp h with ho | ⟨_, _, _, h⟩
        · obtain ⟨entry, hmem, huv⟩ := ih ho
          exact ⟨entry, List.mem_cons_of_mem _ hmem, huv⟩
        · simp at h

end BlockTree
