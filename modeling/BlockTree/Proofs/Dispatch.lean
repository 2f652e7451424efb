import BlockTree.Proofs.Action

/-!
What a dispatch makes of its siblings.

* `Dispatch.InOrder`, `Dispatch.Exhaustive`: every sibling exactly once, in document order or in any
  order.
* `byIndex_pick`: sorting by index undoes every exhaustive order, and `inDocumentOrder_map` says
  what it makes of omissions and repetitions.
* `Dispatch.asked`: the order in which the outcomes of siblings are asked for;
  `Dispatch.collect_asked_pick_eq_ok` says that no order shows in the results.
* `Dispatch.run_settles`: settled siblings give their results, or the first fault that is met among
  them; `Dispatch.run_ok` and `Dispatch.run_error` say of arbitrary siblings what a run that
  succeeds and a run that fails have come across.
-/

namespace BlockTree

variable {ε σ α β : Type}

/-! ### Sorting by index -/

/-- Sorting by index keeps the entries. -/
lemma byIndex_perm (entries : List (Nat × α)) : (byIndex entries).Perm entries :=
  List.mergeSort_perm entries _

lemma pairwise_byIndex (entries : List (Nat × α)) :
    (byIndex entries).Pairwise fun a b => a.1 ≤ b.1 := by
  have htrans : ∀ a b c : Nat × α, decide (a.1 ≤ b.1) = true → decide (b.1 ≤ c.1) = true →
      decide (a.1 ≤ c.1) = true := by
    intro a b c hab hbc
    simp only [decide_eq_true_eq] at *
    omega
  have htotal : ∀ a b : Nat × α, (decide (a.1 ≤ b.1) || decide (b.1 ≤ a.1)) = true := by
    intro a b
    simp only [Bool.or_eq_true, decide_eq_true_eq]
    omega
  simpa [byIndex] using List.pairwise_mergeSort htrans htotal entries

/-- Entries that come in the order of their indices stay as they are. -/
lemma byIndex_of_sorted {entries : List (Nat × α)}
    (h : entries.Pairwise fun a b => a.1 ≤ b.1) : byIndex entries = entries := by
  rw [byIndex, List.mergeSort_of_pairwise (by simpa using h)]

lemma byIndex_map (f : α → β) (entries : List (Nat × α)) :
    byIndex (entries.map (Prod.map id f)) = (byIndex entries).map (Prod.map id f) := by
  rw [byIndex, byIndex, List.map_mergeSort]
  exact fun _ _ _ _ => rfl

/-- **A sorted list is determined by its entries**: if an index stands for one entry only, the
entries by index are those of any list with the same entries in the order of the indices. -/
lemma byIndex_eq {entries sorted : List (Nat × α)} (hperm : entries.Perm sorted)
    (hsorted : sorted.Pairwise fun a b => a.1 ≤ b.1)
    (hinj : ∀ a ∈ entries, ∀ b ∈ entries, a.1 = b.1 → a = b) : byIndex entries = sorted := by
  -- Two sorted lists with the same entries agree, as no two entries have the same index.
  have hp := byIndex_perm entries
  refine List.Perm.eq_of_pairwise (fun a b ha hb hab hba => ?_) (pairwise_byIndex entries) hsorted
    (hp.trans hperm)
  exact hinj a (hp.mem_iff.mp ha) b (hperm.mem_iff.mpr hb) (Nat.le_antisymm hab hba)

/-- Results that come in the order of their indices stay as they are. -/
lemma inDocumentOrder_of_sorted {results : List (Nat × α)}
    (h : (results.map Prod.fst).Pairwise (· ≤ ·)) :
    inDocumentOrder results = results.map Prod.snd := by
  rw [inDocumentOrder, byIndex_of_sorted (List.pairwise_map.mp h)]

/-- The occurrences of an index among copies of the indices below a bound. -/
lemma count_flatMap_replicate (k : Nat → Nat) (j n : Nat) :
    ((List.range n).flatMap fun i => List.replicate (k i) i).count j = if j < n then k j else 0 := by
  induction n with
  | zero => simp
  | succ n ih =>
      rw [List.range_succ, List.flatMap_append, List.count_append, ih, List.flatMap_singleton,
        List.count_replicate]
      by_cases hj : j = n
      · subst hj
        simp
      · by_cases hlt : j < n
        · have hs : j < n + 1 := by omega
          simp [hlt, hs, Ne.symm hj]
        · have hs : ¬ j < n + 1 := by omega
          simp [hlt, hs, Ne.symm hj]

/-- Results of a function of the index, in document order: for each index as many as were asked
for. -/
lemma inDocumentOrder_map {n : Nat} {indices : List Nat} (h : ∀ i ∈ indices, i < n)
    (f : Nat → α) :
    inDocumentOrder (indices.map fun i => (i, f i))
      = (List.range n).flatMap fun i => List.replicate (indices.count i) (f i) := by
  set sorted := (List.range n).flatMap fun i => List.replicate (indices.count i) i with hs
  have hperm : indices.Perm sorted := by
    rw [List.perm_iff_count]
    intro j
    rw [hs, count_flatMap_replicate]
    split
    · rfl
    · exact List.count_eq_zero.mpr fun hj => absurd (h j hj) (by assumption)
  -- The copies of one index are equal, and the runs of copies come in the order of the indices.
  have hle : sorted.Pairwise (· ≤ ·) := by
    rw [hs, List.pairwise_flatMap]
    refine ⟨fun i _ => List.pairwise_replicate.mpr (Or.inr (Nat.le_refl i)), ?_⟩
    refine List.pairwise_lt_range.imp fun {i j} hij a ha b hb => ?_
    rw [List.eq_of_mem_replicate ha, List.eq_of_mem_replicate hb]
    exact Nat.le_of_lt hij
  have hinj : ∀ a ∈ indices.map fun i => (i, f i), ∀ b ∈ indices.map fun i => (i, f i),
      a.1 = b.1 → a = b := by
    simp only [List.mem_map]
    rintro _ ⟨i, -, rfl⟩ _ ⟨j, -, rfl⟩ hij
    rw [show i = j from hij]
  rw [inDocumentOrder, byIndex_eq (hperm.map _) (List.pairwise_map.mpr hle) hinj, hs]
  simp [List.map_flatMap]

/-! ### Kinds of dispatches -/

namespace Dispatch

/-- Every sibling once, in document order. -/
def InOrder (dispatch : Dispatch) : Prop :=
  ∀ n, dispatch.order n = List.range n

/-- Every sibling exactly once, in any order. -/
def Exhaustive (dispatch : Dispatch) : Prop :=
  ∀ n, (dispatch.order n).Perm (List.range n)

lemma InOrder.exhaustive {dispatch : Dispatch} (h : dispatch.InOrder) : dispatch.Exhaustive :=
  fun n => by rw [h n]

lemma inOrder_sequential : sequential.InOrder := fun _ => rfl

lemma inOrder_parallel : parallel.InOrder := fun _ => rfl

/-- **No order shows in the faults** either: siblings come in document order, or all of them come
and are asked for by index. -/
def Steady (dispatch : Dispatch) : Prop :=
  dispatch.InOrder ∨ dispatch.Exhaustive ∧ dispatch.stopsAtFault = false

lemma Steady.exhaustive {dispatch : Dispatch} (h : dispatch.Steady) : dispatch.Exhaustive :=
  h.elim InOrder.exhaustive And.left

lemma exhaustive_backwards : backwards.Exhaustive := fun _ => List.reverse_perm _

/-! ### Picking siblings -/

variable (dispatch : Dispatch)

lemma getElem?_of_mem_pick {siblings : List α} {entry : Nat × α}
    (h : entry ∈ dispatch.pick siblings) : siblings[entry.1]? = some entry.2 := by
  obtain ⟨i, -, h⟩ := List.mem_filterMap.mp h
  obtain ⟨a, ha, rfl⟩ := Option.map_eq_some_iff.mp h
  exact ha

lemma mem_of_mem_pick {siblings : List α} {entry : Nat × α}
    (h : entry ∈ dispatch.pick siblings) : entry.2 ∈ siblings :=
  List.mem_of_getElem? (dispatch.getElem?_of_mem_pick h)

lemma pick_map (f : α → β) (siblings : List α) :
    dispatch.pick (siblings.map f) = (dispatch.pick siblings).map (Prod.map id f) := by
  simp only [pick, List.length_map, List.map_filterMap, List.getElem?_map, Option.map_map]
  rfl

lemma pick_forall₂ {R : α → β → Prop} {l : List α} {m : List β} (h : List.Forall₂ R l m) :
    List.Forall₂ (fun a b => a.1 = b.1 ∧ R a.2 b.2) (dispatch.pick l) (dispatch.pick m) := by
  rw [pick, pick, h.length_eq]
  induction dispatch.order m.length with
  | nil => exact .nil
  | cons i rest ih =>
      by_cases hi : i < m.length
      · have hl : i < l.length := h.length_eq ▸ hi
        rw [List.filterMap_cons_some (b := (i, l[i])) (by simp [hl]),
          List.filterMap_cons_some (b := (i, m[i])) (by simp [hi])]
        exact .cons ⟨rfl, h.get hl hi⟩ ih
      · have hl : ¬ i < l.length := h.length_eq ▸ hi
        rw [List.filterMap_cons_none (by simpa using hl),
          List.filterMap_cons_none (by simpa using hi)]
        exact ih

/-- The indices that are picked: those of the order that name a sibling. -/
lemma map_fst_pick (siblings : List α) :
    (dispatch.pick siblings).map Prod.fst
      = (dispatch.order siblings.length).filter (· < siblings.length) := by
  rw [pick]
  induction dispatch.order siblings.length with
  | nil => rfl
  | cons i rest ih =>
      by_cases hi : i < siblings.length
      · rw [List.filterMap_cons_some (b := (i, siblings[i])) (by simp [hi]),
          List.filter_cons_of_pos (by simpa using hi), List.map_cons, ih]
      · rw [List.filterMap_cons_none (by simpa using hi),
          List.filter_cons_of_neg (by simpa using hi), ih]

lemma mem_pick_of_exhaustive (h : dispatch.Exhaustive) {siblings : List α} {a : α}
    (ha : a ∈ siblings) : ∃ i, (i, a) ∈ dispatch.pick siblings := by
  obtain ⟨i, hi, rfl⟩ := List.mem_iff_getElem.mp ha
  refine ⟨i, List.mem_filterMap.mpr ⟨i, ?_, by simp [hi]⟩⟩
  exact (h siblings.length).mem_iff.mpr (List.mem_range.mpr hi)

lemma pick_inOrder (h : dispatch.InOrder) (siblings : List α) :
    dispatch.pick siblings = siblings.mapIdx Prod.mk := by
  rw [pick, h]
  induction siblings using List.reverseRecOn with
  | nil => rfl
  | append_singleton front last ih =>
      have hfront : (List.range front.length).filterMap
            (fun i => (front ++ [last])[i]?.map (i, ·))
          = (List.range front.length).filterMap fun i => front[i]?.map (i, ·) := by
        refine List.filterMap_congr fun i hi => ?_
        rw [List.getElem?_append_left (List.mem_range.mp hi)]
      rw [List.length_append, List.length_singleton, List.range_succ, List.filterMap_append,
        hfront, ih, List.mapIdx_concat]
      simp

lemma map_snd_pick (h : dispatch.InOrder) (siblings : List α) :
    (dispatch.pick siblings).map Prod.snd = siblings := by
  rw [dispatch.pick_inOrder h]
  exact List.ext_getElem (by simp) fun i hi hj => by simp

lemma pairwise_mapIdx (siblings : List α) :
    (siblings.mapIdx Prod.mk).Pairwise fun a b => a.1 ≤ b.1 := by
  refine List.pairwise_iff_getElem.mpr fun i j hi hj hij => ?_
  simp only [List.getElem_mapIdx]
  exact Nat.le_of_lt hij

/-- **Sorting by index undoes every order** in which each sibling comes once. -/
lemma byIndex_pick (h : dispatch.Exhaustive) (siblings : List α) :
    byIndex (dispatch.pick siblings) = siblings.mapIdx Prod.mk := by
  have hperm : (dispatch.pick siblings).Perm (siblings.mapIdx Prod.mk) := by
    rw [← pick_inOrder sequential inOrder_sequential siblings]
    exact (h siblings.length).filterMap _
  refine byIndex_eq hperm (pairwise_mapIdx siblings) fun a ha b hb hab => ?_
  have h1 := dispatch.getElem?_of_mem_pick ha
  rw [hab, dispatch.getElem?_of_mem_pick hb, Option.some.injEq] at h1
  exact Prod.ext hab h1.symm

lemma inDocumentOrder_pick (h : dispatch.Exhaustive) (siblings : List α) :
    inDocumentOrder (dispatch.pick siblings) = siblings := by
  rw [inDocumentOrder, dispatch.byIndex_pick h]
  refine List.ext_getElem (by simp) fun i hi hj => by simp

end Dispatch

/-! ### Collected outcomes -/

lemma collect_ok (results : List (Nat × α)) :
    collect (results.map (Prod.map id .ok) : List (Nat × Except ε α)) = .ok results := by
  induction results with
  | nil => rfl
  | cons result rest ih =>
      rw [List.map_cons, collect, ih]
      rfl

lemma eq_map_ok_of_collect {outcomes : List (Nat × Except ε α)} {results : List (Nat × α)}
    (h : collect outcomes = .ok results) : outcomes = results.map (Prod.map id .ok) := by
  induction outcomes generalizing results with
  | nil =>
      obtain rfl : [] = results := Except.ok.inj h
      rfl
  | cons outcome rest ih =>
      obtain ⟨i, x⟩ := outcome
      cases x with
      | error e => exact nomatch h
      | ok a =>
          obtain ⟨others, ho, rfl⟩ := map_eq_ok_iff.mp h
          rw [ih ho]
          rfl

lemma faultOf_collect (outcomes : List (Nat × Except ε α)) :
    faultOf (collect outcomes) = outcomes.findSome? fun outcome => faultOf outcome.2 := by
  induction outcomes with
  | nil => rfl
  | cons outcome rest ih =>
      obtain ⟨i, x⟩ := outcome
      cases x with
      | error e => rfl
      | ok a =>
          show faultOf ((collect rest).map ((i, a) :: ·)) = _
          rw [faultOf_map, ih]
          rfl

lemma exists_eq_map_ok {outcomes : List (Except ε α)} (h : ∀ x ∈ outcomes, ∃ a, x = .ok a) :
    ∃ results : List α, outcomes = results.map .ok := by
  induction outcomes with
  | nil => exact ⟨[], rfl⟩
  | cons x rest ih =>
      obtain ⟨a, rfl⟩ := h x List.mem_cons_self
      obtain ⟨results, rfl⟩ := ih fun y hy => h y (List.mem_cons_of_mem _ hy)
      exact ⟨a :: results, rfl⟩

/-- Whether outcomes are collected as they come or by index shows in the order of the results only.
-/
lemma collect_byIndex_eq_ok {outcomes : List (Nat × Except ε α)} {results : List (Nat × α)} :
    collect (byIndex outcomes) = .ok results
      ↔ ∃ evaluated, collect outcomes = .ok evaluated ∧ results = byIndex evaluated := by
  constructor
  · intro h
    have hnone : ∀ outcome ∈ outcomes, faultOf outcome.2 = none := by
      have hfault : faultOf (collect (byIndex outcomes)) = none := by rw [h, faultOf_ok]
      rw [faultOf_collect, List.findSome?_eq_none_iff] at hfault
      exact fun outcome ho => hfault outcome ((byIndex_perm outcomes).mem_iff.mpr ho)
    obtain ⟨evaluated, hevaluated⟩ : ∃ evaluated, collect outcomes = .ok evaluated := by
      rw [← faultOf_eq_none, faultOf_collect, List.findSome?_eq_none_iff]
      exact hnone
    refine ⟨evaluated, hevaluated, ?_⟩
    rw [eq_map_ok_of_collect hevaluated, byIndex_map, collect_ok] at h
    exact (Except.ok.inj h).symm
  · rintro ⟨evaluated, hevaluated, rfl⟩
    rw [eq_map_ok_of_collect hevaluated, byIndex_map, collect_ok]

namespace Dispatch

variable (dispatch : Dispatch)

/-- Entries in the order in which they are asked for: as they come, or by index. -/
def asked (entries : List (Nat × α)) : List (Nat × α) :=
  if dispatch.stopsAtFault then entries else byIndex entries

lemma inDocumentOrder_asked (entries : List (Nat × α)) :
    inDocumentOrder (dispatch.asked entries) = inDocumentOrder entries := by
  rw [asked]
  split
  · rfl
  · rw [inDocumentOrder, byIndex_of_sorted (pairwise_byIndex entries), inDocumentOrder]

lemma collect_asked_eq_ok {outcomes : List (Nat × Except ε α)} {results : List (Nat × α)} :
    collect (dispatch.asked outcomes) = .ok results
      ↔ ∃ evaluated, collect outcomes = .ok evaluated ∧ results = dispatch.asked evaluated := by
  simp only [asked]
  split
  · simp
  · exact collect_byIndex_eq_ok

/-- Siblings are asked for in document order, whatever the order in which they come. -/
lemma asked_pick (h : dispatch.Steady) (siblings : List α) :
    dispatch.asked (dispatch.pick siblings) = siblings.mapIdx Prod.mk := by
  rcases h with horder | ⟨hall, hgoes⟩
  · rw [asked, dispatch.byIndex_pick horder.exhaustive, dispatch.pick_inOrder horder, ite_self]
  · rw [asked, hgoes, if_neg Bool.false_ne_true, dispatch.byIndex_pick hall]

/-- **No order shows in the results**: whatever the order in which each sibling comes once, the
results in document order are those of the siblings, and there are none if one of them fails. -/
lemma collect_asked_pick_eq_ok (h : dispatch.Exhaustive) {outcomes : List (Except ε α)}
    {parts : List α} :
    (∃ results, collect (dispatch.asked (dispatch.pick outcomes)) = .ok results
        ∧ inDocumentOrder results = parts)
      ↔ outcomes = parts.map .ok := by
  constructor
  · rintro ⟨results, hc, rfl⟩
    obtain ⟨evaluated, hcollect, rfl⟩ := dispatch.collect_asked_eq_ok.mp hc
    have hpick := eq_map_ok_of_collect hcollect
    obtain ⟨parts, rfl⟩ : ∃ parts : List α, outcomes = parts.map .ok := by
      refine exists_eq_map_ok fun x hx => ?_
      obtain ⟨i, hi⟩ := dispatch.mem_pick_of_exhaustive h hx
      rw [hpick] at hi
      obtain ⟨result, -, hr⟩ := List.mem_map.mp hi
      exact ⟨result.2, (congrArg Prod.snd hr).symm⟩
    rw [dispatch.pick_map, collect_ok] at hcollect
    rw [← Except.ok.inj hcollect, dispatch.inDocumentOrder_asked, dispatch.inDocumentOrder_pick h]
  · rintro rfl
    refine ⟨dispatch.asked (dispatch.pick parts), dispatch.collect_asked_eq_ok.mpr ⟨_, ?_, rfl⟩, ?_⟩
    · rw [dispatch.pick_map, collect_ok]
    · rw [dispatch.inDocumentOrder_asked, dispatch.inDocumentOrder_pick h]

/-! ### Running siblings -/

/-- Settled siblings settle on their results, or on the first fault that is met when they are asked
for. -/
lemma run_settles {actions : List (Action ε σ α)} {outcomes : List (Except ε α)}
    (h : List.Forall₂ Settles actions outcomes) :
    Settles (dispatch.run actions) (collect (dispatch.asked (dispatch.pick outcomes))) := by
  have hpick : List.Forall₂ SettlesAt (dispatch.pick actions) (dispatch.pick outcomes) :=
    dispatch.pick_forall₂ h
  rw [run, asked]
  split
  · exact settles_runInTurn hpick
  · intro s
    simp only [runTogether, attemptAll_of_settles hpick]

/-- A run that succeeds has evaluated its siblings one after another as they are picked. -/
lemma run_ok {actions : List (Action ε σ α)} {s t : σ} {results : List (Nat × α)}
    (h : dispatch.run actions s = (.ok results, t)) :
    ∃ evaluated, results = dispatch.asked evaluated
      ∧ evaluated.map Prod.fst = (dispatch.pick actions).map Prod.fst
      ∧ Evaluates ((dispatch.pick actions).map Prod.snd) s (evaluated.map Prod.snd) t := by
  rw [run] at h
  simp only [asked]
  split at h
  · rename_i hstops
    exact ⟨results, by rw [if_pos hstops], runInTurn_ok h⟩
  · rename_i hgoes
    obtain ⟨hcollect, hstate⟩ := attemptAll_cases (dispatch.pick actions) s
    simp only [runTogether, Action.end_inj] at h
    obtain ⟨hresults, rfl⟩ := h
    obtain ⟨evaluated, hevaluated, rfl⟩ := collect_byIndex_eq_ok.mp hresults
    rw [hcollect] at hevaluated
    refine ⟨evaluated, by rw [if_neg hgoes], ?_⟩
    rw [hstate evaluated hevaluated]
    exact runInTurn_ok (Prod.ext hevaluated rfl)

/-- Every result of a run is that of one of the siblings, in some state. -/
lemma exists_of_mem_results {actions : List (Action ε σ α)} {s t : σ} {results : List (Nat × α)}
    (h : dispatch.run actions s = (.ok results, t)) {a : α} (ha : a ∈ inDocumentOrder results) :
    ∃ action ∈ actions, ∃ u v, action u = (.ok a, v) := by
  obtain ⟨evaluated, rfl, -, heval⟩ := dispatch.run_ok h
  rw [dispatch.inDocumentOrder_asked] at ha
  have hmem : a ∈ evaluated.map Prod.snd :=
    ((byIndex_perm evaluated).map Prod.snd).mem_iff.mp ha
  obtain ⟨action, haction, huv⟩ := heval.exists_of_mem a hmem
  obtain ⟨entry, hentry, rfl⟩ := List.mem_map.mp haction
  exact ⟨entry.2, dispatch.mem_of_mem_pick hentry, huv⟩

/-- A fault of a run is the fault of one of the siblings, in some state. -/
lemma run_error {actions : List (Action ε σ α)} {s t : σ} {e : ε}
    (h : dispatch.run actions s = (.error e, t)) :
    ∃ action ∈ actions, ∃ u v, action u = (.error e, v) := by
  rw [run] at h
  split at h
  · obtain ⟨entry, hmem, huv⟩ := runInTurn_error h
    exact ⟨entry.2, dispatch.mem_of_mem_pick hmem, huv⟩
  · simp only [runTogether, Action.end_inj] at h
    have hfault := faultOf_eq_some.mpr h.1
    rw [faultOf_collect] at hfault
    obtain ⟨outcome, hmem, houtcome⟩ := List.exists_of_findSome?_eq_some hfault
    obtain ⟨entry, hentry, u, v, huv⟩ :=
      exists_of_mem_attemptAll ((byIndex_perm _).mem_iff.mp hmem)
    exact ⟨entry.2, dispatch.mem_of_mem_pick hentry, u, v, huv.trans
      (congrArg (·, v) (faultOf_eq_some.mp houtcome))⟩

/-- Siblings that come to the same result whenever they are evaluated give it as often as they are
picked. -/
lemma run_fst {actions : List (Action ε σ α)} {f : Nat → α}
    (h : ∀ i ∈ dispatch.order actions.length, ∀ hi : i < actions.length, ∀ s,
      (actions[i] s).1 = .ok (f i)) (s : σ) :
    (dispatch.run actions s).1
      = .ok (dispatch.asked (((dispatch.order actions.length).filter (· < actions.length)).map
          fun i => (i, f i))) := by
  have hpick : ∀ entry ∈ dispatch.pick actions, ∀ s, (entry.2 s).1 = .ok (f entry.1) := by
    intro entry hentry
    obtain ⟨i, hi, hget⟩ := List.mem_filterMap.mp hentry
    obtain ⟨action, haction, rfl⟩ := Option.map_eq_some_iff.mp hget
    obtain ⟨hlt, rfl⟩ := List.getElem?_eq_some_iff.mp haction
    exact h i hi hlt
  have hturn := runInTurn_fst hpick s
  rw [← dispatch.map_fst_pick, List.map_map, run, asked]
  split
  · exact hturn
  · rw [← (attemptAll_cases _ s).1] at hturn
    exact collect_byIndex_eq_ok.mpr ⟨_, hturn, rfl⟩

/-- In document order, to go on after a fault makes no difference but to the state after it. -/
lemma run_of_inOrder (h : dispatch.InOrder) (actions : List (Action ε σ α)) (s : σ) :
    (dispatch.run actions s).1 = (runInTurn (actions.mapIdx Prod.mk) s).1
      ∧ ∀ results, (runInTurn (actions.mapIdx Prod.mk) s).1 = .ok results →
          (dispatch.run actions s).2 = (runInTurn (actions.mapIdx Prod.mk) s).2 := by
  rw [run, dispatch.pick_inOrder h]
  split
  · exact ⟨rfl, fun _ _ => rfl⟩
  · obtain ⟨hcollect, hstate⟩ := attemptAll_cases (actions.mapIdx Prod.mk) s
    have hsorted : (attemptAll (actions.mapIdx Prod.mk) s).1.Pairwise fun a b => a.1 ≤ b.1 := by
      rw [← List.pairwise_map, map_fst_attemptAll]
      exact List.pairwise_map.mpr (pairwise_mapIdx actions)
    simp only [runTogether, byIndex_of_sorted hsorted]
    exact ⟨hcollect, hstate⟩

/-- In document order, the results are those of the siblings one after another. -/
lemma run_ok_of_inOrder (h : dispatch.InOrder) {actions : List (Action ε σ α)} {s t : σ}
    {results : List (Nat × α)} (hrun : dispatch.run actions s = (.ok results, t)) :
    Evaluates actions s (inDocumentOrder results) t := by
  obtain ⟨evaluated, rfl, hfst, heval⟩ := dispatch.run_ok hrun
  have hle : (evaluated.map Prod.fst).Pairwise (· ≤ ·) := by
    rw [hfst, dispatch.pick_inOrder h]
    exact List.pairwise_map.mpr (pairwise_mapIdx actions)
  rwa [dispatch.map_snd_pick h, ← inDocumentOrder_of_sorted hle,
    ← dispatch.inDocumentOrder_asked] at heval

end Dispatch

end BlockTree
