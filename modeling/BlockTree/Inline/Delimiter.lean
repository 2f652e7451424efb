import BlockTree.Text.Class

/-!
Delimited runs of text.

* `body?`: the shortest non-empty body on one line up to a closing;
* `Delimiter`: a mark that stands on both sides of a run, which must not touch a word if the
  delimiter is bounded;
* `segments`: a text cut into delimited runs and single characters, from left to right;
  `source_segments` says that nothing is lost.
-/

namespace BlockTree.Inline

/-- The shortest non-empty body without a line feed after which the text closes, and what follows
the closing. -/
def body? (closes : Text → Option Text) : Text → Option (Text × Text)
  | [] => none
  | c :: rest =>
    if c = '\n' then none
    else match closes rest with
      | some after => some ([c], after)
      | none => (body? closes rest).map fun (body, after) => (c :: body, after)

/-- A mark on both sides of a run of text. A bounded mark touches no word on its outer side. -/
structure Delimiter where
  mark : Text
  bounded : Bool
  deriving DecidableEq, Repr

namespace Delimiter

/-- The character on the outer side, if any, lets the mark stand there. -/
def allows (d : Delimiter) (outer : Option Char) : Bool :=
  !d.bounded || !outer.any Text.isWord

/-- What follows a closing mark at the start of a text. -/
def closes (d : Delimiter) (text : Text) : Option Text :=
  (text.after? d.mark).filter fun after => d.allows after.head?

/-- The body of a run that starts here, and what follows the run. -/
def run? (d : Delimiter) (before : Option Char) (text : Text) : Option (Text × Text) :=
  if d.allows before then (text.after? d.mark).bind (body? d.closes) else none

end Delimiter

/-- A delimited run, or a single character outside of all runs. -/
inductive Segment where
  | plain (c : Char)
  | run (delimiter : Delimiter) (body : Text)
  deriving DecidableEq, Repr

/-- The text of a segment. -/
def Segment.source : Segment → Text
  | .plain c => [c]
  | .run delimiter body => delimiter.mark ++ body ++ delimiter.mark

/-- The first of the delimiters that has a run here, its body, and what follows. -/
def firstRun? (delimiters : List Delimiter) (before : Option Char) (text : Text) :
    Option (Delimiter × Text × Text) :=
  delimiters.findSome? fun d => (d.run? before text).map (d, ·)

/-! ### Laws of runs -/

theorem body?_eq_some {closes : Text → Option Text} {text body after : Text}
    (h : body? closes text = some (body, after)) :
    ∃ rest, text = body ++ rest ∧ closes rest = some after ∧ body ≠ [] ∧ '\n' ∉ body := by
  induction text generalizing body with
  | nil => simp [body?] at h
  | cons c rest ih =>
    rw [body?] at h
    split at h
    · simp at h
    · rename_i hc
      split at h
      · rename_i hcl
        simp only [Option.some.injEq, Prod.mk.injEq] at h
        obtain ⟨rfl, rfl⟩ := h
        exact ⟨rest, rfl, hcl, by simp, by simpa using Ne.symm hc⟩
      · simp only [Option.map_eq_some_iff, Prod.mk.injEq, Prod.exists] at h
        obtain ⟨b, _, hb, rfl, rfl⟩ := h
        obtain ⟨r, rfl, hcl, -, hnl⟩ := ih hb
        exact ⟨r, rfl, hcl, by simp, by simp [hnl, Ne.symm hc]⟩

theorem Delimiter.run?_eq_some {d : Delimiter} {before : Option Char} {text body after : Text}
    (h : d.run? before text = some (body, after)) :
    text = d.mark ++ body ++ d.mark ++ after ∧ body ≠ [] := by
  unfold Delimiter.run? at h
  split at h
  · obtain ⟨rest, hl, hb⟩ := Option.bind_eq_some_iff.1 h
    obtain ⟨close, rfl, hcl, hne, -⟩ := body?_eq_some hb
    simp only [Delimiter.closes, Option.filter_eq_some_iff] at hcl
    rw [Text.after?_eq_some.1 hl, Text.after?_eq_some.1 hcl.1]
    exact ⟨by simp, hne⟩
  · simp at h

theorem firstRun?_eq_some {delimiters : List Delimiter} {before : Option Char}
    {text body after : Text} {d : Delimiter}
    (h : firstRun? delimiters before text = some (d, body, after)) :
    d ∈ delimiters ∧ text = d.mark ++ body ++ d.mark ++ after ∧ body ≠ [] := by
  obtain ⟨e, he, hr⟩ := List.exists_of_findSome?_eq_some h
  simp only [Option.map_eq_some_iff, Prod.mk.injEq, Prod.exists] at hr
  obtain ⟨_, _, hr, rfl, rfl, rfl⟩ := hr
  exact ⟨he, Delimiter.run?_eq_some hr⟩

theorem firstRun?_length {delimiters : List Delimiter} {before : Option Char}
    {text body after : Text} {d : Delimiter}
    (h : firstRun? delimiters before text = some (d, body, after)) :
    after.length < text.length := by
  obtain ⟨-, rfl, hne⟩ := firstRun?_eq_some h
  have := List.length_pos_iff.2 hne
  simp only [List.length_append]
  omega

/-! ### Segments -/

/-- Cuts a text into delimited runs and single characters. The first argument is the character in
front of the text, if any. -/
def segments (delimiters : List Delimiter) (before : Option Char) (text : Text) : List Segment :=
  match text with
  | [] => []
  | c :: rest =>
    match _ : firstRun? delimiters before (c :: rest) with
    | some (d, body, after) => .run d body :: segments delimiters d.mark.getLast? after
    | none => .plain c :: segments delimiters (some c) rest
termination_by text.length
decreasing_by
  · exact firstRun?_length (by assumption)
  · simp

/-- The segments make up the text. -/
theorem source_segments (delimiters : List Delimiter) (before : Option Char) (text : Text) :
    (segments delimiters before text).flatMap Segment.source = text := by
  fun_induction segments delimiters before text with
  | case1 => rfl
  | case2 before c rest d body after h ih =>
    simp [Segment.source, ih, (firstRun?_eq_some h).2.1]
  | case3 before c rest h ih => simp [Segment.source, ih]

end BlockTree.Inline
