import BlockTree.Inline.Converter
import Mathlib.Tactic

/-!
Hard breaks between the lines of inline content.

* `EndsInBlanks` and `BlanksBeforeFeed`: a line ends in two blanks, or in two blanks and a line feed;
  `endsInBreak_iff` says that the converter takes both for a hard break, and `trimEnd_of_feed` that
  nothing is trimmed from a line of the second kind.
* `brokenLines`: the pieces of some lines, where a test on all lines but the last asks for a hard break;
  `renderLines_eq` gives the pieces of the converter.
* `join_eq_join_iff`: texts that are equal or shorter, one by one, give equal joined texts only if they
  are all equal.
* `standard_hardBreaks`: the converter breaks lines that end in two blanks and no others exactly if no line
  but the last ends in blanks and a line feed; so for all lines of one text.
-/

namespace BlockTree

/-! ### Texts that are cut and joined -/

/-- No piece holds the character that the text was cut at. -/
lemma notMem_of_mem_splitOn {sep : Char} {text piece : Text} (h : piece ∈ Text.splitOn sep text) :
    sep ∉ piece := by
  induction text generalizing piece with
  | nil =>
      obtain rfl := List.mem_singleton.mp h
      exact List.not_mem_nil
  | cons c rest ih =>
      obtain ⟨first, more, hsplit⟩ := List.exists_cons_of_ne_nil (Text.splitOn_ne_nil sep rest)
      rw [hsplit] at ih
      rw [Text.splitOn, hsplit] at h
      split at h
      · rcases List.mem_cons.mp h with rfl | hmem
        · exact List.not_mem_nil
        · exact ih hmem
      · rename_i hc
        rcases List.mem_cons.mp h with rfl | hmem
        · rw [List.mem_cons, not_or]
          exact ⟨Ne.symm hc, ih List.mem_cons_self⟩
        · exact ih (List.mem_cons_of_mem _ hmem)

section

variable {sep : Text} {shorts longs : List Text}

lemma length_join_le (h : List.Forall₂ (fun short long => short.length ≤ long.length) shorts longs) :
    (Text.join sep shorts).length ≤ (Text.join sep longs).length := by
  induction h with
  | nil => exact le_rfl
  | cons hfirst hrest ih =>
      cases hrest with
      | nil => exact hfirst
      | cons hsecond hmore =>
          simp only [Text.join_cons_cons, List.length_append] at ih ⊢
          omega

/-- Texts that are equal or shorter, one by one, differ from the others when joined if one of them does. -/
lemma join_eq_join_iff
    (h : List.Forall₂ (fun short long => short = long ∨ short.length < long.length) shorts longs) :
    Text.join sep shorts = Text.join sep longs ↔ shorts = longs := by
  refine ⟨fun hjoin => ?_, fun heq => heq ▸ rfl⟩
  induction h with
  | nil => rfl
  | @cons short long shorts longs hfirst hrest ih =>
      have hle : (Text.join sep shorts).length ≤ (Text.join sep longs).length :=
        length_join_le (hrest.imp fun _ _ => Or.rec (fun heq => heq ▸ le_rfl) Nat.le_of_lt)
      cases hrest with
      | nil => exact congrArg (fun text => [text]) hjoin
      | cons hsecond hmore =>
          rw [Text.join_cons_cons, Text.join_cons_cons] at hjoin
          rcases hfirst with rfl | hless
          · rw [ih (List.append_cancel_left hjoin)]
          · have hlength := congrArg List.length hjoin
            simp only [List.length_append] at hlength
            omega

end

namespace Inline

/-! ### Ends of lines -/

/-- The line ends in two blanks. -/
def EndsInBlanks (line : Text) : Prop :=
  [' ', ' '] <:+ line

/-- The line ends in two blanks and a line feed. -/
def BlanksBeforeFeed (line : Text) : Prop :=
  [' ', ' ', '\n'] <:+ line

instance (line : Text) : Decidable (EndsInBlanks line) :=
  inferInstanceAs (Decidable ([' ', ' '] <:+ line))

instance (line : Text) : Decidable (BlanksBeforeFeed line) :=
  inferInstanceAs (Decidable ([' ', ' ', '\n'] <:+ line))

lemma endsInBlanks_reverse {back : Text} : EndsInBlanks back.reverse ↔ [' ', ' '] <+: back := by
  rw [EndsInBlanks, ← List.reverse_prefix, List.reverse_reverse]
  rfl

lemma blanksBeforeFeed_reverse {back : Text} :
    BlanksBeforeFeed back.reverse ↔ ['\n', ' ', ' '] <+: back := by
  rw [BlanksBeforeFeed, ← List.reverse_prefix, List.reverse_reverse]
  rfl

/-- **What the converter takes for a hard break.** -/
lemma endsInBreak_iff {line : Text} :
    endsInBreak line = true ↔ EndsInBlanks line ∨ BlanksBeforeFeed line := by
  obtain ⟨back, rfl⟩ := List.reverse_surjective line
  rw [endsInBlanks_reverse, blanksBeforeFeed_reverse, endsInBreak, List.reverse_reverse]
  split
  · simp
  · simp
  · rename_i hblanks hfeed
    constructor
    · exact nofun
    · rintro (⟨rest, rfl⟩ | ⟨rest, rfl⟩)
      · exact (hblanks rest rfl).elim
      · exact (hfeed rest rfl).elim

/-- Nothing is trimmed from a line that ends in a line feed, and it does not end in blanks. -/
lemma BlanksBeforeFeed.trimEnd_eq {line : Text} (h : BlanksBeforeFeed line) :
    Text.trimEnd (· = ' ') line = line ∧ ¬ EndsInBlanks line := by
  obtain ⟨front, rfl⟩ := h
  refine ⟨by simp [Text.trimEnd], ?_⟩
  rw [EndsInBlanks, ← List.reverse_prefix]
  simp

/-! ### Pieces of lines -/

variable (footnotes : Entries Int)

section

variable (breaks : Text → Prop) [DecidablePred breaks]

/-- The piece of a line that others follow: if the test asks for a hard break, it loses the blanks at its
end and the break is put behind it. -/
def brokenLine (line : Text) : Text :=
  if breaks line then renderLine footnotes (Text.trimEnd (· = ' ') line) ++ Markup.lineBreak
  else renderLine footnotes line

/-- **The pieces of lines**, where a test on all but the last asks for hard breaks. -/
def brokenLines (lines : List Text) : List Text :=
  lines.mapIdx fun index line =>
    if index + 1 < lines.length then brokenLine footnotes breaks line else renderLine footnotes line

lemma brokenLines_singleton (line : Text) :
    brokenLines footnotes breaks [line] = [renderLine footnotes line] := by
  simp [brokenLines]

lemma brokenLines_cons_cons (line next : Text) (rest : List Text) :
    brokenLines footnotes breaks (line :: next :: rest)
      = brokenLine footnotes breaks line :: brokenLines footnotes breaks (next :: rest) := by
  simp [brokenLines, List.mapIdx_cons]

end

/-- **The pieces of the converter.** -/
lemma renderLines_eq (lines : List Text) :
    renderLines footnotes lines
      = brokenLines footnotes (fun line => EndsInBlanks line ∨ BlanksBeforeFeed line) lines := by
  induction lines with
  | nil => rfl
  | cons line rest ih =>
      cases rest with
      | nil => rw [brokenLines_singleton, renderLines]
      | cons next rest =>
          rw [brokenLines_cons_cons, ← ih, renderLines, renderInnerLine, brokenLine]
          · simp only [endsInBreak_iff]
          · exact nofun

/-- Without the test on the line feed, the piece of a line is the same, or shorter by the hard break. -/
lemma brokenLine_cases (line : Text) :
    brokenLine footnotes EndsInBlanks line
          = brokenLine footnotes (fun line => EndsInBlanks line ∨ BlanksBeforeFeed line) line
        ∧ ¬ BlanksBeforeFeed line
      ∨ (brokenLine footnotes EndsInBlanks line).length
          < (brokenLine footnotes (fun line => EndsInBlanks line ∨ BlanksBeforeFeed line) line).length
        ∧ BlanksBeforeFeed line := by
  by_cases hfeed : BlanksBeforeFeed line
  · obtain ⟨htrim, hblanks⟩ := hfeed.trimEnd_eq
    right
    rw [brokenLine, brokenLine, if_neg hblanks, if_pos (Or.inr hfeed), htrim, List.length_append]
    exact ⟨Nat.lt_add_of_pos_right (by decide), hfeed⟩
  · left
    simp only [brokenLine, hfeed, or_false, not_false_eq_true, and_true]

lemma forall₂_brokenLines (lines : List Text) :
    List.Forall₂ (fun short long => short = long ∨ short.length < long.length)
      (brokenLines footnotes EndsInBlanks lines) (renderLines footnotes lines) := by
  rw [renderLines_eq]
  induction lines with
  | nil => exact .nil
  | cons line rest ih =>
      cases rest with
      | nil =>
          rw [brokenLines_singleton, brokenLines_singleton]
          exact .cons (Or.inl rfl) .nil
      | cons next rest =>
          rw [brokenLines_cons_cons, brokenLines_cons_cons]
          exact .cons ((brokenLine_cases footnotes line).imp And.left And.left) ih

lemma brokenLines_eq_iff (lines : List Text) :
    brokenLines footnotes EndsInBlanks lines = renderLines footnotes lines
      ↔ ∀ line ∈ lines.dropLast, ¬ BlanksBeforeFeed line := by
  rw [renderLines_eq]
  induction lines with
  | nil => exact iff_of_true rfl nofun
  | cons line rest ih =>
      cases rest with
      | nil =>
          rw [brokenLines_singleton, brokenLines_singleton]
          exact iff_of_true rfl nofun
      | cons next rest =>
          rw [brokenLines_cons_cons, brokenLines_cons_cons, List.cons.injEq, ih, List.dropLast_cons_cons,
            List.forall_mem_cons]
          refine and_congr_left fun _ => ?_
          rcases brokenLine_cases footnotes line with ⟨heq, hfeed⟩ | ⟨hless, hfeed⟩
          · exact iff_of_true heq hfeed
          · exact iff_of_false (fun heq => hless.ne (congrArg List.length heq)) (not_not_intro hfeed)

/-! ### Conversion -/

/-- **The hard breaks of the standard conversion.** The first part gives the pieces of any lines. A line
that ends in two blanks and a line feed is followed by a hard break as well, and keeps its blanks. So lines
are broken at two blanks, and there only, exactly if no line but the last ends like that; this is so for the
lines of one text. -/
theorem standard_hardBreaks (lines : List Text) :
    Converter.standard footnotes (.lines lines)
        = Text.join ['\n']
          (brokenLines footnotes (fun line => EndsInBlanks line ∨ BlanksBeforeFeed line) lines)
      ∧ (∀ line, BlanksBeforeFeed line →
          Text.trimEnd (· = ' ') line = line ∧ ¬ EndsInBlanks line)
      ∧ (Converter.standard footnotes (.lines lines)
            = Text.join ['\n'] (brokenLines footnotes EndsInBlanks lines)
          ↔ ∀ line ∈ lines.dropLast, ¬ BlanksBeforeFeed line)
      ∧ ∀ words, Converter.standard footnotes (.text words)
          = Text.join ['\n'] (brokenLines footnotes EndsInBlanks (Text.lines words)) := by
  have hiff : ∀ lines, Converter.standard footnotes (.lines lines)
        = Text.join ['\n'] (brokenLines footnotes EndsInBlanks lines)
      ↔ ∀ line ∈ lines.dropLast, ¬ BlanksBeforeFeed line := by
    intro lines
    rw [← brokenLines_eq_iff footnotes, ← join_eq_join_iff (forall₂_brokenLines footnotes lines)]
    exact eq_comm
  refine ⟨?_, fun _ => BlanksBeforeFeed.trimEnd_eq, hiff lines, fun words => ?_⟩
  · rw [Converter.standard, Content.toLines, renderLines_eq]
  · refine (hiff (Text.lines words)).mpr fun line hline hfeed => ?_
    have hmem : '\n' ∈ line := hfeed.subset (by decide)
    exact notMem_of_mem_splitOn (List.mem_of_mem_dropLast hline) hmem

/-- **A line feed behind two blanks**: the line does not end in blanks, and is followed by a hard break with
its blanks in front of it. -/
theorem line_feed_behind_blanks :
    ¬ EndsInBlanks "one  \n"
      ∧ Converter.standard [] (.lines ["one  \n", "two"]) = "one  \n<br/>\ntwo".toList
      ∧ Converter.standard [] (.lines ["one  \n", "two"])
        ≠ Text.join ['\n'] (brokenLines [] EndsInBlanks ["one  \n", "two"]) := by
  decide +kernel

end Inline

end BlockTree
