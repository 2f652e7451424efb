/-!
Text as a list of characters: the operations that every other module of the library shares.

* `Text`: a text is the list of its characters, so that offsets and counts are in characters;
* `join`, `splitOn`, `lines`: joining with a separator and cutting at one; `join_splitOn` says that
  cutting and joining again gives the text back, `forall_mem_join` of which characters a joined text
  consists;
* `cut?`: the two sides of the first occurrence of a character;
* `run_cases`, `takeWhile_run` and `dropWhile_run`: a text as a run of characters of a class and what
  follows it;
* `trimEnd` and `trim`: a text without the runs of matching characters at its end or at both ends;
  `exists_trim` and `trim_append` say which runs those are.
-/

namespace BlockTree

/-- A text, as the list of its characters. -/
abbrev Text := List Char

instance : Coe String Text := ⟨String.toList⟩

namespace Text

/-- What holds of all characters of a text is decided along the text, not over all characters. -/
instance (priority := high) (text : Text) (P : Char → Prop) [DecidablePred P] :
    Decidable (∀ c ∈ text, P c) :=
  List.decidableBAll P text

/-- The parts in order, with the separator between neighbours. -/
def join (sep : Text) : List Text → Text
  | [] => []
  | [part] => part
  | part :: rest => part ++ sep ++ join sep rest

/-- The pieces of a text between the occurrences of a character: one more than there are. -/
def splitOn (sep : Char) : Text → List Text
  | [] => [[]]
  | c :: rest =>
    if c = sep then [] :: splitOn sep rest
    else match splitOn sep rest with
      | [] => [[c]]
      | piece :: more => (c :: piece) :: more

/-- The lines of a text. -/
def lines (text : Text) : List Text :=
  splitOn '\n' text

/-- The parts before and after the first occurrence of a character. -/
def cut? (c : Char) : Text → Option (Text × Text)
  | [] => none
  | d :: rest =>
    if d = c then some ([], rest)
    else (cut? c rest).map fun (before, after) => (d :: before, after)

/-- The text without the run of matching characters at its end. -/
def trimEnd (p : Char → Bool) (text : Text) : Text :=
  (text.reverse.dropWhile p).reverse

/-- The text without the runs of matching characters at both ends. -/
def trim (p : Char → Bool) (text : Text) : Text :=
  trimEnd p (text.dropWhile p)

/-- What follows the lead, if the text starts with it. -/
def after? : (text lead : Text) → Option Text
  | text, [] => some text
  | [], _ :: _ => none
  | c :: text, l :: lead => if c = l then after? text lead else none

/-! ### Laws -/

theorem join_cons_cons (sep part next : Text) (rest : List Text) :
    join sep (part :: next :: rest) = part ++ sep ++ join sep (next :: rest) :=
  join.eq_3 sep part (next :: rest) nofun

theorem mem_join_of_mem {sep part : Text} {parts : List Text} {c : Char} (hpart : part ∈ parts)
    (hc : c ∈ part) : c ∈ join sep parts := by
  induction parts with
  | nil => exact nomatch hpart
  | cons first rest ih =>
    cases rest with
    | nil =>
      rw [List.mem_singleton] at hpart
      rwa [join, ← hpart]
    | cons second rest =>
      rw [join_cons_cons, List.mem_append, List.mem_append]
      rcases List.mem_cons.1 hpart with rfl | hpart
      · exact Or.inl (Or.inl hc)
      · exact Or.inr (ih hpart)

theorem mem_join {sep : Text} {parts : List Text} {c : Char} (h : c ∈ join sep parts) :
    c ∈ sep ∨ ∃ part ∈ parts, c ∈ part := by
  induction parts with
  | nil => exact nomatch h
  | cons first rest ih =>
    cases rest with
    | nil => exact Or.inr ⟨first, List.mem_cons_self, h⟩
    | cons second rest =>
      rw [join_cons_cons, List.mem_append, List.mem_append] at h
      rcases h with (h | h) | h
      · exact Or.inr ⟨first, List.mem_cons_self, h⟩
      · exact Or.inl h
      · rcases ih h with h | ⟨part, hpart, hc⟩
        · exact Or.inl h
        · exact Or.inr ⟨part, List.mem_cons_of_mem _ hpart, hc⟩

/-- What holds of the separator holds of a joined text if it holds of the parts. -/
theorem forall_mem_join {sep : Text} {parts : List Text} {P : Char → Prop}
    (hsep : ∀ c ∈ sep, P c) : (∀ c ∈ join sep parts, P c) ↔ ∀ part ∈ parts, ∀ c ∈ part, P c := by
  constructor
  · exact fun h part hpart c hc => h c (mem_join_of_mem hpart hc)
  · intro h c hc
    rcases mem_join hc with hc | ⟨part, hpart, hc⟩
    · exact hsep c hc
    · exact h part hpart c hc

theorem splitOn_ne_nil (sep : Char) (text : Text) : splitOn sep text ≠ [] := by
  cases text with
  | nil => simp [splitOn]
  | cons c rest =>
    rw [splitOn]
    split
    · simp
    · split <;> simp

/-- Cutting at a character and joining with it loses nothing. -/
theorem join_splitOn (sep : Char) (text : Text) : join [sep] (splitOn sep text) = text := by
  induction text with
  | nil => rfl
  | cons c rest ih =>
    obtain ⟨piece, more, h⟩ := List.exists_cons_of_ne_nil (splitOn_ne_nil sep rest)
    rw [splitOn, h]
    rw [h] at ih
    split
    · rename_i hc
      simp [join, ih, hc]
    · cases more with
      | nil => simpa [join] using ih
      | cons next more => simpa [join] using ih

/-- The lead and what follows it make up the text. -/
theorem after?_eq_some {text lead rest : Text} :
    text.after? lead = some rest ↔ text = lead ++ rest := by
  induction lead generalizing text with
  | nil => cases text <;> simp [after?]
  | cons l lead ih =>
    cases text with
    | nil => simp [after?]
    | cons c text =>
      by_cases h : c = l
      · simp [after?, h, ih]
      · simp [after?, h]

/-- The two sides of the first occurrence, with the character between them, make up the text. -/
theorem cut?_eq_some {c : Char} {text before after : Text}
    (h : cut? c text = some (before, after)) :
    text = before ++ c :: after ∧ c ∉ before := by
  induction text generalizing before with
  | nil => simp [cut?] at h
  | cons d rest ih =>
    rw [cut?] at h
    split at h
    · rename_i hd
      simp only [Option.some.injEq, Prod.mk.injEq] at h
      obtain ⟨rfl, rfl⟩ := h
      simp [hd]
    · rename_i hd
      simp only [Option.map_eq_some_iff, Prod.mk.injEq, Prod.exists] at h
      obtain ⟨b, a, hb, rfl, rfl⟩ := h
      obtain ⟨rfl, hmem⟩ := ih hb
      exact ⟨rfl, by simp [Ne.symm hd, hmem]⟩

theorem cut?_append {c : Char} {before : Text} (h : c ∉ before) (after : Text) :
    cut? c (before ++ c :: after) = some (before, after) := by
  induction before with
  | nil => simp [cut?]
  | cons d rest ih =>
    rw [List.mem_cons, not_or] at h
    simp [cut?, Ne.symm h.1, ih h.2]

/-- Only matching characters are trimmed at the end. -/
theorem exists_trimEnd (p : Char → Bool) (text : Text) :
    ∃ back, text = trimEnd p text ++ back ∧ ∀ c ∈ back, p c = true := by
  refine ⟨(text.reverse.takeWhile p).reverse, ?_, ?_⟩
  · rw [trimEnd, ← List.reverse_append, List.takeWhile_append_dropWhile, List.reverse_reverse]
  · intro c hc
    exact List.all_eq_true.1 List.all_takeWhile c (List.mem_reverse.1 hc)

/-- Only matching characters are trimmed. -/
theorem exists_trim (p : Char → Bool) (text : Text) :
    ∃ front back, text = front ++ trim p text ++ back
      ∧ (∀ c ∈ front, p c = true) ∧ ∀ c ∈ back, p c = true := by
  obtain ⟨back, hback, hall⟩ := exists_trimEnd p (text.dropWhile p)
  refine ⟨text.takeWhile p, back, ?_, List.all_eq_true.1 List.all_takeWhile, hall⟩
  rw [List.append_assoc, trim, ← hback, List.takeWhile_append_dropWhile]

theorem dropWhile_append_of_head? {p : Char → Bool} {front rest : Text}
    (hfront : ∀ c ∈ front, p c = true) (hrest : ∀ c ∈ rest.head?, p c = false) :
    (front ++ rest).dropWhile p = rest := by
  rw [List.dropWhile_append_of_pos hfront]
  cases rest with
  | nil => rfl
  | cons c rest => exact List.dropWhile_cons_of_neg (by simp [hrest c rfl])

/-- A text that neither starts nor ends with a matching character is what is left by trimming. -/
theorem trim_append {p : Char → Bool} {front core back : Text}
    (hfront : ∀ c ∈ front, p c = true) (hback : ∀ c ∈ back, p c = true)
    (hhead : ∀ c ∈ core.head?, p c = false) (hlast : ∀ c ∈ core.getLast?, p c = false) :
    trim p (front ++ core ++ back) = core := by
  have hend : (core ++ back).reverse.dropWhile p = core.reverse := by
    rw [List.reverse_append]
    refine dropWhile_append_of_head? (fun c hc => hback c (List.mem_reverse.1 hc)) ?_
    rwa [List.head?_reverse]
  rw [trim, trimEnd, List.append_assoc, List.dropWhile_append_of_pos hfront]
  cases core with
  | nil =>
    have hnil : (back ++ []).dropWhile p = [] := dropWhile_append_of_head? hback nofun
    rw [List.append_nil] at hnil
    rw [List.nil_append, hnil]
    rfl
  | cons c rest =>
    rw [List.cons_append, List.dropWhile_cons_of_neg (by simp [hhead c rfl]), ← List.cons_append,
      hend, List.reverse_reverse]

/-- A text consists of characters of a class, or is a run of them with another character behind. -/
theorem run_cases (p : Char → Bool) (text : Text) :
    (∀ c ∈ text, p c = true)
      ∨ ∃ run d after, text = run ++ d :: after ∧ (∀ c ∈ run, p c = true) ∧ p d = false := by
  induction text with
  | nil => exact Or.inl nofun
  | cons c text ih =>
    cases hc : p c with
    | false => exact Or.inr ⟨[], c, text, rfl, nofun, hc⟩
    | true =>
      rcases ih with hall | ⟨run, d, after, rfl, hrun, hd⟩
      · exact Or.inl (List.forall_mem_cons.2 ⟨hc, hall⟩)
      · exact Or.inr ⟨c :: run, d, after, rfl, List.forall_mem_cons.2 ⟨hc, hrun⟩, hd⟩

section

variable {p : Char → Bool} {run : Text} {d : Char} (hrun : ∀ c ∈ run, p c = true)
  (hd : p d = false)
include hrun hd

theorem takeWhile_run (after : Text) : (run ++ d :: after).takeWhile p = run := by
  rw [List.takeWhile_append_of_pos hrun, List.takeWhile_cons_of_neg (by simp [hd]),
    List.append_nil]

theorem dropWhile_run (after : Text) : (run ++ d :: after).dropWhile p = d :: after := by
  rw [List.dropWhile_append_of_pos hrun, List.dropWhile_cons_of_neg (by simp [hd])]

end

end Text

end BlockTree
