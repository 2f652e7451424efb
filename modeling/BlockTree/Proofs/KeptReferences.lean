import BlockTree.Proofs.References

/-!
Escaping that keeps the references of a text.

* `IsReference`: an ampersand, perhaps a number sign, a name of word characters and a semicolon;
  `continuesReference_iff`: exactly in front of the rest of one an ampersand stays.
* `escape_plain_append` and `escape_append`: plain text is not changed, and a text is escaped in two
  parts if the second begins with an ampersand. So a reference in a text stays.
* `ampersandsBegin_escape_of_references`: every ampersand of an escaped text begins a reference, either of
  a special character or one that stood in the text.
* `escape_eq_self_iff`: inert texts with no other ampersands are not changed, and only these.
* `escape_keeps_references`: these together, so that escaping twice changes nothing.
-/

namespace BlockTree.Entity

/-! ### References -/

/-- **A reference** as it can be written. -/
def IsReference (reference : Text) : Prop :=
  ∃ mark name, reference = '&' :: (mark ++ name ++ [';']) ∧ (mark = [] ∨ mark = ['#'])
    ∧ name ≠ [] ∧ ∀ c ∈ name, Text.isWord c = true

/-- A plain character: escaping leaves it as it is, whatever stands next to it. -/
def isPlain (c : Char) : Bool :=
  c ≠ '&' && isInert c

lemma isPlain_of_isWord {c : Char} (h : Text.isWord c = true) : isPlain c = true := by
  have hmarks : ∀ d ∈ ['&', '<', '>', '"', '\x27'], Text.isWord d = false := by decide +kernel
  simp only [List.forall_mem_cons] at hmarks
  obtain ⟨hamp, hlt, hgt, hquot, hapos, -⟩ := hmarks
  have hne : ∀ d, Text.isWord d = false → c ≠ d := fun d hd => Text.ne_of_class h hd
  simp [isPlain, isInert, hne _ hamp, hne _ hlt, hne _ hgt, hne _ hquot, hne _ hapos]

/-- Behind its ampersand a reference is plain. -/
lemma IsReference.exists_cons {reference : Text} (h : IsReference reference) :
    ∃ name, reference = '&' :: name ∧ ∀ c ∈ name, isPlain c = true := by
  obtain ⟨mark, name, rfl, hmark, -, hname⟩ := h
  refine ⟨_, rfl, ?_⟩
  rw [List.forall_mem_append, List.forall_mem_append]
  refine ⟨⟨?_, fun c hc => isPlain_of_isWord (hname c hc)⟩, by decide⟩
  rcases hmark with rfl | rfl <;> decide

lemma ampersand_notMem {plain : Text} (h : ∀ c ∈ plain, isPlain c = true) : '&' ∉ plain :=
  fun hmem => absurd (h '&' hmem) (by decide)

/-- A name that a semicolon ends is the longest run of word characters. -/
lemma endsName_iff {text : Text} :
    (!(text.takeWhile Text.isWord).isEmpty && (text.dropWhile Text.isWord).head? = some ';') = true
      ↔ ∃ name after, text = name ++ ';' :: after ∧ name ≠ []
          ∧ ∀ c ∈ name, Text.isWord c = true := by
  have hsemicolon : Text.isWord ';' = false := by decide +kernel
  rw [Bool.and_eq_true, Bool.not_eq_true', List.isEmpty_eq_false_iff, decide_eq_true_iff]
  constructor
  · rintro ⟨hne, hhead⟩
    refine ⟨_, (text.dropWhile Text.isWord).tail, ?_, hne,
      List.all_eq_true.mp List.all_takeWhile⟩
    rw [List.cons_head?_tail hhead, List.takeWhile_append_dropWhile]
  · rintro ⟨name, after, rfl, hne, hname⟩
    rw [Text.takeWhile_run hname hsemicolon, Text.dropWhile_run hname hsemicolon]
    exact ⟨hne, rfl⟩

/-- **An ampersand that stays** stands in front of the rest of a reference. -/
lemma continuesReference_iff {rest : Text} :
    continuesReference rest = true
      ↔ ∃ reference, IsReference reference ∧ reference <+: '&' :: rest := by
  rw [continuesReference, endsName_iff]
  constructor
  · rintro ⟨name, after, hrest, hne, hname⟩
    split at hrest
    · rename_i hnumber
      refine ⟨_, ⟨['#'], name, rfl, Or.inr rfl, hne, hname⟩, after, ?_⟩
      rw [← List.cons_head?_tail hnumber, hrest]
      simp
    · refine ⟨_, ⟨[], name, rfl, Or.inl rfl, hne, hname⟩, after, ?_⟩
      rw [hrest]
      simp
  · rintro ⟨_, ⟨mark, name, rfl, hmark, hne, hname⟩, after, hafter⟩
    obtain rfl : mark ++ name ++ [';'] ++ after = rest := (List.cons.inj hafter).2
    refine ⟨name, after, ?_, hne, hname⟩
    rcases hmark with rfl | rfl
    · obtain ⟨c, others, rfl⟩ := List.exists_cons_of_ne_nil hne
      have hc : c ≠ '#' := Text.ne_of_class (hname c List.mem_cons_self) (by decide +kernel)
      simp [hc]
    · simp

/-! ### Parts of a text -/

lemma escape_cons (every : Bool) (c : Char) (rest : Text) :
    escape every (c :: rest)
      = (if c = '&' && (every || !continuesReference rest) then "&amp;".toList else ofSpecial c)
          ++ escape every rest := by
  rw [escape, escapeAmpersands]
  split
  · rw [List.flatMap_append]
    rfl
  · rw [List.flatMap_cons]
    rfl

lemma ofSpecial_of_isInert {c : Char} (h : isInert c = true) : ofSpecial c = [c] := by
  simp only [isInert, Bool.and_eq_true, decide_eq_true_eq] at h
  obtain ⟨⟨⟨hlt, hgt⟩, hquot⟩, hapos⟩ := h
  rw [ofSpecial, if_neg hlt, if_neg hgt, if_neg hquot, if_neg hapos]

/-- **Plain text is not changed**, whatever follows it. -/
lemma escape_plain_append {plain : Text} (h : ∀ c ∈ plain, isPlain c = true) (every : Bool)
    (rest : Text) : escape every (plain ++ rest) = plain ++ escape every rest := by
  induction plain with
  | nil => rfl
  | cons c plain ih =>
      obtain ⟨hc, hplain⟩ := List.forall_mem_cons.mp h
      rw [isPlain, Bool.and_eq_true, decide_eq_true_eq] at hc
      rw [List.cons_append, escape_cons, if_neg (by simp [hc.1]), ofSpecial_of_isInert hc.2,
        ih hplain]
      rfl

/-- Whether an ampersand begins a reference is not changed by an ampersand behind the text. -/
lemma continuesReference_append {tail : Text} (h : tail.head? = some '&') (text : Text) :
    continuesReference (text ++ tail) = continuesReference text := by
  rw [Bool.eq_iff_iff, continuesReference_iff, continuesReference_iff]
  refine exists_congr fun reference => and_congr_right fun href => ?_
  obtain ⟨name, rfl, hname⟩ := href.exists_cons
  rw [List.cons_prefix_cons, List.cons_prefix_cons]
  refine and_congr_right fun _ =>
    ⟨fun ⟨after, hafter⟩ => ?_, fun h => h.trans (List.prefix_append _ _)⟩
  rcases List.append_eq_append_iff.mp hafter with ⟨between, rfl, -⟩ | ⟨inside, rfl, htail⟩
  · exact List.prefix_append _ _
  · cases inside with
    | nil => rw [List.append_nil]
    | cons c inside =>
        rw [htail] at h
        obtain rfl : c = '&' := Option.some.inj h
        exact absurd (List.mem_append_right _ List.mem_cons_self) (ampersand_notMem hname)

/-- **A text is escaped in two parts** if the second begins with an ampersand. -/
lemma escape_append {tail : Text} (h : tail.head? = some '&') (every : Bool) (text : Text) :
    escape every (text ++ tail) = escape every text ++ escape every tail := by
  induction text with
  | nil => rfl
  | cons c text ih =>
      rw [List.cons_append, escape_cons, escape_cons, continuesReference_append h, ih,
        List.append_assoc]

/-- A reference stays. -/
lemma escape_reference_append {reference : Text} (h : IsReference reference) (rest : Text) :
    escape false (reference ++ rest) = reference ++ escape false rest := by
  obtain ⟨name, rfl, hname⟩ := h.exists_cons
  have hcontinues : continuesReference (name ++ rest) = true :=
    continuesReference_iff.mpr ⟨_, h, rest, rfl⟩
  rw [List.cons_append, escape_cons, if_neg (by simp [hcontinues]), escape_plain_append hname]
  rfl

/-! ### Escaped texts -/

/-- The references of the special characters are references. -/
lemma isReference_of_mem_specials {reference : Text}
    (h : reference ∈ specials.entries.map Prod.snd) : IsReference reference := by
  simp only [specials, marks, List.map_cons, List.map_nil, List.mem_cons, List.not_mem_nil,
    or_false] at h
  rcases h with rfl | rfl | rfl | rfl | rfl
  · exact ⟨[], "amp", rfl, Or.inl rfl, by decide, by decide⟩
  · exact ⟨[], "lt", rfl, Or.inl rfl, by decide, by decide⟩
  · exact ⟨[], "gt", rfl, Or.inl rfl, by decide, by decide⟩
  · exact ⟨[], "quot", rfl, Or.inl rfl, by decide, by decide⟩
  · exact ⟨['#'], "39", rfl, Or.inr rfl, by decide, by decide⟩

lemma ofSpecial_cases (c : Char) :
    ofSpecial c ∈ specials.entries.map Prod.snd ∨ ofSpecial c = [c] := by
  rw [ofSpecial]
  split_ifs
  · exact Or.inl (by decide)
  · exact Or.inl (by decide)
  · exact Or.inl (by decide)
  · exact Or.inl (by decide)
  · exact Or.inr rfl

/-- **Every ampersand of an escaped text** begins a reference: of a special character, or one that
stands in the text. -/
lemma ampersandsBegin_escape_of_references {P : Text → Prop} {text : Text}
    (hspecials : ∀ reference ∈ specials.entries.map Prod.snd, P reference)
    (htext : ∀ reference, IsReference reference → reference <:+: text → P reference) :
    AmpersandsBegin P (escape false text) := by
  induction text with
  | nil => exact .nil
  | cons c rest ih =>
      have hrest := ih fun reference href hwithin => htext reference href (hwithin.trans
        (List.suffix_cons c rest).isInfix)
      have hspecial : ∀ reference ∈ specials.entries.map Prod.snd,
          AmpersandsBegin P (reference ++ escape false rest) := by
        intro reference hmem
        have href := hspecials reference hmem
        obtain ⟨name, rfl, hname⟩ := (isReference_of_mem_specials hmem).exists_cons
        exact hrest.reference_append href (ampersand_notMem hname)
      rw [escape_cons]
      split
      · exact hspecial _ (by decide)
      · rename_i hstays
        by_cases hc : c = '&'
        · -- The reference that the ampersand begins stands behind it in the escaped text as well.
          subst hc
          have hcontinues : continuesReference rest = true := by simpa using hstays
          obtain ⟨reference, href, after, hafter⟩ := continuesReference_iff.mp hcontinues
          have hkept := escape_reference_append href after
          rw [hafter, escape_cons, if_neg hstays] at hkept
          exact hrest.cons_of_reference (htext reference href ⟨[], after, hafter⟩) ⟨_, hkept.symm⟩
        · rcases ofSpecial_cases c with hmem | hplain
          · exact hspecial _ hmem
          · rw [hplain]
            exact hrest.cons_of_ne hc

lemma ampersandsBegin_escape (text : Text) : AmpersandsBegin IsReference (escape false text) :=
  ampersandsBegin_escape_of_references (fun _ => isReference_of_mem_specials) fun _ href _ => href

lemma ampersandsBegin_escape_every (text : Text) :
    AmpersandsBegin IsReference (escape true text) := by
  rw [escape_every_eq_encode]
  exact (specials.ampersandsBegin_encode text).mono fun _ => isReference_of_mem_specials

/-- **Exactly these texts are not changed**: inert ones, all of whose ampersands begin references. -/
lemma escape_eq_self_iff {text : Text} :
    escape false text = text
      ↔ (∀ c ∈ text, isInert c = true) ∧ AmpersandsBegin IsReference text := by
  constructor
  · intro h
    rw [← h]
    exact ⟨fun c hc => isInert_of_mem_escape hc, ampersandsBegin_escape text⟩
  · rintro ⟨hinert, hampersands⟩
    induction text with
    | nil => rfl
    | cons c rest ih =>
        obtain ⟨hc, hrest⟩ := List.forall_mem_cons.mp hinert
        have hstays : ¬ (c = '&' && (false || !continuesReference rest)) = true := by
          intro h
          simp only [Bool.false_or, Bool.and_eq_true, decide_eq_true_eq, Bool.not_eq_true'] at h
          obtain ⟨rfl, hbare⟩ := h
          rw [continuesReference_iff.mpr (hampersands [] rest rfl)] at hbare
          cases hbare
        rw [escape_cons, if_neg hstays, ofSpecial_of_isInert hc, ih hrest hampersands.tail]
        rfl

/-- **Escaping that keeps references** leaves an inert text whose ampersands all begin references;
every reference of the text is among them, with what is in front of it and behind it escaped on its
own. Text that is escaped already, in this way or with every ampersand, is not changed. -/
theorem escape_keeps_references (text : Text) :
    (∀ c ∈ escape false text, isInert c = true)
      ∧ AmpersandsBegin IsReference (escape false text)
      ∧ (∀ before reference after, IsReference reference → text = before ++ reference ++ after →
          escape false text = escape false before ++ reference ++ escape false after)
      ∧ escape false (escape false text) = escape false text
      ∧ escape false (escape true text) = escape true text := by
  have hinert : ∀ every, ∀ c ∈ escape every text, isInert c = true :=
    fun every c hc => isInert_of_mem_escape hc
  refine ⟨hinert false, ampersandsBegin_escape text, ?_, ?_, ?_⟩
  · rintro before reference after href rfl
    have hhead : (reference ++ after).head? = some '&' := by
      obtain ⟨name, rfl, -⟩ := href.exists_cons
      rfl
    rw [List.append_assoc, escape_append hhead, escape_reference_append href, List.append_assoc]
  · exact escape_eq_self_iff.mpr ⟨hinert false, ampersandsBegin_escape text⟩
  · refine escape_eq_self_iff.mpr ⟨hinert true, ?_⟩
    rw [escape_every_eq_encode]
    exact (specials.ampersandsBegin_encode text).mono fun _ => isReference_of_mem_specials

example : escape false "&amp; & <&#39;>" = "&amp; &amp; &lt;&#39;&gt;".toList := by decide +kernel

end BlockTree.Entity
