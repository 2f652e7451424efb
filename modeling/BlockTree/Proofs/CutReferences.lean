import BlockTree.Proofs.KeptReferences

/-!
References across a cut of a text.

* `IsReference.eq_of_isPrefix`: no reference begins with another one, and with `isReference_iff` it can
  be decided what is a reference.
* `HasOuterUnderscore`: the name of a reference begins or ends with an underscore; any other underscore
  in it has word characters on both sides.
* `CutsReference`: a reference begins in front of the cut and ends behind it.
* `ampersandsBegin_append_iff`: at a cut through no reference, a text falls into parts whose ampersands
  all begin references just if its own do.
* `IsWhole`: a text that begins no reference for a later text to end. `AmpersandsBegin.isWhole`: the
  texts whose ampersands begin references are whole.
-/

namespace BlockTree.Entity

/-! ### References -/

/-- A reference ends at its only semicolon. -/
lemma IsReference.exists_concat {reference : Text} (h : IsReference reference) :
    ∃ front, reference = front ++ [';'] ∧ ';' ∉ front := by
  obtain ⟨mark, name, rfl, hmark, -, hname⟩ := h
  refine ⟨'&' :: (mark ++ name), rfl, ?_⟩
  have hsemicolon : ';' ∉ name := fun hmem => absurd (hname ';' hmem) (by decide +kernel)
  rcases hmark with rfl | rfl <;> simp [hsemicolon]

/-- **No reference begins with another one**. -/
lemma IsReference.eq_of_isPrefix {reference other : Text} (h : IsReference reference)
    (hother : IsReference other) (hbegins : reference <+: other) : reference = other := by
  obtain ⟨front, rfl, -⟩ := h.exists_concat
  obtain ⟨back, rfl, hback⟩ := hother.exists_concat
  rcases List.prefix_concat_iff.mp hbegins with heq | hshorter
  · exact heq
  · exact absurd (hshorter.mem (List.mem_append_right _ List.mem_cons_self)) hback

/-- What can stand in a reference. -/
lemma IsReference.mem {reference : Text} (h : IsReference reference) {c : Char}
    (hc : c ∈ reference) : c = '&' ∨ c = '#' ∨ c = ';' ∨ Text.isWord c = true := by
  obtain ⟨mark, name, rfl, hmark, -, hname⟩ := h
  have hcases : c = '&' ∨ c = '#' ∨ c ∈ name ∨ c = ';' := by
    rcases hmark with rfl | rfl <;> simp at hc <;> tauto
  rcases hcases with h | h | h | h
  · exact Or.inl h
  · exact Or.inr (Or.inl h)
  · exact Or.inr (Or.inr (Or.inr (hname c h)))
  · exact Or.inr (Or.inr (Or.inl h))

lemma IsReference.exists_cons_of_append {start stop : Text} (h : IsReference (start ++ stop))
    (hstart : start ≠ []) : ∃ name, start = '&' :: name := by
  obtain ⟨name, hname, -⟩ := h.exists_cons
  obtain ⟨c, start, rfl⟩ := List.exists_cons_of_ne_nil hstart
  exact ⟨start, by rw [(List.cons.inj hname).1]⟩

lemma IsReference.semicolon_mem_of_append {start stop : Text} (h : IsReference (start ++ stop))
    (hstop : stop ≠ []) : ';' ∈ stop := by
  obtain ⟨front, hfront, -⟩ := h.exists_concat
  have hlast : (start ++ stop).getLast? = some ';' := by rw [hfront, List.getLast?_concat]
  rw [List.getLast?_append_of_ne_nil _ hstop] at hlast
  exact List.mem_of_getLast? hlast

lemma IsReference.lt_notMem {reference : Text} (h : IsReference reference) : '<' ∉ reference :=
  fun hmem => absurd (h.mem hmem) (by decide +kernel)

/-- A reference is what an ampersand that stays begins, up to the first semicolon. -/
lemma isReference_iff {reference : Text} :
    IsReference reference
      ↔ reference.head? = some '&' ∧ continuesReference reference.tail = true
          ∧ ';' ∉ reference.dropLast := by
  constructor
  · intro h
    obtain ⟨name, rfl, -⟩ := h.exists_cons
    obtain ⟨front, hfront, hsemicolon⟩ := h.exists_concat
    refine ⟨rfl, continuesReference_iff.mpr ⟨_, h, List.prefix_rfl⟩, ?_⟩
    rwa [hfront, List.dropLast_concat]
  · rintro ⟨hhead, hcontinues, hsemicolon⟩
    obtain ⟨other, hother, hbegins⟩ := continuesReference_iff.mp hcontinues
    rw [List.cons_head?_tail hhead] at hbegins
    obtain ⟨front, rfl, -⟩ := hother.exists_concat
    obtain ⟨back, rfl⟩ := hbegins
    cases back with
    | nil => rwa [List.append_nil]
    | cons c back =>
        rw [List.dropLast_append_of_ne_nil (List.cons_ne_nil c back)] at hsemicolon
        exact absurd (List.mem_append_left _ (List.mem_append_right _ List.mem_cons_self))
          hsemicolon

instance decidableIsReference : DecidablePred IsReference := fun _ =>
  decidable_of_iff _ isReference_iff.symm

lemma ampersandsBegin_cons_iff {c : Char} {rest : Text} :
    AmpersandsBegin IsReference (c :: rest)
      ↔ (c = '&' → continuesReference rest = true) ∧ AmpersandsBegin IsReference rest := by
  refine ⟨fun h => ⟨?_, h.tail⟩, fun ⟨hc, hrest⟩ => ?_⟩
  · rintro rfl
    exact continuesReference_iff.mpr (h [] rest rfl)
  · by_cases hamp : c = '&'
    · obtain ⟨reference, href, hstart⟩ := continuesReference_iff.mp (hc hamp)
      subst hamp
      exact hrest.cons_of_reference href hstart
    · exact hrest.cons_of_ne hamp

instance decidableAmpersandsBegin : DecidablePred (AmpersandsBegin IsReference)
  | [] => isTrue .nil
  | _ :: rest =>
    have := decidableAmpersandsBegin rest
    decidable_of_iff _ ampersandsBegin_cons_iff.symm

/-! ### Underscores -/

/-- The name of the reference **begins or ends with an underscore**. -/
def HasOuterUnderscore (reference : Text) : Prop :=
  "&_" <+: reference ∨ "&#_" <+: reference ∨ "_;" <:+ reference

instance decidableHasOuterUnderscore : DecidablePred HasOuterUnderscore := fun _ =>
  inferInstanceAs (Decidable (_ ∨ _ ∨ _))

/-- An underscore in a reference stands in its name. -/
lemma IsReference.exists_name {start rest : Text} (h : IsReference (start ++ '_' :: rest)) :
    ∃ lead part name, start = lead ++ part ∧ part ++ '_' :: rest = name ++ [';']
      ∧ (lead = "&" ∨ lead = "&#") ∧ ∀ c ∈ name, Text.isWord c = true := by
  obtain ⟨mark, name, hreference, hmark, -, hname⟩ := h
  have hlead : '_' ∉ '&' :: mark := by rcases hmark with rfl | rfl <;> decide
  have hcases : '&' :: mark = "&" ∨ '&' :: mark = "&#" := by
    rcases hmark with rfl | rfl
    · exact Or.inl rfl
    · exact Or.inr rfl
  rw [List.append_assoc, ← List.cons_append] at hreference
  rcases List.append_eq_append_iff.mp hreference with ⟨more, hmore, hrest⟩ | ⟨part, rfl, hpart⟩
  · cases more with
    | nil =>
        rw [List.append_nil] at hmore
        exact ⟨'&' :: mark, [], name, by rw [hmore, List.append_nil], hrest, hcases, hname⟩
    | cons c more =>
        rw [hmore, (List.cons.inj hrest).1] at hlead
        exact absurd (List.mem_append_right _ List.mem_cons_self) hlead
  · exact ⟨'&' :: mark, part, name, rfl, hpart.symm, hcases, hname⟩

lemma mem_of_append_eq_concat {front rest text : Text} {c d e : Char}
    (h : front ++ c :: d :: rest = text ++ [e]) : c ∈ text := by
  have hdrop := congrArg List.dropLast h
  rw [List.dropLast_concat, List.dropLast_append_of_ne_nil (List.cons_ne_nil _ _),
    List.dropLast_cons_cons] at hdrop
  rw [← hdrop]
  exact List.mem_append_right _ List.mem_cons_self

/-- An underscore that touches no word on its left is the first character of the name. -/
lemma IsReference.hasOuterUnderscore_of_left {start rest : Text}
    (h : IsReference (start ++ '_' :: rest))
    (hleft : ∀ c ∈ start.getLast?, Text.isWord c = false) :
    HasOuterUnderscore (start ++ '_' :: rest) := by
  obtain ⟨lead, part, name, rfl, hpart, hlead, hname⟩ := h.exists_name
  rcases List.eq_nil_or_concat part with rfl | ⟨front, c, rfl⟩
  · rw [List.append_nil]
    rcases hlead with rfl | rfl
    · exact Or.inl ⟨rest, rfl⟩
    · exact Or.inr (Or.inl ⟨rest, rfl⟩)
  · rw [List.concat_eq_append] at hleft hpart
    rw [List.append_assoc, List.singleton_append] at hpart
    rw [← List.append_assoc, List.getLast?_concat] at hleft
    cases (hname c (mem_of_append_eq_concat hpart)).symm.trans (hleft c rfl)

/-- An underscore that touches no word on its right is the last character of the name. -/
lemma IsReference.hasOuterUnderscore_of_right {start rest : Text} {c : Char}
    (h : IsReference (start ++ '_' :: c :: rest)) (hc : Text.isWord c = false) :
    HasOuterUnderscore (start ++ '_' :: c :: rest) := by
  obtain ⟨lead, part, name, rfl, hpart, -, hname⟩ := h.exists_name
  rw [List.append_cons] at hpart
  cases rest with
  | nil =>
      obtain ⟨-, hend⟩ := List.append_inj' hpart rfl
      obtain rfl : c = ';' := (List.cons.inj hend).1
      exact Or.inr (Or.inr (List.suffix_append _ _))
  | cons d rest => cases (hname c (mem_of_append_eq_concat hpart)).symm.trans hc

/-- A mark of underscores in a reference, which touches no word on its right, ends the name. -/
lemma IsReference.hasOuterUnderscore_of_mark {start stop mark after : Text}
    (h : IsReference (start ++ stop)) (hstop : stop ≠ []) (hbegins : stop <+: mark ++ after)
    (hmark : mark ≠ []) (hunderscores : ∀ c ∈ mark, c = '_')
    (hright : ∀ c ∈ after.head?, Text.isWord c = false) : HasOuterUnderscore (start ++ stop) := by
  -- The reference goes on behind the mark, as it ends in a semicolon.
  have hsemicolon : ';' ∉ mark := fun hmem => absurd (hunderscores ';' hmem) (by decide)
  have hend := h.semicolon_mem_of_append hstop
  rcases List.prefix_or_prefix_of_prefix hbegins (List.prefix_append mark after) with
    hshorter | ⟨behind, rfl⟩
  · exact absurd (hshorter.mem hend) hsemicolon
  · obtain ⟨later, rfl⟩ := (List.prefix_append_right_inj mark).mp hbegins
    cases behind with
    | nil =>
        rw [List.append_nil] at hend
        exact absurd hend hsemicolon
    | cons c behind =>
        rcases List.eq_nil_or_concat mark with rfl | ⟨front, last, rfl⟩
        · exact absurd rfl hmark
        · obtain rfl : last = '_' := hunderscores last (by simp)
          have hsource : start ++ (front.concat '_' ++ c :: behind)
              = start ++ front ++ '_' :: c :: behind := by simp
          rw [hsource] at h ⊢
          exact h.hasOuterUnderscore_of_right (hright c rfl)

/-! ### Cuts -/

/-- **A cut goes through a reference** that begins in front of it and ends behind it. -/
def CutsReference (front back : Text) : Prop :=
  ∃ start, start <:+ front ∧ start ≠ [] ∧ ∃ stop, stop <+: back ∧ stop ≠ []
    ∧ IsReference (start ++ stop)

instance decidableCutsReference (front back : Text) : Decidable (CutsReference front back) :=
  decidable_of_iff (∃ start ∈ front.tails, start ≠ [] ∧ ∃ stop ∈ back.inits, stop ≠ []
    ∧ IsReference (start ++ stop)) (by simp only [CutsReference, List.mem_tails, List.mem_inits])

/-- A text begins no reference that a later text ends. -/
def IsWhole (text : Text) : Prop :=
  ∀ back, ¬ CutsReference text back

section

variable {P : Text → Prop} (hP : ∀ reference, P reference → IsReference reference)
  {front back : Text}

namespace AmpersandsBegin

lemma append (hfront : AmpersandsBegin P front) (hback : AmpersandsBegin P back) :
    AmpersandsBegin P (front ++ back) := by
  induction front with
  | nil => exact hback
  | cons c front ih =>
      by_cases hc : c = '&'
      · subst hc
        obtain ⟨reference, href, hstart⟩ := hfront [] front rfl
        exact (ih hfront.tail).cons_of_reference href
          (hstart.trans (List.prefix_append ('&' :: front) back))
      · exact (ih hfront.tail).cons_of_ne hc

lemma of_append (h : AmpersandsBegin P (front ++ back)) : AmpersandsBegin P back :=
  fun before after htext => h (front ++ before) after (by rw [htext, List.append_assoc])

lemma of_notMem (h : '&' ∉ front) : AmpersandsBegin P front := by
  have hfront : AmpersandsBegin P (front ++ []) := nil.append_of_notMem h
  rwa [List.append_nil] at hfront

include hP in
/-- A text whose ampersands all begin references leaves none of them unfinished. -/
lemma isWhole (h : AmpersandsBegin P front) : IsWhole front := by
  rintro back ⟨start, ⟨before, rfl⟩, hstart, stop, -, hstop, href⟩
  obtain ⟨name, rfl⟩ := href.exists_cons_of_append hstart
  obtain ⟨other, hother, hbegins⟩ := h before name rfl
  have hlonger := hbegins.trans (List.prefix_append ('&' :: name) stop)
  rw [(hP other hother).eq_of_isPrefix href hlonger] at hbegins
  have hlength := hbegins.length_le
  rw [List.length_append] at hlength
  exact hstop (List.eq_nil_of_length_eq_zero (by omega))

include hP in
/-- The reference that a cut goes through is one of those that the ampersands begin. -/
lemma exists_cut (h : AmpersandsBegin P (front ++ back)) (hcut : CutsReference front back) :
    ∃ start stop, start <:+ front ∧ start ≠ [] ∧ stop <+: back ∧ stop ≠ []
      ∧ P (start ++ stop) := by
  obtain ⟨start, ⟨before, rfl⟩, hstart, stop, ⟨rest, rfl⟩, hstop, href⟩ := hcut
  obtain ⟨name, rfl⟩ := href.exists_cons_of_append hstart
  obtain ⟨other, hother, hbegins⟩ := h before (name ++ (stop ++ rest)) (by simp)
  refine ⟨'&' :: name, stop, List.suffix_append before _, hstart, List.prefix_append stop rest,
    hstop, ?_⟩
  have hwhole : '&' :: name ++ stop <+: '&' :: (name ++ (stop ++ rest)) := ⟨rest, by simp⟩
  rcases List.prefix_or_prefix_of_prefix hwhole hbegins with hle | hle
  · rwa [href.eq_of_isPrefix (hP other hother) hle]
  · rwa [← (hP other hother).eq_of_isPrefix href hle]

end AmpersandsBegin

include hP in
/-- **Cut in two**: the ampersands of both parts begin references just if those of the whole text do
and the cut goes through none of them. -/
lemma ampersandsBegin_append_iff :
    AmpersandsBegin P (front ++ back) ∧ ¬ CutsReference front back
      ↔ AmpersandsBegin P front ∧ AmpersandsBegin P back := by
  refine ⟨fun ⟨h, hcut⟩ => ⟨?_, h.of_append⟩, fun ⟨hfront, hback⟩ =>
    ⟨hfront.append hback, hfront.isWhole hP back⟩⟩
  rintro before after rfl
  rw [List.append_assoc, List.cons_append] at h
  obtain ⟨reference, href, rest, hrest⟩ := h before (after ++ back) rfl
  rw [← List.cons_append] at hrest
  rcases List.append_eq_append_iff.mp hrest with ⟨more, hmore, -⟩ | ⟨stop, rfl, hback⟩
  · exact ⟨reference, href, more, hmore.symm⟩
  · cases stop with
    | nil => exact ⟨_, href, by rw [List.append_nil]⟩
    | cons c stop =>
        exact absurd ⟨'&' :: after, List.suffix_append _ _, List.cons_ne_nil _ _, c :: stop,
          ⟨rest, hback.symm⟩, List.cons_ne_nil _ _, hP _ href⟩ hcut

include hP in
lemma IsWhole.ampersandsBegin_append_iff (h : IsWhole front) :
    AmpersandsBegin P (front ++ back) ↔ AmpersandsBegin P front ∧ AmpersandsBegin P back := by
  rw [← Entity.ampersandsBegin_append_iff hP]
  exact (and_iff_left (h back)).symm

end

/-! ### Whole texts -/

lemma isWhole_of_notMem {text : Text} (h : '&' ∉ text) : IsWhole text := by
  rintro back ⟨start, hsuffix, hstart, stop, -, -, href⟩
  obtain ⟨name, rfl⟩ := href.exists_cons_of_append hstart
  exact h (hsuffix.mem List.mem_cons_self)

/-- Whole text in front has no part in the references that are cut. -/
lemma IsWhole.cutsReference_append_iff {done front back : Text} (h : IsWhole done) :
    CutsReference (done ++ front) back ↔ CutsReference front back := by
  constructor
  · rintro ⟨start, hsuffix, hstart, stop, hbegins, hstop, href⟩
    rcases List.suffix_or_suffix_of_suffix hsuffix (List.suffix_append done front) with
      hshorter | ⟨part, rfl⟩
    · exact ⟨start, hshorter, hstart, stop, hbegins, hstop, href⟩
    · obtain rfl | hpart := eq_or_ne part []
      · exact ⟨front, List.suffix_rfl, hstart, stop, hbegins, hstop, href⟩
      · -- The reference begins in the whole text and goes on through all that is behind it.
        obtain ⟨before, hbefore⟩ := hsuffix
        rw [← List.append_assoc] at hbefore
        rw [List.append_assoc] at href
        exact absurd ⟨part, ⟨before, List.append_cancel_right hbefore⟩, hpart, front ++ stop,
          List.prefix_rfl, List.append_ne_nil_of_right_ne_nil front hstop, href⟩ (h (front ++ stop))
  · rintro ⟨start, hsuffix, hrest⟩
    exact ⟨start, hsuffix.trans (List.suffix_append done front), hrest⟩

lemma IsWhole.append {front back : Text} (hfront : IsWhole front) (hback : IsWhole back) :
    IsWhole (front ++ back) :=
  fun rest hcut => hback rest (hfront.cutsReference_append_iff.mp hcut)

lemma IsWhole.of_append {front back : Text} (h : IsWhole (front ++ back)) : IsWhole back :=
  fun rest ⟨start, hsuffix, hrest⟩ =>
    h rest ⟨start, hsuffix.trans (List.suffix_append front back), hrest⟩

/-- No reference goes over a `<`. -/
lemma IsWhole.append_lt {back : Text} (h : IsWhole back) (front : Text) :
    IsWhole (front ++ '<' :: back) := by
  rintro rest ⟨start, hsuffix, hstart, stop, hbegins, hstop, href⟩
  have hlt : '<' ∉ start := fun hmem => href.lt_notMem (List.mem_append_left _ hmem)
  rcases List.suffix_or_suffix_of_suffix hsuffix (List.suffix_append front ('<' :: back)) with
    hshorter | hlonger
  · rcases List.suffix_cons_iff.mp hshorter with rfl | hshorter
    · exact hlt List.mem_cons_self
    · exact h rest ⟨start, hshorter, hstart, stop, hbegins, hstop, href⟩
  · exact hlt (hlonger.mem List.mem_cons_self)

lemma not_cutsReference_lt (front back : Text) : ¬ CutsReference front ('<' :: back) := by
  rintro ⟨start, -, -, stop, hbegins, hstop, href⟩
  obtain ⟨c, stop, rfl⟩ := List.exists_cons_of_ne_nil hstop
  obtain ⟨rfl, -⟩ := List.cons_prefix_cons.mp hbegins
  exact href.lt_notMem (List.mem_append_right _ List.mem_cons_self)

end BlockTree.Entity
