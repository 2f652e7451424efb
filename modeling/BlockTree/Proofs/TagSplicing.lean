import BlockTree.Proofs.AttributeReadback
import BlockTree.Proofs.MergedAttributes

/-!
Attributes spliced into markup, whatever the markup.

* `EndsTag`: the point in front of the first `>` of a markup, the slash directly in front of it and
  the white space in front of those; `exists_endsTag` finds it.
* `insertAtTagEnd_of_endsTag`: what is inserted goes there; `insertAtTagEnd_of_notMem`: without a
  `>` nothing is inserted.
* `EndsTag.append`: behind attributes without `>` that were inserted, the point is found again.
* `splice_tagEnd`: so splicing changes nothing else, and attributes that are spliced in one after
  the other stand there as if they were one list.
-/

namespace BlockTree.Attributes

/-! ### The end of the first tag -/

/-- **The end of the first tag**: what stands in front of the first `>` of a markup is `front` and
then `blanks` and `slash`, which are the slash directly in front of the `>`, if there is one, and
the whole run of white space in front of that. -/
structure EndsTag (front blanks slash : Text) : Prop where
  close_notMem : '>' ∉ front ++ blanks ++ slash
  slash_cases : slash = ['/'] ∨ slash = [] ∧ (front ++ blanks).getLast? ≠ some '/'
  isGap : IsGap blanks
  not_isBlank : ∀ c ∈ front.getLast?, Text.isBlank c = false

lemma getLast?_trimEnd {p : Char → Bool} {text : Text} :
    ∀ c ∈ (Text.trimEnd p text).getLast?, p c = false := by
  intro c hc
  rw [Text.trimEnd, List.getLast?_reverse] at hc
  have hhead := List.head?_dropWhile_not p text.reverse
  rw [Option.mem_def.mp hc] at hhead
  exact hhead

/-- Every text without `>` has its end of a tag. -/
lemma exists_endsTag {text : Text} (h : '>' ∉ text) :
    ∃ front blanks slash, text = front ++ blanks ++ slash ∧ EndsTag front blanks slash := by
  obtain ⟨body, slash, rfl, hslash⟩ : ∃ body slash, text = body ++ slash
      ∧ (slash = ['/'] ∨ slash = [] ∧ body.getLast? ≠ some '/') := by
    by_cases hlast : text.getLast? = some '/'
    · obtain ⟨body, hbody⟩ := List.getLast?_eq_some_iff.mp hlast
      exact ⟨body, ['/'], hbody, Or.inl rfl⟩
    · exact ⟨text, [], (List.append_nil _).symm, Or.inr ⟨rfl, hlast⟩⟩
  obtain ⟨blanks, hbody, hblanks⟩ := Text.exists_trimEnd Text.isBlank body
  refine ⟨Text.trimEnd Text.isBlank body, blanks, slash, by rw [← hbody], ?_, ?_, hblanks,
    getLast?_trimEnd⟩
  · rwa [← hbody]
  · rwa [← hbody]

namespace EndsTag

variable {front blanks slash : Text}

lemma tail {c : Char} (h : EndsTag (c :: front) blanks slash) : EndsTag front blanks slash := by
  refine ⟨fun hmem => h.close_notMem (List.mem_cons_of_mem c hmem), ?_, h.isGap, fun d hd => ?_⟩
  · refine h.slash_cases.imp_right fun hslash => ⟨hslash.1, fun heq => hslash.2 ?_⟩
    rw [List.cons_append, List.getLast?_cons, heq]
    rfl
  · refine h.not_isBlank d ?_
    rw [List.getLast?_cons, Option.mem_def.mp hd]
    rfl

/-- The point is the end of a tag. -/
lemma atTagEnd_end (h : EndsTag front blanks slash) (rest : Text) :
    atTagEnd (blanks ++ (slash ++ '>' :: rest)) = true := by
  rw [atTagEnd]
  rcases h.slash_cases with rfl | ⟨rfl, -⟩
  · have hdrop : (blanks ++ '/' :: '>' :: rest).dropWhile Text.isBlank = '/' :: '>' :: rest :=
      Text.dropWhile_run h.isGap (by decide) _
    rw [List.singleton_append, hdrop]
    rfl
  · have hdrop : (blanks ++ '>' :: rest).dropWhile Text.isBlank = '>' :: rest :=
      Text.dropWhile_run h.isGap (by decide) _
    rw [List.nil_append, hdrop]
    rfl

/-- No tag ends further in front. -/
lemma atTagEnd_front (h : EndsTag front blanks slash) (hne : front ≠ []) (rest : Text) :
    atTagEnd (front ++ (blanks ++ (slash ++ '>' :: rest))) = false := by
  obtain ⟨hfront, -⟩ : '>' ∉ front ∧ '>' ∉ blanks ++ slash := by
    have hclose := h.close_notMem
    rwa [List.append_assoc, List.mem_append, not_or] at hclose
  rcases Text.run_cases Text.isBlank front with hall | ⟨run, d, after, rfl, hrun, hd⟩
  · have hlast := h.not_isBlank _ (List.getLast?_eq_some_getLast hne)
    rw [hall _ (List.getLast_mem hne)] at hlast
    cases hlast
  · rw [atTagEnd, List.append_assoc, List.cons_append, Text.dropWhile_run hrun hd]
    split
    · rename_i heq
      rw [(List.cons.inj heq).1] at hfront
      exact absurd (List.mem_append_right _ List.mem_cons_self) hfront
    · -- A slash that ends a tag would stand directly in front of the first `>`.
      rename_i heq
      obtain ⟨rfl, hnext⟩ := List.cons.inj heq
      exfalso
      cases after with
      | cons e after =>
          rw [(List.cons.inj hnext).1] at hfront
          exact hfront (List.mem_append_right _ (List.mem_cons_of_mem _ List.mem_cons_self))
      | nil =>
          cases blanks with
          | cons b blanks =>
              have hblank := h.isGap b List.mem_cons_self
              rw [(List.cons.inj hnext).1] at hblank
              exact absurd hblank (by decide)
          | nil =>
              rcases h.slash_cases with rfl | ⟨rfl, hlast⟩
              · exact absurd (List.cons.inj hnext).1 (by decide)
              · rw [List.append_nil, List.getLast?_concat] at hlast
                exact hlast rfl
    · rfl

/-- **The point is found again** behind a text without `>` that ends in a quotation mark. -/
lemma append (h : EndsTag front blanks slash) {inserted : Text} (hclose : '>' ∉ inserted)
    (hlast : inserted.getLast? = some '"') : EndsTag (front ++ inserted) blanks slash := by
  have hend : ∀ c ∈ (front ++ inserted).getLast?, c = '"' := by
    intro c hc
    rw [List.getLast?_append, hlast, Option.some_or, Option.mem_some] at hc
    exact hc.symm
  refine ⟨?_, h.slash_cases.imp_right fun hslash => ⟨hslash.1, fun heq => ?_⟩, h.isGap,
    fun c hc => ?_⟩
  · have hnotMem := h.close_notMem
    simp only [List.mem_append, not_or] at hnotMem ⊢
    exact ⟨⟨⟨hnotMem.1.1, hclose⟩, hnotMem.1.2⟩, hnotMem.2⟩
  · rw [List.getLast?_append, Option.or_eq_some_iff] at heq
    rcases heq with heq | ⟨-, heq⟩
    · exact absurd (h.isGap _ (List.mem_of_getLast? heq)) (by decide)
    · exact absurd (hend _ heq) (by decide)
  · rw [hend c hc]
    decide

end EndsTag

/-! ### Insertion -/

/-- What is inserted goes in front of the end of the first tag. -/
lemma insertAtTagEnd_of_endsTag {front blanks slash : Text} (h : EndsTag front blanks slash)
    (inserted rest : Text) :
    insertAtTagEnd inserted (front ++ (blanks ++ (slash ++ '>' :: rest)))
      = front ++ (inserted ++ (blanks ++ (slash ++ '>' :: rest))) := by
  induction front with
  | nil => exact insertAtTagEnd_append (List.forall_mem_nil _) (h.atTagEnd_end rest) inserted
  | cons c front ih =>
      have hnot := h.atTagEnd_front (List.cons_ne_nil c front) rest
      rw [List.cons_append] at hnot ⊢
      rw [insertAtTagEnd, hnot, if_neg Bool.false_ne_true, ih h.tail, List.cons_append]

lemma close_mem_of_atTagEnd {text : Text} (h : atTagEnd text = true) : '>' ∈ text := by
  rw [atTagEnd] at h
  split at h
  · rename_i rest heq
    exact (List.dropWhile_suffix _).subset (heq ▸ List.mem_cons_self)
  · rename_i rest heq
    exact (List.dropWhile_suffix _).subset (heq ▸ List.mem_cons_of_mem _ List.mem_cons_self)
  · cases h

lemma insertAtTagEnd_of_notMem {markup : Text} (h : '>' ∉ markup) (inserted : Text) :
    insertAtTagEnd inserted markup = markup := by
  induction markup with
  | nil => rfl
  | cons c rest ih =>
      rw [insertAtTagEnd, if_neg (mt close_mem_of_atTagEnd h),
        ih fun hmem => h (List.mem_cons_of_mem c hmem)]

/-! ### Splicing -/

lemma splice_nil (markup : Text) : splice [] markup = markup := rfl

lemma splice_of_notMem {markup : Text} (h : '>' ∉ markup) (serialized : Text) :
    splice serialized markup = markup := by
  rw [splice]
  split
  · rfl
  · exact insertAtTagEnd_of_notMem h _

lemma splice_of_endsTag {front blanks slash : Text} (h : EndsTag front blanks slash)
    {serialized : Text} (hne : serialized ≠ []) (rest : Text) :
    splice serialized (front ++ (blanks ++ (slash ++ '>' :: rest)))
      = front ++ ' ' :: serialized ++ (blanks ++ (slash ++ '>' :: rest)) := by
  rw [splice, if_neg (by simpa using hne), insertAtTagEnd_of_endsTag h, List.append_assoc]

/-- Attributes are written one list behind the other. -/
lemma serialize_append {first second : Attributes} (hfirst : first ≠ []) (hsecond : second ≠ []) :
    serialize (first ++ second) = serialize first ++ ' ' :: serialize second := by
  induction first with
  | nil => exact absurd rfl hfirst
  | cons entry rest ih =>
      rw [List.cons_append, serialize_cons, serialize_cons, List.append_assoc]
      cases rest with
      | nil => rw [List.nil_append, if_neg (by simpa using hsecond), List.isEmpty_nil, if_pos rfl,
          List.nil_append]
      | cons next rest => rw [ih (List.cons_ne_nil _ _)]; rfl

lemma close_notMem_serialize {attributes : Attributes}
    (h : ∀ entry ∈ attributes, '>' ∉ entry.1 ∧ ∀ value ∈ entry.2, '>' ∉ value) :
    '>' ∉ serialize attributes := by
  have hmarks : ∀ c ∈ " =\"".toList, c ≠ '>' := by decide
  refine List.forall_mem_ne'.mp ((forall_mem_serialize hmarks).mpr fun entry hentry => ?_)
  obtain ⟨hname, hvalues⟩ := h entry hentry
  exact ⟨List.forall_mem_ne'.mpr hname, fun value hvalue =>
    List.forall_mem_ne'.mpr (hvalues value hvalue)⟩

/-- Attributes without `>` that are spliced in first stand in front of those that come second. -/
lemma splice_splice {first : Attributes}
    (h : ∀ entry ∈ first, '>' ∉ entry.1 ∧ ∀ value ∈ entry.2, '>' ∉ value) (second : Attributes)
    (markup : Text) :
    splice (serialize second) (splice (serialize first) markup)
      = splice (serialize (first ++ second)) markup := by
  by_cases hclose : '>' ∈ markup
  · obtain ⟨before, rest, rfl, hbefore⟩ := List.eq_append_cons_of_mem hclose
    obtain ⟨front, blanks, slash, rfl, hends⟩ := exists_endsTag hbefore
    cases first with
    | nil => rfl
    | cons entry first =>
        cases second with
        | nil => rw [List.append_nil]; rfl
        | cons other second =>
            have hlast := getLast?_serialize entry first
            have hne : ∀ entry rest, serialize (entry :: rest) ≠ [] := by
              intro entry rest hnil
              have hsome := getLast?_serialize entry rest
              rw [hnil] at hsome
              cases hsome
            have hinserted : (' ' :: serialize (entry :: first)).getLast? = some '"' := by
              rw [List.getLast?_cons, hlast]
              rfl
            have hplain : '>' ∉ ' ' :: serialize (entry :: first) :=
              List.not_mem_cons_of_ne_of_not_mem (by decide) (close_notMem_serialize h)
            have hagain : EndsTag (front ++ ' ' :: serialize (entry :: first)) blanks slash :=
              hends.append hplain hinserted
            have happend : serialize (entry :: first ++ other :: second)
                = serialize (entry :: first) ++ ' ' :: serialize (other :: second) :=
              serialize_append (List.cons_ne_nil _ _) (List.cons_ne_nil _ _)
            rw [List.append_assoc, List.append_assoc, splice_of_endsTag hends (hne _ _),
              splice_of_endsTag hagain (hne _ _), happend,
              splice_of_endsTag hends (List.append_ne_nil_of_left_ne_nil (hne _ _) _)]
            simp only [List.append_assoc, List.cons_append]
  · rw [splice_of_notMem hclose, splice_of_notMem hclose, splice_of_notMem hclose]

/-- **Splicing into any markup.** An empty serialization, and a markup without `>`, change nothing.
Otherwise the serialization is inserted as it stands, behind a blank, and nothing else changes; the
point is the same for all serializations: in front of the first `>` of the markup, a slash directly
in front of it and the white space in front of those. Attributes without `>` that are spliced in
and then others give what both give as one list, which is the merged one if their names are
different. -/
theorem splice_tagEnd (markup : Text) :
    (∀ serialized, serialized = [] ∨ '>' ∉ markup → splice serialized markup = markup)
    ∧ ('>' ∈ markup → ∃ front blanks slash rest,
        markup = front ++ (blanks ++ (slash ++ '>' :: rest)) ∧ EndsTag front blanks slash
        ∧ ∀ serialized, serialized ≠ [] →
            splice serialized markup
              = front ++ ' ' :: serialized ++ (blanks ++ (slash ++ '>' :: rest)))
    ∧ ∀ first second : Attributes,
        (∀ entry ∈ first, '>' ∉ entry.1 ∧ ∀ value ∈ entry.2, '>' ∉ value) →
        splice (serialize second) (splice (serialize first) markup)
            = splice (serialize (first ++ second)) markup
          ∧ ((first ++ second).names.Nodup → first ++ second = merge first second) := by
  refine ⟨fun serialized h => ?_, fun hclose => ?_, fun first second hfirst =>
    ⟨splice_splice hfirst second markup, fun hnodup => (Entries.insertAll_of_nodup hnodup).symm⟩⟩
  · rcases h with rfl | h
    · exact splice_nil markup
    · exact splice_of_notMem h serialized
  · obtain ⟨before, rest, rfl, hbefore⟩ := List.eq_append_cons_of_mem hclose
    obtain ⟨front, blanks, slash, rfl, hends⟩ := exists_endsTag hbefore
    rw [List.append_assoc, List.append_assoc]
    exact ⟨front, blanks, slash, rest, rfl, hends, fun serialized hne =>
      splice_of_endsTag hends hne rest⟩

/-- A slash and white space behind the name are no end of a tag yet; what is spliced in second may
hold the ends of other tags. A text without tags takes nothing. -/
theorem splice_tagEnd_slashes :
    splice "k=\"v\"" "1 / 2" = "1 / 2"
    ∧ (∃ front blanks slash rest,
      "<img / /><p>".toList = front ++ (blanks ++ (slash ++ '>' :: rest))
      ∧ EndsTag front blanks slash
      ∧ "<img / k=\"v\" /><p>" = front ++ ' ' :: "k=\"v\"" ++ (blanks ++ (slash ++ '>' :: rest)))
    ∧ splice (serialize [("b", ["/><"])]) (splice (serialize [("k", ["1", "2"])]) "<img / /><p>")
      = "<img / k=\"1 2\" b=\"/><\" /><p>" := by
  obtain ⟨-, hends, hlists⟩ := splice_tagEnd "<img / /><p>"
  have hplain : ∀ entry ∈ ([("k", ["1", "2"])] : Attributes),
      '>' ∉ entry.1 ∧ ∀ value ∈ entry.2, '>' ∉ value := by
    decide
  have hspliced : splice "k=\"v\"" "<img / /><p>" = "<img / k=\"v\" /><p>" := by decide
  refine ⟨(splice_tagEnd "1 / 2").1 _ (Or.inr (by decide)), ?_, ?_⟩
  · obtain ⟨front, blanks, slash, rest, hmarkup, hpoint, hsplice⟩ := hends (by decide)
    exact ⟨front, blanks, slash, rest, hmarkup, hpoint, hspliced.symm.trans (hsplice _ (by decide))⟩
  · exact (hlists _ [("b", ["/><"])] hplain).1.trans (by decide)

end BlockTree.Attributes
