import BlockTree.CommandLine.Run
import BlockTree.Proofs.Decoding

/-!
Texts that cannot be decoded, and what the user is told about them.

* `parts_ind`: induction along the way of the decoder, up to the first reference that it cannot
  decode.
* `unescapeFrom_append`, `exists_stop`: decoding fails at a reference behind a text that is decoded,
  and only there.
* `unescape_eq_tooLong_iff`: the fault that no caller expects is that of a decimal numeral with too
  many digits.
* `isAnswered_iff_not_stopsAtLongNumeral`: every other text is decoded, or refused with a message.
-/

namespace BlockTree.Entity

/-! ### The decoder's way through a text -/

lemma eq_nil_of_lead {text : Text} (h : lead text = .finish) : text = [] := by
  unfold lead at h
  repeat' split at h
  all_goals simp_all

lemma eq_mark_of_lead {text rest : Text} {base : Base} (h : lead text = .numeric base rest) :
    text = base.mark ++ rest ∧ base.MarkEnds rest := by
  unfold lead at h
  split at h
  · cases h
  · split at h
    · rename_i hmark
      cases h
      exact ⟨Text.after?_eq_some.mp hmark, nofun⟩
    · rename_i hmark
      split at h
      · rename_i hnumber
        cases h
        refine ⟨Text.after?_eq_some.mp hnumber, fun _ hhead => ?_⟩
        rw [Option.eq_none_iff_forall_ne_some] at hmark
        refine hmark rest.tail (Text.after?_eq_some.mpr ?_)
        rw [Text.after?_eq_some.mp hnumber, ← List.cons_head?_tail hhead]
        rfl
      · split at h <;> cases h

/-- **What a part is read as** in front of a text: a character, also if the text is cut short or an
ampersand follows it. -/
def ReadsBefore (part : Text) (c : Char) (after : Text) : Prop :=
  ∀ offset rest, rest <+: after ∨ after ++ ['&'] <+: rest →
    unescapeFrom offset (part ++ rest)
      = (unescapeFrom (offset + part.length) rest).map (c :: ·)

lemma ReadsAs.readsBefore {part : Text} {c : Char} (h : ReadsAs part [c]) (after : Text) :
    ReadsBefore part c after :=
  fun offset rest _ => h offset rest

/-- A reference holds no second ampersand, so that none begins because one follows the text. -/
lemma prefix_of_prefix_append {reference text rest : Text} (h : '&' ∉ reference.tail)
    (hne : text ≠ []) (hrest : text ++ ['&'] <+: rest) (hstart : reference <+: rest) :
    reference <+: text := by
  rcases List.prefix_or_prefix_of_prefix hstart hrest with hshort | ⟨more, hlong⟩
  · rcases List.prefix_concat_iff.mp hshort with rfl | hinside
    · obtain ⟨c, text, rfl⟩ := List.exists_cons_of_ne_nil hne
      exact absurd (by simp) h
    · exact hinside
  · obtain ⟨c, text, rfl⟩ := List.exists_cons_of_ne_nil hne
    exact absurd (by simp [← hlong]) h

lemma readsBefore_of_plain {c : Char} {after : Text} (h : lead (c :: after) = .plain c after) :
    ReadsBefore [c] c after := by
  intro offset rest hrest
  have hnone : ∀ reference : Text, '&' ∉ reference.tail → ¬ reference <+: c :: after →
      ¬ reference <+: c :: rest := by
    intro reference hamp hnot hstart
    refine hnot ?_
    rcases hrest with hshort | hlong
    · exact hstart.trans (List.cons_prefix_cons.mpr ⟨rfl, hshort⟩)
    · exact prefix_of_prefix_append hamp (List.cons_ne_nil _ _)
        (List.cons_prefix_cons.mpr ⟨rfl, hlong⟩) hstart
  have hcolon : ¬ "&colon;".toList <+: c :: after := by
    rintro ⟨tail, htail⟩
    rw [← htail, lead_colon_append] at h
    cases h
  have hnumber : ¬ "&#".toList <+: c :: after := by
    rintro ⟨tail, htail⟩
    obtain ⟨base, digits, rfl, hends⟩ := exists_sign tail
    rw [← htail, ← List.append_assoc, ← base.mark_eq, lead_mark hends] at h
    cases h
  rw [List.singleton_append, unescapeFrom_eq,
    lead_cons (hnone _ (by decide) hcolon) (hnone _ (by decide) hnumber)]
  rfl

/-- A numeric reference that is decoded somewhere is decoded everywhere. -/
lemma exists_digits_of_decodeNumeric {base : Base} {rest after : Text} {offset : Nat} {c : Char}
    (h : decodeNumeric base rest offset = .ok (c, after)) :
    ∃ digits, rest = digits ++ ';' :: after ∧ ReadsAs (base.reference digits) [c] := by
  rcases decodeNumeric_cases base rest with hnone | ⟨digits, others, rfl, hdigits⟩
  · rw [hnone] at h
    cases h
  · rw [decodeNumeric_append hdigits] at h
    cases hdecode : decodeDigits base digits offset with
    | error fault =>
        rw [hdecode] at h
        cases h
    | ok d =>
        rw [hdecode] at h
        cases h
        obtain ⟨hnumeral, hlength⟩ := decodeDigits_eq_ok_iff.mp hdecode
        exact ⟨digits, rfl, .numeral hnumeral hlength⟩

/-- **Induction along the decoder's way** through a text: over a part that is read as a character,
up to the end or to a reference that cannot be decoded. -/
theorem parts_ind {P : Text → Prop} (nil : P [])
    (read : ∀ part c after, ReadsBefore part c after → P after → P (part ++ after))
    (stop : ∀ base rest, Base.MarkEnds base rest →
      (∀ offset, ∃ fault, decodeNumeric base rest offset = .error fault) → P (base.mark ++ rest))
    (text : Text) : P text := by
  induction hlength : text.length using Nat.strongRecOn generalizing text with
  | ind length ih =>
      subst hlength
      cases hlead : lead text with
      | finish => rw [eq_nil_of_lead hlead]; exact nil
      | colon after =>
          obtain rfl := lead_colon hlead
          exact read _ _ after (ReadsAs.colon.readsBefore after)
            (ih after.length (by simp; omega) after rfl)
      | plain c after =>
          obtain rfl := lead_plain hlead
          exact read [c] c after (readsBefore_of_plain hlead) (ih after.length (by simp) after rfl)
      | numeric base rest =>
          obtain ⟨rfl, hends⟩ := eq_mark_of_lead hlead
          by_cases hdecodes : ∃ offset c after, decodeNumeric base rest offset = .ok (c, after)
          · obtain ⟨offset, c, after, hok⟩ := hdecodes
            obtain ⟨digits, rfl, hreads⟩ := exists_digits_of_decodeNumeric hok
            have hread := read _ c after (hreads.readsBefore after)
              (ih after.length (by simp; omega) after rfl)
            rwa [Base.reference_append] at hread
          · refine stop base rest hends fun offset => ?_
            cases hresult : decodeNumeric base rest offset with
            | error fault => exact ⟨fault, rfl⟩
            | ok result => exact absurd ⟨offset, result.1, result.2, hresult⟩ hdecodes

/-- **A text that is decoded** is decoded in the same way in front of an ampersand. -/
lemma unescapeFrom_append (before : Text) : ∀ {offset : Nat} {decoded : Text},
    unescapeFrom offset before = .ok decoded → ∀ rest,
      unescapeFrom offset (before ++ '&' :: rest)
        = (unescapeFrom (offset + before.length) ('&' :: rest)).map (decoded ++ ·) := by
  induction before using parts_ind with
  | nil =>
      intro offset decoded h rest
      rw [unescapeFrom_nil] at h
      cases h
      exact ReadsAs.nil offset ('&' :: rest)
  | read part c after hread ih =>
      intro offset decoded h rest
      rw [hread offset after (.inl List.prefix_rfl)] at h
      cases hafter : unescapeFrom (offset + part.length) after with
      | error fault => rw [hafter] at h; cases h
      | ok more =>
          rw [hafter] at h
          cases h
          have hrest : after ++ ['&'] <+: after ++ '&' :: rest := ⟨rest, by simp⟩
          rw [List.append_assoc, hread offset _ (.inr hrest), ih hafter, List.length_append,
            ← Nat.add_assoc]
          cases unescapeFrom (offset + part.length + after.length) ('&' :: rest) <;> rfl
  | stop base rest hends hstop =>
      intro offset decoded h
      obtain ⟨fault, hfault⟩ := hstop (offset + base.leadLength)
      rw [unescapeFrom_eq, lead_mark hends] at h
      dsimp only at h
      rw [hfault] at h
      cases h

/-- **Where decoding fails**: at the first numeric reference that cannot be decoded, behind a text
that can. -/
lemma exists_stop (text : Text) : ∀ {offset : Nat} {fault : Fault},
    unescapeFrom offset text = .error fault →
      ∃ before decoded base rest, text = before ++ (Base.mark base ++ rest) ∧ base.MarkEnds rest
        ∧ unescapeFrom offset before = .ok decoded
        ∧ decodeNumeric base rest (offset + before.length + base.leadLength) = .error fault := by
  induction text using parts_ind with
  | nil =>
      intro offset fault h
      rw [unescapeFrom_nil] at h
      cases h
  | read part c after hread ih =>
      intro offset fault h
      rw [hread offset after (.inl List.prefix_rfl)] at h
      cases hafter : unescapeFrom (offset + part.length) after with
      | ok more => rw [hafter] at h; cases h
      | error fault =>
          rw [hafter] at h
          cases h
          obtain ⟨before, decoded, base, rest, rfl, hends, hbefore, hfault⟩ := ih hafter
          refine ⟨part ++ before, c :: decoded, base, rest, by simp, hends, ?_, ?_⟩
          · rw [hread offset before (.inl (List.prefix_append _ _)), hbefore]
            rfl
          · rw [List.length_append, ← Nat.add_assoc]
            exact hfault
  | stop base rest hends hstop =>
      intro offset fault h
      obtain ⟨other, hother⟩ := hstop (offset + base.leadLength)
      rw [unescapeFrom_eq, lead_mark hends] at h
      dsimp only at h
      rw [hother] at h
      cases h
      exact ⟨[], [], base, rest, rfl, hends, unescapeFrom_nil offset, hother⟩

/-! ### Decimal numerals that are too long -/

/-- **Decoding stops at a decimal numeral that is too long**, behind a text that can be decoded. -/
def StopsAtLongNumeral (text digits : Text) : Prop :=
  ∃ before decoded after, text = before ++ Base.decimal.reference digits ++ after
    ∧ unescape before = .ok decoded ∧ (∀ c ∈ digits, c.isDigit = true)
    ∧ Text.digitLimit < digits.length

lemma isDigit_decimal (c : Char) : Base.decimal.isDigit c = c.isDigit := rfl

/-- The length of a numeral counts in decimal only, and only if all its characters are digits. -/
lemma decodeDigits_eq_tooLong_iff {base : Base} {digits : Text} {offset n : Nat} :
    decodeDigits base digits offset = .error (.tooLong n)
      ↔ base = .decimal ∧ (∀ c ∈ digits, c.isDigit = true) ∧ Text.digitLimit < digits.length
        ∧ digits.length = n := by
  rw [decodeDigits]
  cases hvalue : base.value? digits with
  | none =>
      constructor
      · intro h
        cases h
      · rintro ⟨rfl, hdigits, hlong, -⟩
        rcases Base.value?_eq_none_iff.mp hvalue with rfl | ⟨c, hc, hnot⟩
        · cases hlong
        · rw [isDigit_decimal, hdigits c hc] at hnot
          cases hnot
  | some value =>
      have hdigits : ∀ c ∈ digits, base.isDigit c = true :=
        Base.IsNumeral.isDigit (Base.value?_eq_some_iff.mp hvalue)
      dsimp only
      split
      · rename_i hlong
        rw [Bool.and_eq_true, decide_eq_true_eq, decide_eq_true_eq] at hlong
        obtain ⟨rfl, hlong⟩ := hlong
        rw [Except.error.injEq, Fault.tooLong.injEq]
        exact ⟨fun h => ⟨rfl, hdigits, hlong, h⟩, fun h => h.2.2.2⟩
      · rename_i hlong
        constructor
        · intro h
          rw [character] at h
          split_ifs at h <;> cases h
        · rintro ⟨hbase, -, hlength, -⟩
          exact absurd (by simp [hbase, hlength]) hlong

/-- **Which numeral is too long**: the first reference that cannot be decoded. -/
lemma unescape_eq_tooLong_iff {text : Text} {n : Nat} :
    unescape text = .error (.tooLong n)
      ↔ ∃ digits, StopsAtLongNumeral text digits ∧ digits.length = n := by
  constructor
  · intro h
    obtain ⟨before, decoded, base, rest, rfl, -, hbefore, hfault⟩ := exists_stop text h
    rcases decodeNumeric_cases base rest with hnone | ⟨digits, after, rfl, hdigits⟩
    · rw [hnone] at hfault
      cases hfault
    · rw [decodeNumeric_append hdigits] at hfault
      cases hdecode : decodeDigits base digits (0 + before.length + base.leadLength) with
      | ok c =>
          rw [hdecode] at hfault
          cases hfault
      | error fault =>
          rw [hdecode] at hfault
          cases hfault
          obtain ⟨rfl, hall, hlong, hlength⟩ := decodeDigits_eq_tooLong_iff.mp hdecode
          refine ⟨digits, ⟨before, decoded, after, ?_, hbefore, hall, hlong⟩, hlength⟩
          rw [List.append_assoc, Base.reference_append]
  · rintro ⟨digits, ⟨before, decoded, after, rfl, hbefore, hall, hlong⟩, rfl⟩
    have hdigits : ∀ c ∈ digits, Base.decimal.isDigit c = true := hall
    have hsplit := unescapeFrom_append before hbefore ('#' :: (digits ++ [';']) ++ after)
    rw [unescape, List.append_assoc]
    refine hsplit.trans ?_
    show (unescapeFrom _ (Base.decimal.reference digits ++ after)).map _ = _
    rw [unescapeFrom_numeric (Base.markEnds_of_isDigit hdigits)
      (Base.semicolon_notMem hdigits), decodeDigits_eq_tooLong_iff.mpr ⟨rfl, hall, hlong, rfl⟩]
    rfl

/-! ### Answers -/

open CommandLine

/-- **A text is answered**: it is decoded, and printed by every run that asks for it; or it is
refused with a fault that callers expect, and every run that asks for it ends with its wording. -/
inductive IsAnswered (text : Text) : Prop where
  | decoded {result : Text} : unescape text = .ok result →
      (∀ registry files journal arguments, Request.ofArguments arguments = .unescape text →
        run registry files journal arguments = .printed (result ++ ['\n']) files journal) →
      IsAnswered text
  | refused {fault : Fault} : unescape text = .error fault →
      fault.toFault = .render (.undecodable fault) →
      (∀ registry files journal arguments, Request.ofArguments arguments = .unescape text →
        run registry files journal arguments
          = .quiet (.complaint ("Cannot decode " ++ Text.quote text ++ ": " ++ fault.message)) files
            journal) →
      IsAnswered text

/-- **A text is not answered**: its decoding fails, and every run that asks for it, with a fault
that no caller expects. -/
structure IsUnanswered (text : Text) (cause : Cause) : Prop where
  fails : ∃ fault, unescape text = .error fault ∧ fault.toFault = .other cause
  run_eq : ∀ registry files journal arguments, Request.ofArguments arguments = .unescape text →
    run registry files journal arguments = .quiet (.failure (.other cause)) files journal

lemma run_of_ok {text result : Text} (h : unescape text = .ok result) {registry : Registry}
    {files : FileTree} {journal : Journal} {arguments : List Text}
    (hrequest : Request.ofArguments arguments = .unescape text) :
    run registry files journal arguments = .printed (result ++ ['\n']) files journal := by
  rw [run, Platform.run, hrequest, Platform.runRequest, h]

lemma run_of_error {text : Text} {fault : Fault} (h : unescape text = .error fault)
    {registry : Registry} {files : FileTree} {journal : Journal} {arguments : List Text}
    (hrequest : Request.ofArguments arguments = .unescape text) :
    run registry files journal arguments = .quiet (.ofEntityFault text fault) files journal := by
  rw [run, Platform.run, hrequest, Platform.runRequest, h]

lemma toFault_of_not_tooLong {fault : Fault} (h : ∀ n, fault ≠ .tooLong n) :
    fault.toFault = .render (.undecodable fault) := by
  cases fault with
  | tooLong n => exact absurd rfl (h n)
  | _ => rfl

lemma isAnswered_of_not_tooLong {text : Text} (h : ∀ n, unescape text ≠ .error (.tooLong n)) :
    IsAnswered text := by
  cases hresult : unescape text with
  | ok result => exact .decoded hresult fun _ _ _ _ => run_of_ok hresult
  | error fault =>
      have hfault : fault.toFault = .render (.undecodable fault) :=
        toFault_of_not_tooLong fun n hn => h n (hn ▸ hresult)
      refine .refused hresult hfault fun _ _ _ _ hrequest => ?_
      rw [run_of_error hresult hrequest, Ending.ofEntityFault, hfault]
      rfl

lemma isUnanswered_of_tooLong {text : Text} {n : Nat} (h : unescape text = .error (.tooLong n)) :
    IsUnanswered text (.badValue (Text.tooManyDigits n)) :=
  ⟨⟨_, h, rfl⟩, fun _ _ _ _ hrequest => run_of_error h hrequest⟩

lemma IsUnanswered.not_isAnswered {text : Text} {cause : Cause} (h : IsUnanswered text cause) :
    ¬ IsAnswered text := by
  obtain ⟨fault, hresult, hfault⟩ := h.fails
  rintro (⟨hok, -⟩ | ⟨herror, hrender, -⟩)
  · rw [hresult] at hok
    cases hok
  · rw [hresult] at herror
    cases herror
    rw [hfault] at hrender
    cases hrender

/-- **The texts that are answered** are those whose decoding does not stop at a decimal numeral that
is too long; so a text is answered if no decimal reference in it is too long. -/
theorem isAnswered_iff_not_stopsAtLongNumeral (text : Text) :
    (IsAnswered text ↔ ¬ ∃ digits, StopsAtLongNumeral text digits)
    ∧ (∀ digits, StopsAtLongNumeral text digits →
        IsUnanswered text (.badValue (Text.tooManyDigits digits.length)))
    ∧ ((∀ digits : Text, (∀ c ∈ digits, c.isDigit = true) →
        Base.decimal.reference digits <:+: text → digits.length ≤ Text.digitLimit) →
      IsAnswered text) := by
  have hunanswered : ∀ digits, StopsAtLongNumeral text digits →
      IsUnanswered text (.badValue (Text.tooManyDigits digits.length)) :=
    fun digits h => isUnanswered_of_tooLong (unescape_eq_tooLong_iff.mpr ⟨digits, h, rfl⟩)
  have hanswered : (¬ ∃ digits, StopsAtLongNumeral text digits) → IsAnswered text := by
    refine fun h => isAnswered_of_not_tooLong fun n hn => h ?_
    obtain ⟨digits, hstops, -⟩ := unescape_eq_tooLong_iff.mp hn
    exact ⟨digits, hstops⟩
  refine ⟨⟨fun h ⟨digits, hstops⟩ => (hunanswered digits hstops).not_isAnswered h, hanswered⟩,
    hunanswered, fun hshort => hanswered ?_⟩
  rintro ⟨digits, before, decoded, after, rfl, -, hdigits, hlong⟩
  exact absurd (hshort digits hdigits ⟨before, after, rfl⟩) (Nat.not_le_of_lt hlong)

/-- A text that is refused, since its hexadecimal numeral is out of range; and one that is not
answered, since its second numeral is too long. -/
theorem isAnswered_of_short_numerals :
    (∀ digits : Text, (∀ c ∈ digits, c.isDigit = true) →
        Base.decimal.reference digits <:+: "&#65;&#x110000;".toList →
        digits.length ≤ Text.digitLimit)
    ∧ IsAnswered "&#65;&#x110000;"
    ∧ StopsAtLongNumeral ("&#65;" ++ Base.decimal.reference (List.replicate 4301 '0'))
        (List.replicate 4301 '0')
    ∧ IsUnanswered ("&#65;" ++ Base.decimal.reference (List.replicate 4301 '0'))
        (.badValue (Text.tooManyDigits 4301)) := by
  have hshort : ∀ digits : Text, (∀ c ∈ digits, c.isDigit = true) →
      Base.decimal.reference digits <:+: "&#65;&#x110000;".toList →
      digits.length ≤ Text.digitLimit := by
    intro digits _ hpart
    have hlength : _ ≤ 15 := hpart.length_le
    rw [Base.reference, List.length_append, List.length_append] at hlength
    have : Text.digitLimit = 4300 := rfl
    omega
  have hnumeral : Base.decimal.IsNumeral "65" ('A').toNat := ⟨0, by decide⟩
  have hletter : unescape "&#65;" = .ok ['A'] :=
    (ReadsAs.numeral hnumeral fun _ => by decide).unescape_eq
  have hlong : StopsAtLongNumeral ("&#65;" ++ Base.decimal.reference (List.replicate 4301 '0'))
      (List.replicate 4301 '0') := by
    refine ⟨"&#65;", ['A'], [], (List.append_nil _).symm, hletter, fun c hc => ?_, ?_⟩
    · rw [List.eq_of_mem_replicate hc]
      rfl
    · rw [List.length_replicate]
      decide
  have hunanswered := (isAnswered_iff_not_stopsAtLongNumeral _).2.1 _ hlong
  rw [List.length_replicate] at hunanswered
  exact ⟨hshort, (isAnswered_iff_not_stopsAtLongNumeral _).2.2 hshort, hlong, hunanswered⟩

/-- **An answer that is missing**: the number of a letter in 4301 decimal digits is refused with a
fault that no caller expects, though in as many hexadecimal digits it stands for the letter. -/
theorem padded_numeral_unanswered :
    ¬ IsAnswered (Base.decimal.reference (List.replicate 4299 '0' ++ "65"))
    ∧ unescape (Base.decimal.reference (List.replicate 4299 '0' ++ "65")) = .error (.tooLong 4301)
    ∧ (Fault.tooLong 4301).toFault = .other (.badValue (Text.tooManyDigits 4301))
    ∧ unescape (Base.hexadecimal.reference (List.replicate 4299 '0' ++ "41")) = .ok "A" := by
  have hnumeral : ∀ (base : Base) (last : Text),
      last.map Char.toLower = Nat.toDigits base.radix 65 →
      base.IsNumeral (List.replicate 4299 '0' ++ last) 65 := by
    intro base last hlast
    refine ⟨4299, ?_⟩
    rw [List.map_append, List.map_replicate, hlast]
    rfl
  have hdecimal := hnumeral .decimal "65" (by decide)
  have hlength : (List.replicate 4299 '0' ++ "65").length = 4301 := by
    rw [List.length_append, List.length_replicate]
    rfl
  have hlong : unescape (Base.decimal.reference (List.replicate 4299 '0' ++ "65"))
      = .error (.tooLong 4301) := by
    refine unescape_eq_tooLong_iff.mpr ⟨_, ⟨[], [], [], (List.append_nil _).symm,
      unescapeFrom_nil 0, hdecimal.isDigit, ?_⟩, hlength⟩
    rw [hlength]
    decide
  refine ⟨(isUnanswered_of_tooLong hlong).not_isAnswered, hlong, rfl, ?_⟩
  have hhexadecimal := hnumeral .hexadecimal "41" (by decide)
  exact (ReadsAs.numeral (c := 'A') hhexadecimal nofun).unescape_eq

end BlockTree.Entity
