import BlockTree.Entity
import Mathlib.Tactic

/-!
Numerals in numeric references.

* `Base.IsNumeral`: a numeral of a number, as it can be written: letters in either case, zeros in
  front.
* `Base.value?_eq_some_iff`: exactly the numerals of a number are read as it.
* `Base.isDigit`, `Base.value?_eq_none_iff`: a text that is read as no number is empty or has a
  character that is no digit.
-/

namespace BlockTree.Entity.Base

/-- **A numeral of a number**: its digits, letters in either case, behind any number of zeros. -/
def IsNumeral (base : Base) (digits : Text) (n : Nat) : Prop :=
  ∃ zeros, digits.map Char.toLower = List.replicate zeros '0' ++ Nat.toDigits base.radix n

/-- The digits of the base. -/
def isDigit : Base → Char → Bool
  | .decimal, c => c.isDigit
  | .hexadecimal, c => c.isDigit || 'a' ≤ c && c ≤ 'f' || 'A' ≤ c && c ≤ 'F'

variable {base : Base}

lemma one_lt_radix : 1 < base.radix := by
  cases base <;> decide

/-! ### Digits -/

lemma isSome_digit? (c : Char) : (base.digit? c).isSome = base.isDigit c := by
  cases base with
  | decimal =>
      rw [digit?, isDigit]
      split <;> simp_all
  | hexadecimal =>
      rw [digit?, isDigit, Text.hexValue?]
      split_ifs <;> simp_all

lemma toNat_lt_of_le {c d : Char} (h : c ≤ d) (hd : d.toNat < 128) : c.toNat < 128 := by
  have hle : c.toNat ≤ d.toNat := h
  omega

lemma toNat_lt_of_isDigit {c : Char} (h : base.isDigit c = true) : c.toNat < 128 := by
  have hdigit : c.isDigit = true → c.toNat < 128 := by
    intro hc
    rw [Char.isDigit, Bool.and_eq_true, decide_eq_true_eq, decide_eq_true_eq] at hc
    exact toNat_lt_of_le (d := '9') hc.2 (by decide)
  cases base with
  | decimal => exact hdigit h
  | hexadecimal =>
      simp only [isDigit, Bool.or_eq_true, Bool.and_eq_true, decide_eq_true_eq] at h
      rcases h with (h | h) | h
      · exact hdigit h
      · exact toNat_lt_of_le h.2 (by decide)
      · exact toNat_lt_of_le h.2 (by decide)

lemma toLower_of_le {c : Char} (h : 128 ≤ c.toNat) : c.toLower = c := by
  have hupper : ¬ (c.val ≥ 'A'.val ∧ c.val ≤ 'Z'.val) := by
    rintro ⟨-, hle⟩
    have : c.toNat < 128 := toNat_lt_of_le (d := 'Z') hle (by decide)
    omega
  exact dif_neg hupper

/-- **A digit** is the character that is written for its value, in either case. -/
lemma digit?_eq_some_iff {c : Char} {d : Nat} :
    base.digit? c = some d ↔ d < base.radix ∧ c.toLower = d.digitChar := by
  have hbase : base ∈ [decimal, hexadecimal] := by cases base <;> decide
  have values : ∀ n < 128, ∀ base ∈ [decimal, hexadecimal],
      ∀ d ∈ base.digit? (Char.ofNat n), d < base.radix := by
    decide +kernel
  have table : ∀ n < 128, ∀ base ∈ [decimal, hexadecimal], ∀ d < base.radix,
      base.digit? (Char.ofNat n) = some d ↔ (Char.ofNat n).toLower = d.digitChar := by
    decide +kernel
  have ascii : ∀ d < 16, d.digitChar.toNat < 128 := by decide
  by_cases hc : c.toNat < 128
  · have hvalues := values c.toNat hc base hbase d
    have htable := table c.toNat hc base hbase d
    rw [Char.ofNat_toNat] at hvalues htable
    exact ⟨fun h => ⟨hvalues h, (htable (hvalues h)).mp h⟩, fun h => (htable h.1).mpr h.2⟩
  · -- Beyond ASCII there are no digits, and case makes no difference.
    constructor
    · intro h
      have hdigit : base.isDigit c = true := by
        rw [← isSome_digit?, h]
        rfl
      exact absurd (toNat_lt_of_isDigit hdigit) hc
    · rintro ⟨hd, heq⟩
      have hd16 : d < 16 := lt_of_lt_of_le hd (by cases base <;> decide)
      rw [toLower_of_le (Nat.le_of_not_lt hc)] at heq
      rw [heq] at hc
      exact absurd (ascii d hd16) hc

/-! ### Numerals -/

/-- What is read digit by digit. -/
lemma mapM_digit?_eq_some_iff {digits : Text} {values : List Nat} :
    digits.mapM base.digit? = some values
      ↔ (∀ d ∈ values, d < base.radix) ∧ digits.map Char.toLower = values.map Nat.digitChar := by
  induction digits generalizing values with
  | nil => cases values <;> simp
  | cons c digits ih =>
      rw [List.mapM_cons]
      cases values with
      | nil => simp [Option.bind_eq_some_iff]
      | cons d values =>
          simp only [Option.bind_eq_bind, Option.pure_def, Option.bind_eq_some_iff,
            Option.some.injEq, List.cons.injEq, exists_eq_right_right, ih, digit?_eq_some_iff,
            List.forall_mem_cons, List.map_cons]
          tauto

lemma ofDigits_concat (radix : Nat) (values : List Nat) (d : Nat) :
    Text.ofDigits radix (values ++ [d]) = radix * Text.ofDigits radix values + d := by
  rw [Text.ofDigits, List.foldl_append]
  rfl

/-- **Digits are a numeral** of the number that they are read as. -/
lemma exists_zeros {values : List Nat} (hne : values ≠ []) (h : ∀ d ∈ values, d < base.radix) :
    ∃ zeros, values.map Nat.digitChar
      = List.replicate zeros '0' ++ Nat.toDigits base.radix (Text.ofDigits base.radix values) := by
  induction values using List.reverseRecOn with
  | nil => exact absurd rfl hne
  | append_singleton values d ih =>
      rw [List.forall_mem_append, List.forall_mem_singleton] at h
      obtain ⟨hvalues, hd⟩ := h
      have hlast : [d.digitChar] = Nat.toDigits base.radix d := (Nat.toDigits_of_lt_base hd).symm
      rw [List.map_append, List.map_singleton, ofDigits_concat]
      cases values with
      | nil => exact ⟨0, by simpa [Text.ofDigits] using hlast⟩
      | cons first rest =>
          obtain ⟨zeros, hzeros⟩ := ih (List.cons_ne_nil _ _) hvalues
          rw [hzeros]
          rcases Nat.eq_zero_or_pos (Text.ofDigits base.radix (first :: rest)) with hzero | hpos
          · refine ⟨zeros + 1, ?_⟩
            rw [hzero, Nat.mul_zero, Nat.zero_add, hlast, Nat.toDigits_zero, List.replicate_succ']
          · refine ⟨zeros, ?_⟩
            rw [hlast, List.append_assoc, Nat.toDigits_append_toDigits one_lt_radix hpos hd]

/-- Every number has digits, and they are read as it. -/
lemma exists_values (base : Base) (n : Nat) :
    ∃ values, (∀ d ∈ values, d < base.radix) ∧ values.map Nat.digitChar = Nat.toDigits base.radix n
      ∧ Text.ofDigits base.radix values = n := by
  induction n using Nat.strongRecOn with
  | ind n ih =>
      by_cases hn : n < base.radix
      · refine ⟨[n], List.forall_mem_singleton.mpr hn, ?_, by simp [Text.ofDigits]⟩
        rw [Nat.toDigits_of_lt_base hn, List.map_singleton]
      · have hradix : 0 < base.radix := Nat.zero_lt_of_lt one_lt_radix
        have hlt : n / base.radix < n := Nat.div_lt_self (by omega) one_lt_radix
        have hmod : n % base.radix < base.radix := Nat.mod_lt _ hradix
        obtain ⟨values, hvalues, hdigits, hvalue⟩ := ih _ hlt
        refine ⟨values ++ [n % base.radix], ?_, ?_, ?_⟩
        · rw [List.forall_mem_append, List.forall_mem_singleton]
          exact ⟨hvalues, hmod⟩
        · rw [List.map_append, hdigits, Nat.toDigits_eq_if one_lt_radix (n := n), if_neg hn]
          rfl
        · rw [ofDigits_concat, hvalue, Nat.div_add_mod]

lemma ofDigits_replicate_zero (radix zeros : Nat) (values : List Nat) :
    Text.ofDigits radix (List.replicate zeros 0 ++ values) = Text.ofDigits radix values := by
  induction zeros with
  | zero => rfl
  | succ zeros ih =>
      rw [List.replicate_succ, List.cons_append, Text.ofDigits, List.foldl_cons, Nat.mul_zero,
        ← Text.ofDigits]
      exact ih

/-- **Exactly the numerals** of a number are read as it. -/
theorem value?_eq_some_iff {digits : Text} {n : Nat} :
    base.value? digits = some n ↔ base.IsNumeral digits n := by
  rw [value?]
  constructor
  · intro h
    split at h
    · cases h
    · rename_i hempty
      obtain ⟨values, hmap, rfl⟩ := Option.map_eq_some_iff.mp h
      obtain ⟨hvalues, heq⟩ := mapM_digit?_eq_some_iff.mp hmap
      have hne : values ≠ [] := by
        rintro rfl
        exact hempty (by simpa using heq)
      rw [IsNumeral, heq]
      exact exists_zeros hne hvalues
  · rintro ⟨zeros, heq⟩
    obtain ⟨values, hvalues, hdigits, hvalue⟩ := exists_values base n
    have hmap : digits.mapM base.digit? = some (List.replicate zeros 0 ++ values) := by
      refine mapM_digit?_eq_some_iff.mpr ⟨?_, ?_⟩
      · rw [List.forall_mem_append]
        refine ⟨fun d hd => ?_, hvalues⟩
        rw [List.eq_of_mem_replicate hd]
        exact Nat.zero_lt_of_lt one_lt_radix
      · rw [heq, List.map_append, hdigits, List.map_replicate]
        rfl
    have hne : digits.isEmpty = false := by
      rw [List.isEmpty_eq_false_iff]
      rintro rfl
      exact Nat.toDigits_ne_nil (List.append_eq_nil_iff.mp heq.symm).2
    rw [hne, hmap, Option.map_some, ofDigits_replicate_zero, hvalue]
    rfl

/-- A text that is read as no number is empty or has a character that is no digit. -/
lemma value?_eq_none_iff {digits : Text} :
    base.value? digits = none ↔ digits = [] ∨ ∃ c ∈ digits, base.isDigit c = false := by
  have hmap : ∀ text : Text,
      text.mapM base.digit? = none ↔ ∃ c ∈ text, base.isDigit c = false := by
    intro text
    induction text with
    | nil => simp
    | cons c text ih =>
        rw [List.mapM_cons, List.exists_mem_cons_iff, ← isSome_digit?, ← ih]
        cases base.digit? c with
        | none => simp
        | some d => cases text.mapM base.digit? <;> simp
  rw [value?]
  split
  · rename_i hempty
    simp [List.isEmpty_iff.mp hempty]
  · rename_i hempty
    rw [Option.map_eq_none_iff, hmap, or_iff_right fun h => hempty (List.isEmpty_iff.mpr h)]

lemma IsNumeral.value? {digits : Text} {n : Nat} (h : base.IsNumeral digits n) :
    base.value? digits = some n :=
  value?_eq_some_iff.mpr h

lemma IsNumeral.isDigit {digits : Text} {n : Nat} (h : base.IsNumeral digits n) :
    ∀ c ∈ digits, base.isDigit c = true := by
  intro c hc
  by_contra hnot
  have hnone := value?_eq_none_iff.mpr (Or.inr ⟨c, hc, Bool.not_eq_true _ ▸ hnot⟩)
  rw [h.value?] at hnone
  cases hnone

end BlockTree.Entity.Base
