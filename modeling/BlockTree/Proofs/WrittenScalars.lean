import BlockTree.Json.Reader
import BlockTree.Json.Writer
import BlockTree.Proofs.SealedText
import Mathlib.Tactic

/-!
Written texts and integers are read back.

* `YieldsIf`: a result is given exactly under a condition.
* `readText_writeText`: a text in quotation marks is read as its characters, whatever they are and
  whatever follows; `readPlain_writeText` for the value.
* `readPlain_integer`: an integer is read as itself, if what follows does not continue it, exactly
  if its digits are within the limit.
-/

namespace BlockTree

namespace Text

/-- Only zero is written with a zero in front. -/
lemma head?_decimal_ne_zero {n : Nat} (h : n ≠ 0) : (decimal n).head? ≠ some '0' := by
  induction n using Nat.strongRecOn with
  | ind n ih =>
      rw [decimal, Nat.toDigits_eq_if (by decide)]
      split
      · rename_i hn
        rw [List.head?_cons]
        interval_cases n <;> first | exact absurd rfl h | decide
      · rename_i hn
        rw [List.head?_append_of_ne_nil _ Nat.toDigits_ne_nil]
        exact ih (n / 10) (by omega) (by omega)

lemma isDigit_of_mem_decimal {n : Nat} {c : Char} (h : c ∈ decimal n) : c.isDigit = true :=
  Nat.isDigit_of_mem_toDigits (by decide) (by decide) h

lemma decimal_ne_nil (n : Nat) : decimal n ≠ [] :=
  Nat.toDigits_ne_nil

end Text

namespace Json

/-! ### Outcomes -/

/-- **The result is given under a condition**, and a fault otherwise. -/
def YieldsIf {α : Type} (condition : Prop) (outcome : Except Fault α) (result : α) : Prop :=
  (condition ∧ outcome = .ok result) ∨ (¬ condition ∧ ∃ fault, outcome = .error fault)

namespace YieldsIf

variable {α β : Type} {condition further : Prop} {outcome : Except Fault α} {result : α}

lemma of_eq_ok (hcondition : condition) (h : outcome = .ok result) :
    YieldsIf condition outcome result :=
  Or.inl ⟨hcondition, h⟩

lemma eq_ok_iff (h : YieldsIf condition outcome result) : outcome = .ok result ↔ condition := by
  rcases h with ⟨hcondition, rfl⟩ | ⟨hcondition, fault, rfl⟩
  · exact iff_of_true rfl hcondition
  · exact iff_of_false nofun hcondition

/-- A result that is changed is given under the same condition, to which a true one may be added. -/
lemma map (h : YieldsIf further outcome result) (hcondition : condition) (f : α → β) :
    YieldsIf (condition ∧ further) (outcome.map f) (f result) := by
  rcases h with ⟨hfurther, rfl⟩ | ⟨hfurther, fault, rfl⟩
  · exact Or.inl ⟨⟨hcondition, hfurther⟩, rfl⟩
  · exact Or.inr ⟨fun hboth => hfurther hboth.2, fault, rfl⟩

end YieldsIf

/-! ### Texts -/

/-- The numeric escape of a control character. -/
lemma unit?_control {n : Nat} (h : n < 32) (rest : Text) :
    unit? (Text.paddedHex 4 n ++ rest) = some (n, rest) := by
  have key : ∀ n < 32, (Text.paddedHex 4 n).length = 4
      ∧ ((Text.paddedHex 4 n).mapM Text.hexValue?).map (Text.ofDigits 16) = some n := by decide
  obtain ⟨hlength, hvalue⟩ := key n h
  obtain ⟨a, b, c, d, hdigits⟩ := List.length_eq_four.mp hlength
  obtain ⟨values, hvalues, rfl⟩ := Option.map_eq_some_iff.mp hvalue
  rw [hdigits] at hvalues ⊢
  simp only [List.cons_append, List.nil_append, unit?, hvalues, Option.map_some]

lemma readEscape_control {n : Nat} (h : n < 32) {rest : Text} (hrest : rest ≠ []) :
    readEscape 'u' (Text.paddedHex 4 n ++ rest) = .ok (n, rest) := by
  have hhigh : isHighUnit n = false := by
    rw [isHighUnit, Bool.and_eq_false_iff, decide_eq_false_iff_not]
    exact Or.inl (by omega)
  rw [readEscape, if_pos rfl, readUnicodeEscape, unit?_control h]
  simp only [List.isEmpty_eq_false_iff.mpr hrest, hhigh, Bool.false_eq_true, if_false]

/-- An escape of a character is read as the character. -/
lemma readText_escape {c d : Char} {rest : Text} (escape : Text)
    (hrest : readEscape c (escape ++ rest) = .ok (d.toNat, rest)) (opening : Nat) :
    readText opening ('\\' :: c :: escape ++ rest)
      = (readText opening rest).map fun (codes, after) => (d.toNat :: codes, after) := by
  rw [List.cons_append, List.cons_append, readText]
  split
  · rename_i h
    rw [hrest] at h
    cases h
  · rename_i h
    rw [hrest] at h
    cases h
    rfl

/-- **A character is read as itself**, however it is written. -/
lemma readText_writeChar (opening : Nat) (c : Char) {rest : Text} (hrest : rest ≠ []) :
    readText opening (writeChar c ++ rest)
      = (readText opening rest).map fun (codes, after) => (c.toNat :: codes, after) := by
  rw [writeChar]
  split_ifs with hquote hslash hfeed hreturn htab hform hback hcontrol
  · exact hquote ▸ readText_escape [] rfl opening
  · exact hslash ▸ readText_escape [] rfl opening
  · exact hfeed ▸ readText_escape [] rfl opening
  · exact hreturn ▸ readText_escape [] rfl opening
  · exact htab ▸ readText_escape [] rfl opening
  · exact hform ▸ readText_escape [] rfl opening
  · exact hback ▸ readText_escape [] rfl opening
  · exact readText_escape _ (readEscape_control hcontrol hrest) opening
  · rw [List.singleton_append, readText, if_neg hcontrol]
    · exact hquote
    · exact hslash

/-- **A text in quotation marks** is read as its characters. -/
theorem readText_writeText (opening : Nat) (text rest : Text) :
    readText opening (text.flatMap writeChar ++ '"' :: rest) = .ok (text.map Char.toNat, rest) := by
  induction text with
  | nil => rw [List.flatMap_nil, List.nil_append, readText, List.map_nil]
  | cons c text ih =>
      rw [List.flatMap_cons, List.append_assoc, readText_writeChar opening c (by simp), ih]
      rfl

lemma ofCodes_map_toNat (halves : Halves) (text : Text) :
    Data.ofCodes halves (text.map Char.toNat) = .str text := by
  rw [Data.ofCodes, List.map_map]
  exact congrArg Data.str (List.map_id'' halves.ofCode_toNat text)

/-! ### Integers -/

/-- The text does not continue a number. -/
def EndsNumber (rest : Text) : Prop :=
  ∀ c ∈ rest.head?, c.isDigit = false ∧ c ≠ '.' ∧ c ≠ 'e' ∧ c ≠ 'E'

lemma digitsValue_decimal (n : Nat) : digitsValue (Text.decimal n) = n := by
  rw [digitsValue, Text.ofDigits, List.foldl_map]
  exact Nat.ofDigitChars_ten_toDigits

section

variable {rest : Text} (hrest : EndsNumber rest)
include hrest

lemma readWhole_decimal (n : Nat) :
    readWhole (Text.decimal n ++ rest) = some (Text.decimal n, rest) := by
  have hhead : ∀ c ∈ rest.head?, c.isDigit = false := fun c hc => (hrest c hc).1
  have hdigits : ∀ c ∈ Text.decimal n, c.isDigit = true := fun c => Text.isDigit_of_mem_decimal
  by_cases hn : n = 0
  · subst hn
    rfl
  · rw [readWhole.eq_2]
    · have htake : (Text.decimal n ++ rest).takeWhile Char.isDigit = Text.decimal n := by
        rw [Text.takeWhile_append_of_head? hhead, List.takeWhile_eq_self_iff.mpr hdigits]
      have hdrop : (Text.decimal n ++ rest).dropWhile Char.isDigit = rest :=
        Text.dropWhile_append_of_head? hdigits hhead
      simp only [htake, hdrop, List.isEmpty_eq_false_iff.mpr (Text.decimal_ne_nil n),
        Bool.false_eq_true, if_false]
    · intro after hafter
      refine Text.head?_decimal_ne_zero hn ?_
      rw [← List.head?_append_of_ne_nil _ (Text.decimal_ne_nil n), hafter, List.head?_cons]

lemma readFraction_eq : readFraction rest = ([], rest) := by
  rw [readFraction.eq_2]
  rintro after rfl
  exact (hrest '.' rfl).2.1 rfl

lemma readExponent_eq : readExponent rest = none := by
  cases rest with
  | nil => rfl
  | cons c rest =>
      obtain ⟨-, -, he, hE⟩ := hrest c rfl
      simp [readExponent, he, hE]

/-- A numeral is read within the limit, and only there. -/
lemma readNumber_decimal (limit : Option Nat) (negative : Bool) (start : Text) (n : Nat) :
    YieldsIf (∀ most ∈ limit, (Text.decimal n).length ≤ most)
      (readNumber limit negative start (Text.decimal n ++ rest))
      (.int (if negative then -Int.ofNat n else Int.ofNat n), rest) := by
  have hlimit : limit.any (· < (Text.decimal n).length) = false
      ↔ ∀ most ∈ limit, (Text.decimal n).length ≤ most := by
    cases limit <;> simp
  rw [readNumber, readWhole_decimal hrest]
  simp only [readFraction_eq hrest, readExponent_eq hrest, digitsValue_decimal, List.isEmpty_nil,
    Bool.not_true, Bool.false_eq_true, if_false]
  rw [← hlimit]
  cases limit.any (· < (Text.decimal n).length) with
  | true => exact Or.inr ⟨nofun, _, rfl⟩
  | false => exact Or.inl ⟨rfl, rfl⟩

end

/-- A number is no keyword. -/
lemma readKeyword_of_isDigit {c : Char} (hc : c.isDigit = true) (text : Text) :
    readKeyword (c :: text) = none ∧ readKeyword ('-' :: c :: text) = none := by
  have hne {d : Char} (hd : d.isDigit = false) : c ≠ d := Text.ne_of_class hc hd
  constructor <;>
    simp [readKeyword, keywords, Text.after?, hne (d := 'n') rfl, hne (d := 't') rfl,
      hne (d := 'f') rfl, hne (d := 'N') rfl, hne (d := 'I') rfl, hne (d := '-') rfl]

/-- **An integer is read as itself** within the limit, and only there. -/
theorem readPlain_integer {rest : Text} (hrest : EndsNumber rest) (halves : Halves)
    (limit : Option Nat) (n : Int) :
    YieldsIf (∀ most ∈ limit, (Text.decimal n.natAbs).length ≤ most)
      (readPlain halves limit (Text.integer n ++ rest)) (.int n, rest) := by
  -- A numeral starts with a digit, so that no other reader takes it.
  have hdigit : ∀ n, ∃ c digits, Text.decimal n = c :: digits ∧ c.isDigit = true := by
    intro n
    obtain ⟨c, digits, hdigits⟩ := List.exists_cons_of_ne_nil (Text.decimal_ne_nil n)
    exact ⟨c, digits, hdigits, Text.isDigit_of_mem_decimal (hdigits ▸ List.mem_cons_self)⟩
  cases n with
  | ofNat n =>
      have hread := readNumber_decimal hrest limit false (Text.decimal n ++ rest) n
      obtain ⟨c, digits, hdigits, hc⟩ := hdigit n
      rw [hdigits, List.cons_append] at hread
      rw [Text.integer, Int.natAbs, hdigits, List.cons_append, readPlain,
        (readKeyword_of_isDigit hc _).1]
      · exact hread
      · rintro after ⟨⟩
        exact absurd hc (by decide)
      · rintro after ⟨⟩
        exact absurd hc (by decide)
  | negSucc n =>
      have hread := readNumber_decimal hrest limit true (Text.integer (.negSucc n) ++ rest) (n + 1)
      obtain ⟨c, digits, hdigits, hc⟩ := hdigit (n + 1)
      rw [Text.integer, hdigits, List.cons_append, List.cons_append] at hread
      rw [Text.integer, Int.natAbs, hdigits, List.cons_append, List.cons_append, readPlain,
        (readKeyword_of_isDigit hc _).2]
      exact hread

/-! ### Other scalars -/

/-- A written text is read as itself. -/
lemma readPlain_writeText (halves : Halves) (limit : Option Nat) (text rest : Text) :
    readPlain halves limit (writeText text ++ rest) = .ok (.str text, rest) := by
  have hkeyword : ∀ after, readKeyword ('"' :: after) = none := by
    intro after
    simp [readKeyword, keywords, Text.after?]
  rw [writeText, List.append_assoc, List.cons_append, List.singleton_append, readPlain, hkeyword]
  simp only [readText_writeText, Except.map, ofCodes_map_toNat]

lemma readPlain_null (halves : Halves) (limit : Option Nat) (rest : Text) :
    readPlain halves limit ("null" ++ rest) = .ok (.null, rest) := by
  simp [readPlain, readKeyword, keywords, Text.after?]

lemma readPlain_bool (halves : Halves) (limit : Option Nat) (level : Nat) (b : Bool) (rest : Text) :
    readPlain halves limit (writeAt level (.bool b) ++ rest) = .ok (.bool b, rest) := by
  cases b <;> simp [writeAt, readPlain, readKeyword, keywords, Text.after?]

end Json

end BlockTree
