import BlockTree.Text.Quoted

/-!
Halves of surrogate pairs in a text.

An escape can name a half of a pair. No character has its code point, yet a text may hold it until
it is to be written as octets.

* `Halves`: characters that stand for the halves. Which ones makes no difference, as long as the
  texts of a run have no other use for them;
* `Halves.ofCode`: the character of a code point;
* `Halves.fault?`: why a text cannot be written as octets, and `Halves.stored`: what a file holds of
  it then;
* `Halves.spelled`: the text with the escape of each half in its place, as errors are printed.
-/

namespace BlockTree

/-- A code point is half of a surrogate pair. -/
def Text.isHalf (n : Nat) : Bool :=
  0xD800 ≤ n && n ≤ 0xDFFF

/-- Characters that stand for the halves of pairs, each for one half. Like the halves they are
outside ASCII and neither blanks nor word characters, and a quotation escapes them. -/
structure Halves where
  char : Nat → Char
  code? : Char → Option Nat
  code?_eq_some : ∀ c n, code? c = some n ↔ Text.isHalf n = true ∧ char n = c
  plain : ∀ n, Text.isHalf n = true → 128 ≤ (char n).toNat ∧ Text.isBlank (char n) = false
    ∧ Text.isWord (char n) = false ∧ Text.isPrinted (char n) = false

namespace Halves

variable (halves : Halves)

/-- The character of a code point, or the one that stands for it. -/
def ofCode (n : Nat) : Char :=
  if Text.isHalf n then halves.char n else Char.ofNat n

/-- A character stands for a half. -/
def marks (c : Char) : Bool :=
  (halves.code? c).isSome

/-- A character as errors are printed: the escape of a half. -/
def spellChar (c : Char) : Text :=
  match halves.code? c with
  | some n => "\\u" ++ Text.paddedHex 4 n
  | none => [c]

/-- A text as errors are printed. -/
def spelled (text : Text) : Text :=
  text.flatMap halves.spellChar

/-- Why a text cannot be written as octets: there are halves in it, the first of them here. -/
def fault? (text : Text) : Option Text :=
  match text.dropWhile fun c => !halves.marks c with
  | [] => none
  | c :: rest =>
    let position := text.length - (rest.length + 1)
    let more := (rest.takeWhile halves.marks).length
    let place : Text :=
      if more = 0 then
        "character '" ++ halves.spellChar c ++ "' in position " ++ Text.decimal position
      else
        "characters in position " ++ Text.decimal position ++ "-" ++ Text.decimal (position + more)
    some ("'utf-8' codec can't encode " ++ place ++ ": surrogates not allowed")

/-- What a file holds of a text that is written to it: nothing if that fails. -/
def stored (text : Text) : Text :=
  if (halves.fault? text).isSome then [] else text

/-! ### Laws, and the standard choice -/

/-- A character has the code point that it is made of. -/
theorem ofCode_toNat (c : Char) : halves.ofCode c.toNat = c := by
  have hhalf : Text.isHalf c.toNat = false := by
    have hvalid := c.valid
    simp only [Text.isHalf, Bool.and_eq_false_iff, decide_eq_false_iff_not]
    rcases hvalid with h | ⟨h, -⟩ <;> simp only [Char.toNat] at * <;> omega
  rw [ofCode, hhalf, if_neg Bool.false_ne_true, Char.ofNat_toNat]

/-- The code point of a stand-in beyond the assigned planes. -/
theorem toNat_standIn {n : Nat} (h : Text.isHalf n = true) :
    (Char.ofNat (0xD0000 + n)).toNat = 0xD0000 + n := by
  have hvalid : (0xD0000 + n).isValidChar := by
    simp only [Text.isHalf, Bool.and_eq_true, decide_eq_true_eq] at h
    exact Or.inr ⟨by omega, by omega⟩
  rw [Char.ofNat, dif_pos hvalid]
  rfl

/-- Letters and digits of ASCII have small code points. -/
theorem isAlphanum_eq_false {c : Char} (h : 128 ≤ c.toNat) : c.isAlphanum = false := by
  have hval : 128 ≤ c.val.toNat := h
  have hends : 'Z'.val.toNat = 90 ∧ 'z'.val.toNat = 122 ∧ '9'.val.toNat = 57 := ⟨rfl, rfl, rfl⟩
  show (decide (c.val ≥ 'A'.val ∧ c.val ≤ 'Z'.val)
    || decide (c.val ≥ 'a'.val) && decide (c.val ≤ 'z'.val)
    || decide (c.val ≥ '0'.val) && decide (c.val ≤ '9'.val)) = false
  simp only [ge_iff_le, UInt32.le_iff_toNat_le, Bool.or_eq_false_iff, Bool.and_eq_false_iff,
    decide_eq_false_iff_not]
  omega

/-- No range holds a number beyond all ends. -/
theorem inRanges_eq_false {ranges : List (Nat × Nat)} {bound n : Nat}
    (hends : ranges.all (fun range => range.2 < bound) = true) (hn : bound ≤ n) :
    Text.inRanges ranges n = false := by
  rw [Text.inRanges, List.any_eq_false]
  intro range hrange
  have hend := List.all_eq_true.mp hends range hrange
  simp only [decide_eq_true_eq, Bool.and_eq_true, not_and] at *
  omega

/-- Nothing in a plane without assigned characters belongs to a class. -/
theorem plain_standIn {n : Nat} (h : Text.isHalf n = true) :
    128 ≤ (Char.ofNat (0xD0000 + n)).toNat ∧ Text.isBlank (Char.ofNat (0xD0000 + n)) = false
      ∧ Text.isWord (Char.ofNat (0xD0000 + n)) = false
      ∧ Text.isPrinted (Char.ofNat (0xD0000 + n)) = false := by
  have hcode := toNat_standIn h
  have hbounds : 0xDD800 ≤ 0xD0000 + n ∧ 0xD0000 + n ≤ 0xDDFFF := by
    simp only [Text.isHalf, Bool.and_eq_true, decide_eq_true_eq] at h
    omega
  have hlarge : 128 ≤ (Char.ofNat (0xD0000 + n)).toNat := by omega
  refine ⟨hlarge, ?_, ?_, ?_⟩
  · have hblanks : ∀ m ∈ Text.blanks, m < 0xD0000 := by decide
    rw [← Bool.not_eq_true, Text.isBlank_iff, hcode]
    intro hmem
    have hlt := hblanks _ hmem
    omega
  · have hends : Text.wordRanges.all (fun range => range.2 < 0xD0000) = true := by decide +kernel
    have hscore : Char.ofNat (0xD0000 + n) ≠ '_' := by
      intro hc
      rw [hc] at hlarge
      exact absurd hlarge (by decide)
    simp [Text.isWord, isAlphanum_eq_false hlarge, hscore, hcode,
      inRanges_eq_false hends (Nat.le_add_right _ n)]
  · have hhidden : (0x3134B, 0xE00FF) ∈ Text.hiddenRanges := by decide +kernel
    have hrange : Text.inRanges Text.hiddenRanges (0xD0000 + n) = true := by
      rw [Text.inRanges, List.any_eq_true]
      refine ⟨_, hhidden, ?_⟩
      simp only [Bool.and_eq_true, decide_eq_true_eq]
      omega
    rw [Text.isPrinted, hcode, if_neg (by omega), hrange]
    rfl

/-- Stand-ins in a plane without assigned characters. -/
def standard : Halves where
  char n := Char.ofNat (0xD0000 + n)
  code? c := if Text.isHalf (c.toNat - 0xD0000) then some (c.toNat - 0xD0000) else none
  code?_eq_some c n := by
    constructor
    · intro h
      split at h
      · rename_i hhalf
        obtain rfl := Option.some.inj h
        have hle : 0xD0000 ≤ c.toNat := by
          simp only [Text.isHalf, Bool.and_eq_true, decide_eq_true_eq] at hhalf
          omega
        exact ⟨hhalf, by rw [Nat.add_sub_cancel' hle, Char.ofNat_toNat]⟩
      · cases h
    · rintro ⟨hhalf, rfl⟩
      rw [toNat_standIn hhalf, Nat.add_sub_cancel_left, if_pos hhalf]
  plain _ h := plain_standIn h

end Halves

end BlockTree
