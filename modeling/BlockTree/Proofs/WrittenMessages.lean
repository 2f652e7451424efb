import BlockTree.Proofs.FileWrites
import BlockTree.Proofs.Numerals
import BlockTree.Proofs.WrittenValues

/-!
Which messages can be written as octets.

* `Json.forall_mem_writeText`, `Json.forall_mem_enclose`: what holds of ASCII holds of all
  characters of a written value if it does so of those of the texts in it.
* `fault?_writeMessages`, `fault?_messageLines`: so messages can be written, to a file or as lines,
  exactly if the text of each can.
-/

namespace BlockTree

/-! ### Characters of ASCII -/

/-- The character is one of ASCII. -/
def isAscii (c : Char) : Bool :=
  c.toNat < 128

section

variable {P : Char → Prop}

lemma forall_mem_join {separator : Text} (hseparator : ∀ c ∈ separator, P c)
    (parts : List Text) :
    (∀ c ∈ Text.join separator parts, P c) ↔ ∀ part ∈ parts, ∀ c ∈ part, P c := by
  constructor
  · exact fun h part hpart c hc => h c (Text.mem_join_of_mem hpart hc)
  · intro h c hc
    rcases Text.mem_join hc with hc | ⟨part, hpart, hc⟩
    · exact hseparator c hc
    · exact h part hpart c hc

variable (hascii : ∀ c, isAscii c = true → P c)
include hascii

lemma forall_mem_of_all {text : Text} (h : text.all isAscii = true) : ∀ c ∈ text, P c :=
  fun c hc => hascii c (List.all_eq_true.mp h c hc)

lemma forall_mem_word (severity : Severity) : ∀ c ∈ severity.word, P c := by
  cases severity <;> exact forall_mem_of_all hascii (by decide)

lemma forall_mem_integer (n : Int) : ∀ c ∈ Text.integer n, P c := by
  intro c hc
  rcases Text.mem_integer hc with rfl | hdigit
  · exact hascii _ (by decide)
  · have hbase : Entity.Base.isDigit .decimal c = true := hdigit
    exact hascii c (decide_eq_true (Entity.Base.toNat_lt_of_isDigit hbase))

/-- The line of a message has only the text of the message beside ASCII. -/
lemma forall_mem_format (message : Message) :
    (∀ c ∈ message.format, P c) ↔ ∀ c ∈ message.text, P c := by
  have hopening := forall_mem_of_all hascii (show ("[" : Text).all isAscii = true by decide)
  have hline := forall_mem_of_all hascii (show ("] line " : Text).all isAscii = true by decide)
  have hcolon := forall_mem_of_all hascii (show (": " : Text).all isAscii = true by decide)
  have hword := forall_mem_word hascii message.severity
  have hnumber := forall_mem_integer hascii message.line
  simp only [Message.format, List.forall_mem_append]
  exact ⟨fun h => h.2, fun h => ⟨⟨⟨⟨⟨hopening, hword⟩, hline⟩, hnumber⟩, hcolon⟩, h⟩⟩

/-! ### Written values -/

namespace Json

/-- A character that is not written as it stands is one of ASCII, and so are all of its escape. -/
lemma forall_mem_writeChar (c : Char) : (∀ d ∈ writeChar c, P d) ↔ P c := by
  cases hc : isAscii c with
  | true =>
      have hescapes : ∀ n < 128, ∀ d ∈ writeChar (Char.ofNat n), isAscii d = true := by
        decide +kernel
      have hall := hescapes c.toNat (of_decide_eq_true hc)
      rw [Char.ofNat_toNat] at hall
      exact iff_of_true (fun d hd => hascii d (hall d hd)) (hascii c hc)
  | false =>
      have hlarge : ¬ c.toNat < 128 := of_decide_eq_false hc
      have hne : ∀ d : Char, d.toNat < 128 → c ≠ d := fun d hd heq => hlarge (heq ▸ hd)
      have hnot : ¬ c.toNat < 32 := fun h => hlarge (by omega)
      have hself : writeChar c = [c] := by
        rw [writeChar, if_neg (hne _ (by decide)), if_neg (hne _ (by decide)),
          if_neg (hne _ (by decide)), if_neg (hne _ (by decide)), if_neg (hne _ (by decide)),
          if_neg (hne _ (by decide)), if_neg (hne _ (by decide)), if_neg hnot]
      rw [hself, List.forall_mem_singleton]

lemma forall_mem_writeText (text : Text) : (∀ c ∈ writeText text, P c) ↔ ∀ c ∈ text, P c := by
  have hmark : P '"' := hascii _ (by decide)
  simp only [writeText, List.cons_append, List.forall_mem_cons, List.forall_mem_append,
    List.forall_mem_flatMap, forall_mem_writeChar hascii, hmark, true_and, and_true,
    List.not_mem_nil, false_implies, implies_true]

lemma forall_mem_newLine (level : Nat) : ∀ c ∈ newLine level, P c := by
  intro c hc
  rcases List.mem_cons.mp hc with rfl | hc
  · exact hascii _ (by decide)
  · exact List.eq_of_mem_replicate hc ▸ hascii _ (by decide)

lemma forall_mem_enclose {opening closing : Char} (hopening : isAscii opening = true)
    (hclosing : isAscii closing = true) (level : Nat) (parts : List Text) :
    (∀ c ∈ enclose opening closing level parts, P c) ↔ ∀ part ∈ parts, ∀ c ∈ part, P c := by
  have hline := forall_mem_newLine hascii (level + 1)
  have hseparator : ∀ c ∈ ',' :: newLine (level + 1), P c :=
    List.forall_mem_cons.mpr ⟨hascii _ (by decide), hline⟩
  cases parts with
  | nil => simp [enclose, hascii opening hopening, hascii closing hclosing]
  | cons part rest =>
      simp only [enclose, List.isEmpty_cons, Bool.false_eq_true, if_false, List.forall_mem_append,
        List.forall_mem_singleton, forall_mem_join hseparator]
      exact ⟨fun h => h.1.1.2, fun h => ⟨⟨⟨⟨hascii _ hopening, hline⟩, h⟩,
        forall_mem_newLine hascii level⟩, hascii _ hclosing⟩⟩

/-- The fields of a message other than its text are written in ASCII. -/
lemma forall_mem_toData (level : Nat) (message : Message) :
    (∀ c ∈ writeAt level message.toData, P c) ↔ ∀ c ∈ message.text, P c := by
  have hmember : ∀ name value, name.all isAscii = true →
      ((∀ c ∈ writeMember (level + 1) (name, value), P c)
        ↔ ∀ c ∈ writeAt (level + 1) value, P c) := by
    intro name value hname
    simp only [writeMember, List.forall_mem_append, forall_mem_writeText hascii]
    exact and_iff_right ⟨forall_mem_of_all hascii hname, forall_mem_of_all hascii (by decide)⟩
  rw [Message.toData, writeAt_obj, forall_mem_enclose hascii (by decide) (by decide)]
  simp only [List.forall_mem_map, List.mem_mergeSort, List.forall_mem_cons,
    hmember "severity" _ (by decide), hmember "line" _ (by decide), hmember "text" _ (by decide),
    writeAt, forall_mem_writeText hascii]
  exact ⟨fun h => h.2.2.1,
    fun h => ⟨forall_mem_word hascii _, forall_mem_integer hascii _, h, List.forall_mem_nil _⟩⟩

end Json

end

/-! ### Messages -/

variable (halves : Halves)

/-- No character of ASCII stands for a half. -/
lemma Halves.marks_of_isAscii {c : Char} (hc : isAscii c = true) : halves.marks c = false := by
  rw [marks, ← Bool.not_eq_true, Option.isSome_iff_exists]
  rintro ⟨n, hn⟩
  obtain ⟨hhalf, rfl⟩ := (halves.code?_eq_some c n).mp hn
  have hlarge := (halves.plain n hhalf).1
  have hsmall := of_decide_eq_true hc
  omega

namespace CommandLine

/-- **Messages can be written to a file** exactly if the text of each can be written as octets. -/
lemma fault?_writeMessages (messages : List Message) :
    halves.fault? (writeMessages messages) = none
      ↔ ∀ message ∈ messages, halves.fault? message.text = none := by
  have hascii := fun c => @Halves.marks_of_isAscii halves c
  have hbrackets : isAscii '[' = true ∧ isAscii ']' = true := by decide
  simp only [Halves.fault?_eq_none, writeMessages, Json.write, Json.writeAt_arr,
    List.forall_mem_append, List.forall_mem_singleton, hascii '\n' (by decide), and_true,
    List.forall_mem_map, Json.forall_mem_enclose hascii hbrackets.1 hbrackets.2,
    Json.forall_mem_toData hascii]

/-- **Messages can be written as lines** exactly if the text of each can be written as octets. -/
lemma fault?_messageLines (messages : List Message) :
    halves.fault? (messageLines messages) = none
      ↔ ∀ message ∈ messages, halves.fault? message.text = none := by
  have hascii := fun c => @Halves.marks_of_isAscii halves c
  simp only [Halves.fault?_eq_none, messageLines, List.forall_mem_flatMap, List.forall_mem_append,
    List.forall_mem_singleton, hascii '\n' (by decide), and_true, forall_mem_format hascii]

end CommandLine

end BlockTree
