import BlockTree.Proofs.AttributeGrammar
import BlockTree.Render.Footnote
import Mathlib.Tactic

/-!
Attribute lists of a single token.

* `readList_identifier`: an identifier alone is a legal list;
* `complaints_noteId`: the identifier of a note is one, whatever the number of the note.
-/

namespace BlockTree

/-! ### An identifier alone -/

namespace Attributes

lemma Token.isIdChar_of_isDigit {c : Char} (h : c.isDigit = true) : isIdChar c = true := by
  simp [isIdChar, isNameChar, Text.isWord, Char.isAlphanum, h]

/-- **An identifier alone** is a legal list. -/
lemma readList_identifier {name : Text} (hne : name ≠ [])
    (h : ∀ c ∈ name, Token.isIdChar c = true) :
    readList ('#' :: name) = ⟨[("id", [name])], []⟩ := by
  have hspells : Spells [.id name] ([] ++ (Token.id name).source ++ []) :=
    .cons nofun ⟨hne, h⟩ rfl (.nil nofun)
  rw [List.nil_append, List.append_nil] at hspells
  have hread := readList_of_written (Or.inl hspells)
  rwa [gathered, List.map_singleton, List.eraseDups_cons] at hread

end Attributes

/-! ### The identifier of a note -/

lemma isIdChar_of_mem_noteId {number : Int} {c : Char} (h : c ∈ Markup.noteId number) :
    Attributes.Token.isIdChar c = true := by
  rw [Markup.noteId, List.mem_append] at h
  rcases h with h | h
  · have hfn : c = 'f' ∨ c = 'n' ∨ c = ':' := by simpa using h
    rcases hfn with rfl | rfl | rfl <;> decide
  · rcases Text.mem_integer h with rfl | h
    · decide
    · exact Attributes.Token.isIdChar_of_isDigit h

/-- The identifier of a note is read as one attribute of its item. -/
lemma readList_noteId (number : Int) :
    Attributes.readList ("#" ++ Markup.noteId number) = ⟨[("id", [Markup.noteId number])], []⟩ := by
  have hne : Markup.noteId number ≠ [] := by
    rw [Markup.noteId]
    exact List.append_ne_nil_of_left_ne_nil (by decide) _
  exact Attributes.readList_identifier hne fun c hc => isIdChar_of_mem_noteId hc

/-- The attributes of the item of a note can always be read. -/
lemma complaints_noteId (number : Int) :
    (Attributes.readList ("#" ++ Markup.noteId number)).complaints = [] := by
  rw [readList_noteId]

end BlockTree
