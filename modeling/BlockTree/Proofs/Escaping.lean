import BlockTree.Entity
import Mathlib.Tactic

/-!
Escaped text.

* `Entity.isInert`: characters that neither begin nor end a tag or a quoted value.
* `Entity.isInert_of_mem_escape`: escaping leaves no other characters, whichever ampersands it
  escapes.
-/

namespace BlockTree.Entity

/-- An inert character: neither `<` nor `>` nor a quotation mark. -/
def isInert (c : Char) : Bool :=
  c ≠ '<' && c ≠ '>' && c ≠ '"' && c ≠ '\x27'

lemma isInert_of_mem_ofSpecial {c d : Char} (h : d ∈ ofSpecial c) : isInert d = true := by
  have href : ∀ reference ∈ ["&lt;".toList, "&gt;".toList, "&quot;".toList, "&#39;".toList],
      ∀ d ∈ reference, isInert d = true := by decide
  simp only [List.forall_mem_cons] at href
  obtain ⟨hlt, hgt, hquot, hapos, -⟩ := href
  rw [ofSpecial] at h
  split at h
  · exact hlt d h
  · split at h
    · exact hgt d h
    · split at h
      · exact hquot d h
      · split at h
        · exact hapos d h
        · obtain rfl := List.mem_singleton.mp h
          simp_all [isInert]

/-- **Escaped text is inert**. -/
lemma isInert_of_mem_escape {every : Bool} {text : Text} {c : Char} (h : c ∈ escape every text) :
    isInert c = true := by
  obtain ⟨d, -, hc⟩ := List.mem_flatMap.mp h
  exact isInert_of_mem_ofSpecial hc

end BlockTree.Entity
