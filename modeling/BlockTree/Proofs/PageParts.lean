import BlockTree.Page
import BlockTree.Proofs.References
import Mathlib.Data.List.Infix
import Mathlib.Tactic

/-!
What a page says about its language, its title and its body.

* `Text.FirstCut` and `Text.LastCut`: the parts of a text around the first or the last occurrence of
  a mark, of which there are no others.
* `Text.Misses`: no occurrence of a mark begins in a text, whatever follows it; so the first one is
  behind it.
* `Page.Says`: what is read off a page by the marks of its elements.
* `Page.render_determines`: a page says exactly what it was made from, so that different languages,
  titles or bodies give different pages.
-/

namespace BlockTree

namespace Text

/-! ### Parts around a mark -/

/-- **The parts around the first occurrence** of a mark. -/
structure FirstCut (mark text before after : Text) : Prop where
  eq : text = before ++ (mark ++ after)
  first : ∀ front back, text = front ++ (mark ++ back) → before.length ≤ front.length

/-- **The parts around the last occurrence** of a mark. -/
structure LastCut (mark text before after : Text) : Prop where
  eq : text = before ++ (mark ++ after)
  last : ∀ front back, text = front ++ (mark ++ back) → front.length ≤ before.length

variable {mark text before after before' after' : Text}

lemma eq_of_cuts (h : before ++ (mark ++ after) = before' ++ (mark ++ after'))
    (hlength : before.length = before'.length) : before = before' ∧ after = after' := by
  obtain ⟨hbefore, hrest⟩ := List.append_inj h hlength
  exact ⟨hbefore, List.append_cancel_left hrest⟩

lemma FirstCut.unique (h : FirstCut mark text before after)
    (h' : FirstCut mark text before' after') : before = before' ∧ after = after' :=
  eq_of_cuts (h.eq.symm.trans h'.eq)
    (Nat.le_antisymm (h.first before' after' h'.eq) (h'.first before after h.eq))

lemma LastCut.unique (h : LastCut mark text before after)
    (h' : LastCut mark text before' after') : before = before' ∧ after = after' :=
  eq_of_cuts (h.eq.symm.trans h'.eq)
    (Nat.le_antisymm (h'.last before after h.eq) (h.last before' after' h'.eq))

/-- A mark at the end of a text is its last occurrence there. -/
lemma lastCut_end (mark before : Text) : LastCut mark (before ++ mark) before [] where
  eq := by rw [List.append_nil]
  last := by
    intro front back h
    have hlength := congrArg List.length h
    simp only [List.length_append] at hlength
    omega

/-! ### Where no mark begins -/

/-- **No occurrence of the mark begins in the text**, whatever follows. -/
def Misses (mark text : Text) : Prop :=
  ∀ back, back <:+ text → back ≠ [] → ∀ rest, ¬ mark <+: back ++ rest

lemma Misses.append {front back : Text} (hfront : Misses mark front) (hback : Misses mark back) :
    Misses mark (front ++ back) := by
  intro tail htail hne rest hstart
  rcases Nat.le_total tail.length back.length with hle | hle
  · exact hback tail (List.suffix_of_suffix_length_le htail (List.suffix_append front back) hle) hne
      rest hstart
  · obtain ⟨part, rfl⟩ := List.suffix_of_suffix_length_le (List.suffix_append front back) htail hle
    obtain ⟨before, hbefore⟩ := htail
    rw [← List.append_assoc, List.append_cancel_right_eq] at hbefore
    rcases eq_or_ne part [] with rfl | hpart
    · exact hback back (List.suffix_refl back) hne rest hstart
    · rw [List.append_assoc] at hstart
      exact hfront part ⟨before, hbefore⟩ hpart (back ++ rest) hstart

/-- A mark does not begin where its first character does not stand. -/
lemma misses_of_notMem {c : Char} (h : c ∉ text) : Misses (c :: mark) text := by
  intro back hback hne rest hstart
  obtain ⟨d, back, rfl⟩ := List.exists_cons_of_ne_nil hne
  obtain ⟨rfl, -⟩ := List.cons_prefix_cons.mp hstart
  exact h (hback.mem List.mem_cons_self)

/-- In a given text it is enough to look at its ends: neither is one the beginning of the mark, nor
the mark the beginning of one. -/
lemma misses_of_tails (h : ∀ back ∈ text.tails, back = [] ∨ ¬ back <+: mark ∧ ¬ mark <+: back) :
    Misses mark text := by
  intro back hback hne rest hstart
  obtain ⟨hshort, hlong⟩ := (h back ((List.mem_tails back text).mpr hback)).resolve_left hne
  exact (List.prefix_or_prefix_of_prefix hstart (List.prefix_append back rest)).elim hlong hshort

/-- **Behind a text in which the mark does not begin** stands its first occurrence. -/
lemma Misses.firstCut (h : Misses mark before) (after : Text) :
    FirstCut mark (before ++ (mark ++ after)) before after where
  eq := rfl
  first := by
    intro front back heq
    by_contra hlt
    obtain ⟨tail, htail⟩ : front <+: before :=
      List.prefix_of_prefix_length_le ⟨_, heq.symm⟩ (List.prefix_append _ _) (by omega)
    have hne : tail ≠ [] := by
      rintro rfl
      rw [List.append_nil] at htail
      exact hlt (htail ▸ Nat.le_refl _)
    refine h tail ⟨front, htail⟩ hne (mark ++ after) ⟨back, ?_⟩
    rw [← htail, List.append_assoc] at heq
    exact (List.append_cancel_left heq).symm

end Text

namespace Page

open Text

/-! ### Escaping -/

/-- The special characters with the references that stand for them in a page. -/
def specials : Entity.ReferenceTable where
  entries := [('&', "&amp;"), ('<', "&lt;"), ('>', "&gt;"), ('\x27', "&#39;"), ('"', "&#34;")]
  ampersand_mem := by decide
  reference := by decide
  apart := by decide

lemma escape_eq_encode (text : Text) : escape text = specials.encode text := by
  refine List.flatMap_congr fun c _ => ?_
  rw [escapeChar]
  split_ifs with hamp hlt hgt hapos hquot
  · rw [hamp]
    rfl
  · rw [hlt]
    rfl
  · rw [hgt]
    rfl
  · rw [hapos]
    rfl
  · rw [hquot]
    rfl
  · have hnone : c ∉ specials.entries.map Prod.fst := by
      simp [specials, hamp, hlt, hgt, hapos, hquot]
    rw [Entity.ReferenceTable.write_of_notMem hnone]

/-- **Escaped text is inert**: it has none of the characters that end an element or an attribute. -/
lemma isInert_of_mem_escape {text : Text} {c : Char} (h : c ∈ escape text) :
    Entity.isInert c = true := by
  have hrefs : ∀ entry ∈ specials.entries, ∀ d ∈ entry.2, Entity.isInert d = true := by decide
  have hkept : ∀ d, d ∉ specials.entries.map Prod.fst → Entity.isInert d = true := by
    intro d hd
    simp [specials] at hd
    simp [Entity.isInert, hd]
  rw [escape_eq_encode] at h
  obtain ⟨d, -, hc⟩ := List.mem_flatMap.mp h
  by_cases hd : d ∈ specials.entries.map Prod.fst
  · obtain ⟨entry, hentry, hwrite⟩ := Entity.ReferenceTable.exists_write_of_mem hd
    exact hrefs entry hentry c (hwrite ▸ hc)
  · rw [Entity.ReferenceTable.write_of_notMem hd, List.mem_singleton] at hc
    exact hc ▸ hkept d hd

lemma notMem_escape {c : Char} (hc : Entity.isInert c = false) (text : Text) : c ∉ escape text := by
  intro h
  rw [isInert_of_mem_escape h] at hc
  cases hc

/-! ### The parts of a page -/

/-- **What is read off a page.** The language stands between the first `<html lang="` and the next
quotation mark, the title between the first `<title>` and the first `</title>`; both are read
reference by reference. The body stands as it is between the next line `<body>` and the last
`</body>` and `</html>`, with which the page ends. -/
structure Says (page lang title body : Text) : Prop where
  lang : ∃ front opened written closed, FirstCut "<html lang=\"" page front opened
    ∧ FirstCut "\"" opened written closed ∧ specials.decode written = lang
  title_body : ∃ front opened written closed line inner, FirstCut "<title>" page front opened
    ∧ FirstCut "</title>" page (front ++ ("<title>" ++ written)) closed
    ∧ specials.decode written = title
    ∧ FirstCut "<body>\n" closed line inner ∧ LastCut "\n</body>\n</html>" inner body []

/-- A page says one thing at most. -/
lemma Says.unique {page lang title body lang' title' body' : Text} (h : Says page lang title body)
    (h' : Says page lang' title' body') : lang = lang' ∧ title = title' ∧ body = body' := by
  obtain ⟨⟨front, opened, written, closed, hopen, hclose, rfl⟩, hrest⟩ := h
  obtain ⟨⟨front', opened', written', closed', hopen', hclose', rfl⟩, hrest'⟩ := h'
  obtain ⟨-, rfl⟩ := hopen.unique hopen'
  obtain ⟨rfl, -⟩ := hclose.unique hclose'
  refine ⟨rfl, ?_⟩
  obtain ⟨front, opened, written, closed, line, inner, htitle, hend, rfl, hbody, hlast⟩ := hrest
  obtain ⟨front', opened', written', closed', line', inner', htitle', hend', rfl, hbody', hlast'⟩ :=
    hrest'
  obtain ⟨rfl, -⟩ := htitle.unique htitle'
  obtain ⟨hwritten, rfl⟩ := hend.unique hend'
  obtain rfl := List.append_cancel_left (List.append_cancel_left hwritten)
  obtain ⟨-, rfl⟩ := hbody.unique hbody'
  exact ⟨rfl, (hlast.unique hlast').1⟩

section

variable (lang title body : Text)

/-- The page between the language and the title. -/
def heading : Text :=
  ">\n<head>\n  <meta charset=\"utf-8\">\n  "

/-- The page up to the title. -/
def opening : Text :=
  "<!DOCTYPE html>\n" ++ ("<html lang=\"" ++ (escape lang ++ ("\"" ++ heading)))

/-- The page behind the title. -/
def closing : Text :=
  "\n</head>\n" ++ ("<body>\n" ++ (body ++ "\n</body>\n</html>"))

lemma render_eq :
    render lang title body
      = opening lang ++ ("<title>" ++ (escape title ++ ("</title>" ++ closing body))) := by
  have hlang : ("<!DOCTYPE html>\n<html lang=\"" : Text)
      = ("<!DOCTYPE html>\n" : Text) ++ ("<html lang=\"" : Text) := by decide
  have htitle : ("\">\n<head>\n  <meta charset=\"utf-8\">\n  <title>" : Text)
      = ("\"" : Text) ++ (heading ++ ("<title>" : Text)) := by decide
  have hbody : ("</title>\n</head>\n<body>\n" : Text)
      = ("</title>" : Text) ++ (("\n</head>\n" : Text) ++ ("<body>\n" : Text)) := by decide
  unfold render opening closing
  rw [hlang, htitle, hbody]
  simp only [List.append_assoc]

lemma opening_append (rest : Text) :
    opening lang ++ rest = "<!DOCTYPE html>\n"
      ++ ("<html lang=\"" ++ (escape lang ++ ("\"" ++ (heading ++ rest)))) := by
  unfold opening
  simp only [List.append_assoc]

/-- The mark of a tag begins in front of the title only if it does so in the text around the
language, which has no tag itself. -/
lemma misses_opening {mark : Text}
    (hfixed : ∀ piece ∈ [("<!DOCTYPE html>\n" : Text), "<html lang=\"", "\"", heading],
      Misses ('<' :: mark) piece) :
    Misses ('<' :: mark) (opening lang) := by
  simp only [List.forall_mem_cons] at hfixed
  obtain ⟨hdoctype, hopen, hquote, hheading, -⟩ := hfixed
  have hescape : Misses ('<' :: mark) (escape lang) := misses_of_notMem (notMem_escape rfl lang)
  unfold opening
  exact hdoctype.append (hopen.append (hescape.append (hquote.append hheading)))

/-- **A page says what it was made from**, whatever marks stand in the body. -/
lemma says_render : Says (render lang title body) lang title body := by
  have hdecode : ∀ text, specials.decode (escape text) = text := fun text => by
    rw [escape_eq_encode, specials.decode_encode]
  constructor
  · -- Nothing in front of the language is like its mark, and it has itself no quotation mark.
    rw [render_eq, opening_append]
    have hfront : Misses "<html lang=\"" "<!DOCTYPE html>\n" := misses_of_tails (by decide)
    have hwritten : Misses "\"" (escape lang) := misses_of_notMem (notMem_escape rfl lang)
    exact ⟨_, _, escape lang, _, hfront.firstCut _, hwritten.firstCut _, hdecode lang⟩
  · rw [render_eq]
    have hopen : Misses "<title>" (opening lang) :=
      misses_opening lang fun piece hpiece => misses_of_tails (by revert piece; decide)
    have hclose : Misses "</title>" (opening lang) :=
      misses_opening lang fun piece hpiece => misses_of_tails (by revert piece; decide)
    have hmark : Misses "</title>" "<title>" := misses_of_tails (by decide)
    have htitle : Misses "</title>" (escape title) := misses_of_notMem (notMem_escape rfl title)
    have hwritten : Misses "</title>" (opening lang ++ ("<title>" ++ escape title)) :=
      hclose.append (hmark.append htitle)
    have hend := hwritten.firstCut (closing body)
    simp only [List.append_assoc] at hend
    have hline : Misses "<body>\n" "\n</head>\n" := misses_of_tails (by decide)
    exact ⟨opening lang, _, escape title, closing body, _, _, hopen.firstCut _, hend, hdecode title,
      hline.firstCut _, lastCut_end _ body⟩

end

/-- **A page determines its language, its title and its body.** The marks of its elements lead to
these three and to no others, so that pages made from different ones differ. No language and no
title ends its attribute or its element: where they are written, they have neither a quotation mark
nor an angle bracket. -/
theorem render_determines (lang title body : Text) :
    (∀ lang' title' body', Says (render lang title body) lang' title' body'
        ↔ lang' = lang ∧ title' = title ∧ body' = body)
    ∧ (∀ lang' title' body', render lang title body = render lang' title' body'
        ↔ lang = lang' ∧ title = title' ∧ body = body')
    ∧ (escape lang).all Entity.isInert = true ∧ (escape title).all Entity.isInert = true := by
  have hinert : ∀ text, (escape text).all Entity.isInert = true := fun text =>
    List.all_eq_true.mpr fun _ hc => isInert_of_mem_escape hc
  refine ⟨fun lang' title' body' => ⟨fun h => ?_, ?_⟩, fun lang' title' body' => ⟨fun h => ?_, ?_⟩,
    hinert lang, hinert title⟩
  · exact h.unique (says_render lang title body)
  · rintro ⟨rfl, rfl, rfl⟩
    exact says_render lang' title' body'
  · have hsays := says_render lang' title' body'
    rw [← h] at hsays
    exact (says_render lang title body).unique hsays
  · rintro ⟨rfl, rfl, rfl⟩
    rfl

end Page

end BlockTree
