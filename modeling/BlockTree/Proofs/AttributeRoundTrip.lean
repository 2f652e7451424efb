import BlockTree.Proofs.AttributeReadback

/-!
Attributes written into a tag and read again.

* `condense`: each name with a single value, its values joined with single blanks.
* `condense_eq_gathered`: what is gathered from the tokens of attributes with different names.
* `readList_serialize_iff`: attributes are read back if and only if no value has a double quote.
* `readList_serialize_of_keys`: and otherwise not the first value that has one, whatever follows it.
* `readList_serialize_of_list`: for the attributes of a list the quotes can only come from values in
  single quotes; `splitting_value` is a list whose one value is read back as two.
-/

namespace BlockTree.Attributes

/-- **The condensed attributes**: under each name its values, joined to one with single blanks. -/
def condense (attributes : Attributes) : Attributes :=
  attributes.map fun entry => (entry.1, [Text.join " " entry.2])

/-! ### Double quotes in values -/

/-- Joining with blanks adds no double quotes. -/
lemma quote_notMem_join {values : List Text} :
    '"' ∉ Text.join " " values ↔ ∀ value ∈ values, '"' ∉ value := by
  constructor
  · exact fun h value hvalue hc => h (Text.mem_join_of_mem hvalue hc)
  · intro h hc
    rcases Text.mem_join hc with hc | ⟨value, hvalue, hc⟩
    · exact absurd hc (by decide)
    · exact h value hvalue hc

/-- The first attribute with a double quote in a value, and the first double quote in it. -/
lemma exists_first_quoted {attributes : Attributes}
    (h : ¬ ∀ entry ∈ attributes, '"' ∉ Text.join " " entry.2) :
    ∃ front entry back before after, attributes = front ++ entry :: back
      ∧ (∀ other ∈ front, '"' ∉ Text.join " " other.2)
      ∧ '"' ∉ before ∧ Text.join " " entry.2 = before ++ '"' :: after := by
  induction attributes with
  | nil => exact absurd (List.forall_mem_nil _) h
  | cons entry rest ih =>
      by_cases hquote : '"' ∈ Text.join " " entry.2
      · obtain ⟨before, after, hvalue, hbefore⟩ := List.eq_append_cons_of_mem hquote
        exact ⟨[], entry, rest, before, after, rfl, List.forall_mem_nil _, hbefore, hvalue⟩
      · have hrest : ¬ ∀ other ∈ rest, '"' ∉ Text.join " " other.2 := fun hall =>
          h (List.forall_mem_cons.mpr ⟨hquote, hall⟩)
        obtain ⟨front, other, back, before, after, rfl, hfront, hfirst⟩ := ih hrest
        exact ⟨entry :: front, other, back, before, after, rfl,
          List.forall_mem_cons.mpr ⟨hquote, hfront⟩, hfirst⟩

/-! ### Attributes of tokens with different names -/

/-- Tokens with different names give each name its one value. -/
lemma gathered_of_nodup {tokens : List Token} (h : (tokens.map Token.name).Nodup) :
    gathered tokens = tokens.map fun token => (token.name, [token.value]) := by
  induction tokens using List.reverseRecOn with
  | nil => rfl
  | append_singleton tokens token ih =>
      rw [List.map_append, List.map_singleton, ← List.concat_eq_append, List.nodup_concat] at h
      have hnew : token.name ∉ (gathered tokens).names := by
        rw [names_gathered, List.mem_eraseDups]
        exact h.1
      rw [gathered_concat, Entries.append_of_notMem hnew, ih h.2, List.map_append,
        List.map_singleton]

lemma condense_eq_gathered {attributes : Attributes} (h : attributes.names.Nodup) :
    condense attributes = gathered (attributes.map tokenOf) := by
  have hnames : ((attributes.map tokenOf).map Token.name).Nodup := by
    rw [List.map_map]
    exact h
  rw [gathered_of_nodup hnames, List.map_map]
  rfl

/-- What holds of the values of all tokens holds of all values gathered from them. -/
lemma forall_gathered {P : Text → Prop} {tokens : List Token} :
    (∀ entry ∈ gathered tokens, ∀ value ∈ entry.2, P value) ↔ ∀ token ∈ tokens, P token.value := by
  constructor
  · intro h token htoken
    refine h (token.name, (tokens.filter fun t => t.name = token.name).map Token.value) ?_ _ ?_
    · exact List.mem_map.mpr
        ⟨token.name, List.mem_eraseDups.mpr (List.mem_map_of_mem htoken), rfl⟩
    · exact List.mem_map_of_mem (List.mem_filter.mpr ⟨htoken, by simp⟩)
  · intro h entry hentry value hvalue
    obtain ⟨name, -, rfl⟩ := List.mem_map.mp hentry
    obtain ⟨token, htoken, rfl⟩ := List.mem_map.mp hvalue
    exact h token (List.mem_filter.mp htoken).1

/-! ### Reading attributes back -/

/-- **Attributes under different keys are read back**, condensed and without complaints, if and only
if no value has a double quote in it. -/
theorem readList_serialize_iff {attributes : Attributes}
    (hkeys : ∀ entry ∈ attributes, IsKey entry.1) (hnodup : attributes.names.Nodup) :
    readList (serialize attributes) = ⟨condense attributes, []⟩
      ↔ ∀ entry ∈ attributes, ∀ value ∈ entry.2, '"' ∉ value := by
  simp only [← quote_notMem_join]
  constructor
  · intro h
    by_contra hquote
    obtain ⟨front, entry, back, before, after, rfl, hfront, hbefore, hvalue⟩ :=
      exists_first_quoted hquote
    obtain ⟨-, hcut⟩ := readList_serialize_quoted hkeys hnodup hfront hbefore hvalue
    rw [h] at hcut
    split at hcut
    · -- The value that is read back has no double quote, but the one that was written has.
      obtain ⟨more, hread⟩ := hcut
      obtain ⟨others, hcondensed⟩ :=
        exists_find?_gathered (tokenOf entry) (name_notMem_of_nodup hnodup) (back.map tokenOf)
      rw [condense_eq_gathered hnodup, List.map_append, List.map_cons] at hread
      have hsame : before = Text.join " " entry.2 :=
        (List.cons.inj (Option.some.inj (hread.symm.trans hcondensed))).1
      rw [hsame, hvalue] at hbefore
      exact hbefore (List.mem_append_right _ List.mem_cons_self)
    · exact hcut rfl
  · intro h
    have hpieces := pieces_serialize_append hkeys h []
    have hnil : pieces (serialize []) = [] := by rw [serialize, List.map_nil, Text.join, pieces]
    rw [List.append_nil, hnil, List.append_nil] at hpieces
    rw [readList_eq, unwrap_serialize hkeys, hpieces, filterMap_token?_map,
      filterMap_complaint?_map, condense_eq_gathered hnodup]

/-- **Attributes under different keys**, written and read: they come back condensed and without
complaints if and only if no value has a double quote in it. Otherwise the first value that has one
does not come back: up to there the values come first under their names, but this value is cut off at
its first double quote if white space follows, and if not, there is a complaint. -/
theorem readList_serialize_of_keys {attributes : Attributes}
    (hkeys : ∀ entry ∈ attributes, IsKey entry.1) (hnodup : attributes.names.Nodup) :
    (readList (serialize attributes) = ⟨condense attributes, []⟩
        ↔ ∀ entry ∈ attributes, ∀ value ∈ entry.2, '"' ∉ value)
    ∧ ∀ front entry back before after, attributes = front ++ entry :: back →
        (∀ other ∈ front, ∀ value ∈ other.2, '"' ∉ value) → '"' ∉ before →
        Text.join " " entry.2 = before ++ '"' :: after →
        (∀ other ∈ front, ∃ more, (readList (serialize attributes)).attributes.find? other.1
            = some (Text.join " " other.2 :: more))
        ∧ if after.head?.any Text.isBlank then
            ∃ more, (readList (serialize attributes)).attributes.find? entry.1
              = some (before :: more)
          else (readList (serialize attributes)).complaints ≠ [] := by
  refine ⟨readList_serialize_iff hkeys hnodup, ?_⟩
  rintro front entry back before after rfl hfront hbefore hvalue
  simp only [← quote_notMem_join] at hfront
  exact readList_serialize_quoted hkeys hnodup hfront hbefore hvalue

/-- Values with braces, apostrophes, equals signs and line feeds are read back, and so is a name
without values. A value that looks like the end of one attribute and the beginning of another is not.
-/
theorem readList_serialize_of_keys_braces :
    readList (serialize [("class", ["a", "b c"]), ("x-1", ["\x7b: y='z' \x7d", "\n"]), ("e", [])])
      = ⟨[("class", ["a b c"]), ("x-1", ["\x7b: y='z' \x7d \n"]), ("e", [[]])], []⟩
    ∧ ∃ more, (readList (serialize [("k", ["v"]), ("a", ["x\" b=\"y"])])).attributes.find? "a"
      = some ("x".toList :: more) := by
  have hkeys : ∀ entry ∈ ([("k", ["v"]), ("a", ["x\" b=\"y"])] : Attributes), IsKey entry.1 := by
    decide +kernel
  have hnodup : (Entries.names ([("k", ["v"]), ("a", ["x\" b=\"y"])] : Attributes)).Nodup := by
    decide +kernel
  constructor
  · exact (readList_serialize_of_keys (by decide +kernel) (by decide +kernel)).1.mpr
      (by decide +kernel)
  · exact ((readList_serialize_of_keys hkeys hnodup).2 [("k", ["v"])] ("a", ["x\" b=\"y"]) [] "x"
      " b=\"y" rfl (by decide) (by decide) (by decide)).2

/-! ### The attributes of a list -/

lemma Token.IsLegal.isKey {token : Token} (h : token.IsLegal) : IsKey token.name := by
  cases token with
  | cls _ => exact ⟨by simp [Token.name], by simp [Token.name]; decide⟩
  | id _ => exact ⟨by simp [Token.name], by simp [Token.name]; decide⟩
  | pair _ _ _ => exact h.1

lemma Spells.isLegal {tokens : List Token} {text : Text} (h : Spells tokens text) :
    ∀ token ∈ tokens, token.IsLegal := by
  induction h with
  | nil => exact nofun
  | cons _ hlegal _ _ ih => exact List.forall_mem_cons.mpr ⟨hlegal, ih⟩

lemma Written.isLegal {tokens : List Token} {raw : Text} (h : Written tokens raw) :
    ∀ token ∈ tokens, token.IsLegal := by
  rcases h with h | ⟨_, _, _, _, _, h, _⟩ <;> exact h.isLegal

/-- Only a value in single quotes can have a double quote in it. -/
lemma Token.IsLegal.eq_pair_single {token : Token} (h : token.IsLegal) (hquote : '"' ∈ token.value) :
    ∃ key, token = .pair key .single token.value := by
  cases token with
  | cls name => exact absurd (h.2 _ hquote) (by decide)
  | id name => exact absurd (h.2 _ hquote) (by decide)
  | pair key quoting value =>
      cases quoting with
      | double => exact absurd hquote h.2
      | single => exact ⟨key, rfl⟩
      | bare => exact absurd (h.2.2 _ hquote) (by decide)

/-- **The attributes of a list**, written into a tag, are read back, condensed and without
complaints, if and only if no value has a double quote in it; and that is so if and only if the list
has no such value in single quotes. -/
theorem readList_serialize_of_list (raw : Text) (h : (readList raw).complaints = []) :
    (readList (serialize (readList raw).attributes) = ⟨condense (readList raw).attributes, []⟩
        ↔ ∀ entry ∈ (readList raw).attributes, ∀ value ∈ entry.2, '"' ∉ value)
    ∧ ∀ tokens, Written tokens raw →
        ((∀ entry ∈ (readList raw).attributes, ∀ value ∈ entry.2, '"' ∉ value)
          ↔ ∀ key value, Token.pair key .single value ∈ tokens → '"' ∉ value) := by
  obtain ⟨tokens, hwritten⟩ := exists_written h
  rw [readList_of_written hwritten]
  constructor
  · refine readList_serialize_iff ?_ ?_
    · intro entry hentry
      obtain ⟨name, hname, rfl⟩ := List.mem_map.mp hentry
      obtain ⟨token, htoken, rfl⟩ := List.mem_map.mp (List.mem_eraseDups.mp hname)
      exact (hwritten.isLegal token htoken).isKey
    · rw [names_gathered]
      exact nodup_eraseDups _
  · intro others hothers
    rw [hwritten.unique hothers, forall_gathered (P := fun value => '"' ∉ value)]
    constructor
    · exact fun hall key value hmem => hall _ hmem
    · intro hall token htoken hquote
      obtain ⟨key, heq⟩ := (hwritten.isLegal token htoken).eq_pair_single hquote
      exact hall key token.value (heq ▸ htoken) hquote

/-- A list with two classes and a value in single quotes is read back with one value per name. -/
theorem readList_serialize_of_list_classes :
    (readList ".a k='it is' .b").complaints = []
    ∧ readList (serialize (readList ".a k='it is' .b").attributes)
      = ⟨[("class", ["a b"]), ("k", ["it is"])], []⟩ := by
  have hlegal : (readList ".a k='it is' .b").complaints = [] := by decide +kernel
  have hquotes : ∀ entry ∈ (readList ".a k='it is' .b").attributes, ∀ value ∈ entry.2,
      '"' ∉ value := by
    decide +kernel
  refine ⟨hlegal, ((readList_serialize_of_list ".a k='it is' .b" hlegal).1.mpr hquotes).trans ?_⟩
  decide +kernel

/-- **A double quote in single quotes splits the value**: a list of one attribute without complaints
is written so that it is read back as two. -/
theorem splitting_value :
    readList "a='x\" b=\"y'" = ⟨[("a", ["x\" b=\"y"])], []⟩
    ∧ readList (serialize (readList "a='x\" b=\"y'").attributes)
      = ⟨[("a", ["x"]), ("b", ["y"])], []⟩
    ∧ readList (serialize (readList "a='x\" b=\"y'").attributes)
      ≠ ⟨condense (readList "a='x\" b=\"y'").attributes, []⟩ := by
  decide +kernel

end BlockTree.Attributes
