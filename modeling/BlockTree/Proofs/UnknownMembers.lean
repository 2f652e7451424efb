import BlockTree.Proofs.DocumentParts
import Mathlib.Logic.Relation

/-!
Members that no check reads.

* `Role.memberNames`: the names of the members of a part that are read in its role;
  `Role.ofMembers_congr`: what is read depends on these members only, and on the list of parts only
  through what is read from these.
* `AddsMember`: a member of another name is added to a part, or to a part within it at any depth;
  `AddsMember.check_eq` and `check_eq_of_adds`: what is read stays the same, also after any number of
  such additions.
-/

namespace BlockTree

/-- The names of the members that only blocks of some kinds have. -/
def BlockKind.ownNames : BlockKind → List Text
  | heading => ["level", "content"]
  | quote => ["blocks"]
  | code => ["lines", "language"]
  | ruler => ["type"]
  | list => ["type", "blocks"]
  | item => ["type", "blocks", "spaced"]
  | table => ["header", "rows", "alignments"]
  | html => ["html"]
  | htmlOther => ["html"]
  | footnotes => ["blocks"]
  | attributeList => ["content"]
  | linkTarget => ["id", "url", "title"]
  | plugin => ["lines", "handler"]
  | para => ["lines"]

/-- **The names of the members of a kind.** -/
def BlockKind.memberNames (kind : BlockKind) : List Text :=
  (["kind", "attrs", "lnb"] : List Text) ++ kind.ownNames

namespace Schema

/-- The kind that some members are tagged with. -/
def taggedKind? (members : List (Text × Data)) : Option BlockKind :=
  match Entries.find? "kind" members with
  | some (.str word) => BlockKind.ofWord? word
  | _ => none

/-- **The names of the members that are read** from a part in its role. Of a block without a valid tag,
only the tag is. -/
def Role.memberNames (members : List (Text × Data)) : Role → List Text
  | .document => ["blocks"]
  | .note => ["id", "number", "blocks"]
  | .block =>
    match taggedKind? members with
    | some kind => kind.memberNames
    | none => ["kind"]

lemma kind_mem_memberNames (members : List (Text × Data)) :
    "kind".toList ∈ Role.block.memberNames members := by
  rw [Role.memberNames]
  split
  · exact List.mem_append_left _ List.mem_cons_self
  · exact List.mem_cons_self

lemma memberNames_block {members : List (Text × Data)} {kind : BlockKind}
    (h : Entries.find? "kind" members = some (.str kind.word)) :
    Role.block.memberNames members = kind.memberNames := by
  have htagged : taggedKind? members = some kind := by
    rw [taggedKind?, h]
    cases kind <;> rfl
  rw [Role.memberNames, htagged]

/-- The list of the parts that a part holds is read. -/
lemma Holds.blocks_mem {role inner : Role} {members : List (Text × Data)} {path : List Step}
    (h : Holds role members path inner) : "blocks".toList ∈ role.memberNames members := by
  cases h with
  | document => exact List.mem_singleton_self _
  | note => exact List.mem_cons_of_mem _ (List.mem_cons_of_mem _ (List.mem_singleton_self _))
  | @block _ kind _ htag hinner =>
      rw [memberNames_block htag]
      cases kind with
      | quote => decide
      | list => decide
      | item => decide
      | footnotes => decide
      | _ => cases hinner

/-! ### What is read -/

variable (registry : Registry)

section

variable {members others : List (Text × Data)}

lemma leafBlock_congr {kind : BlockKind} (hleaf : heldRole? kind = none)
    (h : ∀ name ∈ kind.memberNames, name ≠ "blocks".toList →
      Entries.find? name others = Entries.find? name members) :
    leafBlock registry kind others = leafBlock registry kind members := by
  cases kind with
  | quote => cases hleaf
  | list => cases hleaf
  | item => cases hleaf
  | footnotes => cases hleaf
  | _ =>
      simp (disch := decide) only [leafBlock, head, textLines, textOrEmpty, textOrNone, rulerMark, grid,
        Check.default, Check.required, Check.member, h]

/-- A block of a kind is read from the members of the kind, and from what is read from its parts. -/
lemma blockOf_congr {kind : BlockKind}
    (h : ∀ name ∈ kind.memberNames, name ≠ "blocks".toList →
      Entries.find? name others = Entries.find? name members)
    (hparts : ∀ inner, heldRole? kind = some inner →
      Check.default others "blocks" [] (list (inner.check registry))
        = Check.default members "blocks" [] (list (inner.check registry))) :
    blockOf registry kind others = blockOf registry kind members := by
  have hhead : head others = head members :=
    head_congr (h _ (by cases kind <;> decide) (by decide)) (h _ (by cases kind <;> decide) (by decide))
  cases hinner : heldRole? kind with
  | none =>
      rw [blockOf_eq_leafBlock registry hinner, blockOf_eq_leafBlock registry hinner,
        leafBlock_congr registry hinner h]
  | some inner =>
      have hblocks := hparts inner hinner
      cases kind with
      | quote =>
          cases hinner
          rw [blockOf, blockOf, blocksIn_eq, blocksIn_eq, hhead, hblocks]
      | list =>
          cases hinner
          have hkind : listKind others = listKind members :=
            Check.default_congr (h _ (by decide) (by decide))
          rw [blockOf, blockOf, blocksIn_eq, blocksIn_eq, hhead, hkind, hblocks]
      | item =>
          cases hinner
          have hkind : listKind others = listKind members :=
            Check.default_congr (h _ (by decide) (by decide))
          have hspaced : Check.default others "spaced" true boolean
              = Check.default members "spaced" true boolean :=
            Check.default_congr (h _ (by decide) (by decide))
          rw [blockOf, blockOf, blocksIn_eq, blocksIn_eq, hhead, hkind, hblocks, hspaced]
      | footnotes =>
          cases hinner
          rw [blockOf, blockOf, notesIn_eq, notesIn_eq, hhead, hblocks]
      | _ => cases hinner

/-- **A part is read from the members of its role**, and from what is read from its parts. -/
theorem Role.ofMembers_congr {role : Role}
    (h : ∀ name ∈ role.memberNames members, name ≠ "blocks".toList →
      Entries.find? name others = Entries.find? name members)
    (hparts : ∀ path inner, Holds role members path inner →
      Check.default others "blocks" [] (list (inner.check registry))
        = Check.default members "blocks" [] (list (inner.check registry))) :
    role.ofMembers registry others = role.ofMembers registry members := by
  cases role with
  | document =>
      rw [ofMembers, blocksIn_eq, blocksIn_eq, hparts _ _ (.document members)]
  | note =>
      have hid : textOrNone others "id" = textOrNone members "id" :=
        Check.default_congr (h _ (by simp [memberNames]) (by decide))
      have hnumber : Check.required others "number" (integerFrom 1)
          = Check.required members "number" (integerFrom 1) :=
        Check.required_congr (h _ (by simp [memberNames]) (by decide))
      rw [ofMembers, noteOf, noteOf, blocksIn_eq, blocksIn_eq, hid, hnumber,
        hparts _ _ (.note members)]
  | block =>
      have htag : Entries.find? "kind" others = Entries.find? "kind" members :=
        h _ (kind_mem_memberNames members) (by decide)
      rcases taggedBlock_cases registry members with ⟨kind, hkind⟩ | ⟨violation, hrefused⟩
      · have hsame := blockOf_congr registry (memberNames_block hkind ▸ h) fun inner hinner =>
          hparts _ inner (.block hkind hinner)
        rw [ofMembers, taggedBlock_eq registry hkind,
          taggedBlock_eq registry (htag.trans hkind), hsame]
      · exact (hrefused others htag).trans (hrefused members rfl).symm

end

/-! ### Added members -/

/-- **A member that is not read is added** to a part, or to a part within it at any depth. -/
inductive AddsMember : Role → Data → Data → Prop where
  | here {role : Role} {value other : Data} {front back : List (Text × Data)} {name : Text}
      {data : Data} (hvalue : value.members? = some (front ++ back))
      (hother : other.members? = some (front ++ (name, data) :: back))
      (hname : name ∉ role.memberNames (front ++ back)) : AddsMember role value other
  | inside {role inner : Role} {value other part changed : Data} {members : List (Text × Data)}
      {path : List Step} {before after : List Data} (hvalue : value.members? = some members)
      (hholds : Holds role members path inner)
      (hblocks : Entries.find? "blocks" members = some (.arr (before ++ part :: after)))
      (hpart : AddsMember inner part changed)
      (hother : other.members?
        = some (Entries.insert "blocks" (.arr (before ++ changed :: after)) members)) :
      AddsMember role value other

/-- **An added member does not change what is read.** -/
lemma AddsMember.check_eq {role : Role} {value other : Data} (h : AddsMember role value other) :
    role.check registry other = role.check registry value := by
  induction h with
  | @here role _ _ front back name data hvalue hother hname =>
      have hsame : ∀ key ∈ role.memberNames (front ++ back),
          Entries.find? key (front ++ (name, data) :: back) = Entries.find? key (front ++ back) :=
        fun key hkey => Entries.find?_append_cons_of_ne front back
          (fun heq : name = key => hname (heq ▸ hkey)) data
      rw [Role.check_of_members registry hvalue, Role.check_of_members registry hother]
      exact Role.ofMembers_congr registry (fun key hkey _ => hsame key hkey)
        fun _ _ hholds => Check.default_congr (hsame _ hholds.blocks_mem)
  | @inside _ inner _ _ part changed members _ before after hvalue hholds hblocks _ hother ih =>
      rw [Role.check_of_members registry hvalue, Role.check_of_members registry hother]
      refine Role.ofMembers_congr registry (fun key _ hkey => ?_) fun way held hheld => ?_
      · rw [Entries.find?_insert, if_neg hkey]
      · obtain ⟨-, rfl⟩ := hholds.unique hheld
        have hsame : (before ++ changed :: after).map (held.check registry)
            = (before ++ part :: after).map (held.check registry) := by
          rw [List.map_append, List.map_append, List.map_cons, List.map_cons, ih]
        rw [Check.default, Check.default, Check.member, Check.member, Entries.find?_insert, if_pos rfl,
          hblocks]
        exact congrArg (Check.within (.name "blocks")) (Check.items_congr hsame 0)

/-- **Any number of added members** do not change what is read. -/
theorem check_eq_of_adds {role : Role} {value other : Data}
    (h : Relation.ReflTransGen (AddsMember role) value other) :
    role.check registry other = role.check registry value := by
  induction h with
  | refl => rfl
  | tail _ hadds ih => rw [hadds.check_eq, ih]

end Schema

end BlockTree
