import BlockTree.Proofs.DocumentParts

/-!
Where the issues of a document come from.

* `Joins`: the issues of a part stand in one run among those of the whole, below the path to the part,
  and no other issue is below that path; `Joins.trans` goes to parts of parts.
* `Data.withoutParts`: a part with an empty list of parts.
* `Holds.frame`: a part reports its own issues, whatever parts it lists, and those of the parts between
  them.
* `joins_of_lists` and `joins_of_within`: so the issues of listed parts, and of a part at any depth,
  are joined with others to those of the whole.
* `document_issues`: for a document these together, and that it is read exactly if its blocks are.
-/

namespace BlockTree

/-- The value with an empty list in place of the parts that it lists. -/
def Data.withoutParts : Data → Data
  | .obj members => .obj (Entries.insert "blocks" (.arr []) members)
  | .mixed members others => .mixed (Entries.insert "blocks" (.arr []) members) others
  | value => value

namespace Schema

/-! ### Issues below a path -/

/-- **Issues of a part joined with others** to those of the whole: in one run, below the path to the
part, and no other issue is below it. -/
def Joins (path : List Step) (inner own outer : List Issue) : Prop :=
  ∃ before after, own = before ++ after
    ∧ outer = before ++ inner.map (Issue.under path) ++ after
    ∧ ∀ issue ∈ own, ¬ path <+: issue.path

lemma Joins.refl (issues : List Issue) : Joins [] issues [] issues := by
  refine ⟨[], [], rfl, ?_, nofun⟩
  rw [List.nil_append, List.append_nil]
  exact (List.map_id issues).symm

/-- The issues of a part of a part are joined to those of the whole. -/
lemma Joins.trans {front back : List Step} {inner own middle beside outer : List Issue}
    (hmiddle : Joins front middle beside outer) (hinner : Joins back inner own middle) :
    ∃ rest, Joins (front ++ back) inner rest outer := by
  obtain ⟨before, after, rfl, rfl, hbeside⟩ := hmiddle
  obtain ⟨first, last, rfl, rfl, hown⟩ := hinner
  have hunder : ∀ issue ∈ (first ++ last).map (Issue.under front),
      ¬ front ++ back <+: issue.path := by
    intro issue hissue hstart
    obtain ⟨inside, hinside, rfl⟩ := List.mem_map.mp hissue
    exact hown inside hinside ((List.prefix_append_right_inj front).mp hstart)
  rw [List.map_append, List.forall_mem_append] at hunder
  rw [List.forall_mem_append] at hbeside
  have hshort : ∀ issue : Issue, ¬ front <+: issue.path → ¬ front ++ back <+: issue.path :=
    fun issue h hstart => h ((List.prefix_append front back).trans hstart)
  refine ⟨_, before ++ first.map (Issue.under front), last.map (Issue.under front) ++ after, rfl,
    ?_, ?_⟩
  · have hpath : (inner.map (Issue.under back)).map (Issue.under front)
        = inner.map (Issue.under (front ++ back)) := by
      rw [List.map_map]
      exact List.map_congr_left fun issue _ => Issue.under_under front back issue
    rw [List.map_append, List.map_append, hpath]
    simp only [List.append_assoc]
  · simp only [List.forall_mem_append]
    exact ⟨⟨fun issue h => hshort issue (hbeside.1 issue h), hunder.1⟩,
      hunder.2, fun issue h => hshort issue (hbeside.2 issue h)⟩

/-- **Issues beside the parts**: none of them is below the list of parts. -/
def Beside (issues : List Issue) : Prop :=
  ∀ issue ∈ issues, ¬ [.name "blocks"] <+: issue.path

lemma Beside.append {front back : List Issue} (hfront : Beside front) (hback : Beside back) :
    Beside (front ++ back) :=
  List.forall_mem_append.mpr ⟨hfront, hback⟩

lemma beside_of_path {issues : List Issue} {name : Text} (hname : name ≠ "blocks")
    (h : ∀ issue ∈ issues, ∃ rest, issue.path = .name name :: rest) : Beside issues := by
  intro issue hissue hstart
  obtain ⟨rest, hpath⟩ := h issue hissue
  rw [hpath, List.cons_prefix_cons] at hstart
  exact hname (Step.name.inj hstart.1).symm

lemma beside_default {α : Type} {members : List (Text × Data)} {name : Text} {value : α}
    {check : Data → Check α} (hname : name ≠ "blocks") :
    Beside (Check.default members name value check).issues :=
  beside_of_path hname Check.exists_path_of_default

lemma beside_head (members : List (Text × Data)) : Beside (head members).issues := by
  rw [head, Check.issues_seq (Check.isSettled_map _ (attributesSpec_settles.default _ _ _))
    (integer_settles.default _ _ _), Check.issues_map]
  exact (beside_default (by decide)).append (beside_default (by decide))

lemma beside_frontIssues (kind : BlockKind) (members : List (Text × Data)) :
    Beside (frontIssues kind members) := by
  refine (beside_head members).append ?_
  cases kind with
  | list => exact beside_default (by decide)
  | item => exact beside_default (by decide)
  | _ => exact nofun

lemma beside_backIssues (kind : BlockKind) (members : List (Text × Data)) :
    Beside (backIssues kind members) := by
  cases kind with
  | item => exact beside_default (by decide)
  | _ => exact nofun

lemma beside_noteIssues (members : List (Text × Data)) : Beside (noteIssues members) :=
  (beside_default (by decide)).append (beside_of_path (by decide) Check.exists_path_of_required)

/-! ### Issues of a part and of those it lists -/

variable (registry : Registry)

section

variable {members others : List (Text × Data)}
  (h : ∀ name, name ≠ "blocks".toList → Entries.find? name others = Entries.find? name members)
include h

lemma frontIssues_congr (kind : BlockKind) : frontIssues kind others = frontIssues kind members := by
  have hhead : head others = head members := head_congr (h _ (by decide)) (h _ (by decide))
  have hkind : listKind others = listKind members := Check.default_congr (h _ (by decide))
  simp only [frontIssues, hhead, hkind]

lemma backIssues_congr (kind : BlockKind) : backIssues kind others = backIssues kind members := by
  have hspaced : Check.default others "spaced" true boolean
      = Check.default members "spaced" true boolean := Check.default_congr (h _ (by decide))
  simp only [backIssues, hspaced]

lemma noteIssues_congr : noteIssues others = noteIssues members := by
  rw [noteIssues, noteIssues, textOrNone, textOrNone, Check.default_congr (h _ (by decide)),
    Check.required_congr (h _ (by decide))]

end

/-- **The frame of a list of parts**: a part reports its own issues, which do not depend on the parts
that it lists, and between them those of these parts. -/
lemma Holds.frame {role inner : Role} {members : List (Text × Data)} {path : List Step}
    (hholds : Holds role members path inner) :
    ∃ before after, (∀ issue ∈ before ++ after, ¬ path <+: issue.path) ∧
      ∀ others parts,
        (∀ name, name ≠ "blocks".toList →
          Entries.find? name others = Entries.find? name members) →
        Entries.find? "blocks" others = some (.arr parts) →
        (∀ part ∈ parts, (inner.check registry part).IsSettled) →
        (role.ofMembers registry others).issues
          = before ++ listedIssues registry inner path parts ++ after := by
  have hsettled : ∀ {others : List (Text × Data)} {parts : List Data},
      Entries.find? "blocks" others = some (.arr parts) →
      (∀ part ∈ parts, (inner.check registry part).IsSettled) →
      ∀ found, Entries.find? "blocks" others = some (.arr found) →
        ∀ part ∈ found, (inner.check registry part).IsSettled := by
    intro others parts hblocks hparts found hfound
    rw [hblocks] at hfound
    exact Data.arr.inj (Option.some.inj hfound) ▸ hparts
  cases hholds with
  | document =>
      refine ⟨[], [], nofun, fun others parts _ hblocks hparts => ?_⟩
      rw [Role.ofMembers, blocksIn_eq, issues_parts registry hblocks hparts, List.nil_append,
        List.append_nil]
  | note =>
      refine ⟨noteIssues members, [], ?_, fun others parts hother hblocks hparts => ?_⟩
      · rw [List.append_nil]
        exact beside_noteIssues members
      · rw [Role.ofMembers, (issues_noteOf registry (hsettled hblocks hparts)).2,
          issues_parts registry hblocks hparts, noteIssues_congr hother, List.append_nil]
  | @block _ kind _ htag hinner =>
      refine ⟨(frontIssues kind members).map (Issue.under [.name kind.word]),
        (backIssues kind members).map (Issue.under [.name kind.word]), ?_,
        fun others parts hother hblocks hparts => ?_⟩
      · rw [← List.map_append]
        intro issue hissue hstart
        obtain ⟨inside, hinside, rfl⟩ := List.mem_map.mp hissue
        exact ((beside_frontIssues kind members).append (beside_backIssues kind members)) inside
          hinside ((List.prefix_append_right_inj [Step.name kind.word]).mp hstart)
      · have htagged : Entries.find? "kind" others = some (.str kind.word) :=
          (hother _ (by decide)).trans htag
        have hissues := (issues_blockOf registry hinner (hsettled hblocks hparts)).2
        rw [Role.ofMembers, taggedBlock_eq registry htagged, Check.issues_within, hissues,
          issues_parts registry hblocks hparts, frontIssues_congr hother, backIssues_congr hother,
          List.map_append, List.map_append, listedIssues_under]
        rfl

lemma members?_withoutParts {value : Data} {members : List (Text × Data)}
    (h : value.members? = some members) :
    value.withoutParts.members? = some (Entries.insert "blocks" (.arr []) members) := by
  cases value with
  | obj others =>
      obtain rfl := Option.some.inj h
      rfl
  | mixed others strange =>
      obtain rfl := Option.some.inj h
      rfl
  | _ => cases h

/-- **The issues of listed parts** are joined with those that the whole has without them. -/
theorem joins_of_lists {role inner : Role} {value : Data} {path : List Step} {parts : List Data}
    (hlists : Lists role value path inner parts)
    (hparts : ∀ part ∈ parts, (inner.check registry part).IsSettled) :
    Joins path (listedIssues registry inner [] parts) (role.check registry value.withoutParts).issues
      (role.check registry value).issues := by
  obtain ⟨members, hmembers, hholds, hblocks⟩ := hlists
  obtain ⟨before, after, hbeside, hframe⟩ := hholds.frame registry
  have hown : (role.check registry value.withoutParts).issues = before ++ after := by
    have hempty := hframe (Entries.insert "blocks" (.arr []) members) []
      (fun name hname => by rw [Entries.find?_insert, if_neg hname])
      (by rw [Entries.find?_insert, if_pos rfl]) nofun
    rw [Role.check_of_members registry (members?_withoutParts hmembers), hempty, listedIssues,
      List.zipIdx_nil, List.flatMap_nil, List.append_nil]
  refine ⟨before, after, hown, ?_, hown ▸ hbeside⟩
  rw [Role.check_of_members registry hmembers, hframe members parts (fun _ _ => rfl) hblocks hparts,
    listedIssues_under, List.append_nil]

/-- The issues of one of some listed parts are joined with those of the others. -/
lemma joins_of_getElem? {role : Role} {parts : List Data} {index : Nat} {part : Data}
    (h : parts[index]? = some part) :
    ∃ own, Joins [.index index] (role.check registry part).issues own
      (listedIssues registry role [] parts) := by
  obtain ⟨hlt, rfl⟩ := List.getElem?_eq_some_iff.mp h
  have hlength : (parts.take index).length = index := List.length_take_of_le hlt.le
  have hsplit : parts.take index ++ parts[index] :: parts.drop (index + 1) = parts := by
    rw [List.getElem_cons_drop, List.take_append_drop]
  let below (part : Data × Nat) : List Issue :=
    (role.check registry part.1).issues.map (Issue.under [.index part.2])
  have hapart : ∀ list : List (Data × Nat), (∀ part ∈ list, part.2 ≠ index) →
      ∀ issue ∈ list.flatMap below, ¬ [.index index] <+: issue.path := by
    intro list hne issue hissue hstart
    obtain ⟨part, hpart, hbelow⟩ := List.mem_flatMap.mp hissue
    obtain ⟨inside, -, rfl⟩ := List.mem_map.mp hbelow
    exact hne part hpart (Step.index.inj (List.cons_prefix_cons.mp hstart).1).symm
  refine ⟨_, ((parts.take index).zipIdx).flatMap below,
    ((parts.drop (index + 1)).zipIdx (index + 1)).flatMap below, rfl, ?_,
    List.forall_mem_append.mpr ⟨hapart _ fun part hpart => ?_, hapart _ fun part hpart => ?_⟩⟩
  · have hzip : parts.zipIdx = (parts.take index).zipIdx
        ++ (parts[index], index) :: (parts.drop (index + 1)).zipIdx (index + 1) := by
      conv_lhs => rw [← hsplit]
      rw [List.zipIdx_append, List.zipIdx_cons, hlength, Nat.zero_add]
    change parts.zipIdx.flatMap below = _
    rw [hzip, List.flatMap_append, List.flatMap_cons, List.append_assoc]
  · have := List.snd_lt_of_mem_zipIdx hpart
    omega
  · have := List.le_snd_of_mem_zipIdx hpart
    omega

/-- **The issues of a part at any depth** are joined with others to those of the whole. -/
theorem joins_of_within {role deep : Role} {value found : Data} {path : List Step}
    (hwithin : Within role value path deep found) (hfree : HandlerFree role value) :
    ∃ own, Joins path (deep.check registry found).issues own (role.check registry value).issues := by
  induction hwithin with
  | self role value => exact ⟨[], Joins.refl _⟩
  | step hlists hpart _ ih =>
      have hparts := hfree.of_lists hlists
      obtain ⟨rest, hrest⟩ := ih (hparts _ (List.mem_of_getElem? hpart))
      have hlist := joins_of_lists registry hlists fun part h => isSettled_check registry (hparts part h)
      obtain ⟨others, hothers⟩ := joins_of_getElem? registry hpart
      obtain ⟨beside, hbeside⟩ := hlist.trans hothers
      obtain ⟨all, hall⟩ := hbeside.trans hrest
      exact ⟨all, by rwa [List.append_assoc] at hall⟩

/-! ### Documents -/

/-- A document is read exactly if the blocks that it lists are, to the blocks read from these. -/
lemma document_eq_ok {members : List (Text × Data)} {values : List Data}
    (hblocks : Entries.find? "blocks" members = some (.arr values)) {blocks : List Block} :
    document registry (.obj members) = .ok blocks
      ↔ List.Forall₂ (fun value block => Schema.block registry value = .ok block) values blocks := by
  change blocksIn registry members = .ok blocks ↔ _
  rw [blocksIn_eq, Check.default, Check.member, hblocks, Check.within_eq_ok]
  exact Check.items_eq_ok

/-- **The issues of a document** without handlers. They are those of the blocks that it lists, in order,
each below the index of its block, and the document is read exactly if all of these are. For every part
at any depth, the issues of the part alone stand in one run among them, below the path to the part, and
no other issue does; the issues of the parts that it lists stand in one run among its own, which it
has without them as well. So a document is read exactly if every block at any depth is. -/
theorem document_issues {members : List (Text × Data)} {values : List Data}
    (hblocks : Entries.find? "blocks" members = some (.arr values))
    (hfree : HandlerFree .document (.obj members)) :
    (document registry (.obj members)).issues
        = (values.zipIdx.flatMap fun value =>
            (block registry value.1).issues.map (Issue.under [.name "blocks", .index value.2]))
      ∧ (∀ blocks, document registry (.obj members) = .ok blocks
          ↔ List.Forall₂ (fun value block => Schema.block registry value = .ok block) values blocks)
      ∧ ((∃ blocks, document registry (.obj members) = .ok blocks)
          ∨ document registry (.obj members)
            = .invalid (document registry (.obj members)).issues)
      ∧ (∀ path role part, Within .document (.obj members) path role part →
          (∃ own, Joins path (role.check registry part).issues own
            (document registry (.obj members)).issues)
          ∧ ∀ inside inner parts, Lists role part inside inner parts →
              Joins inside (listedIssues registry inner [] parts)
                (role.check registry part.withoutParts).issues (role.check registry part).issues)
      ∧ ((∃ blocks, document registry (.obj members) = .ok blocks)
          ↔ ∀ path part, Within .document (.obj members) path .block part →
              ∃ read, block registry part = .ok read) := by
  have hlists : Lists .document (.obj members) [.name "blocks"] .block values :=
    ⟨members, rfl, .document members, hblocks⟩
  have hparts : ∀ value ∈ values, (Role.block.check registry value).IsSettled := fun value h =>
    isSettled_check registry (hfree.of_lists hlists value h)
  have hsettled : (document registry (.obj members)).IsSettled := isSettled_check registry hfree
  have hissues : (document registry (.obj members)).issues
      = listedIssues registry .block [.name "blocks"] values := by
    change (blocksIn registry members).issues = _
    rw [blocksIn_eq, issues_parts registry hblocks hparts]
  refine ⟨hissues, fun blocks => document_eq_ok registry hblocks, ?_, fun path role part hwithin => ?_,
    ?_⟩
  · cases hread : document registry (.obj members) with
    | ok blocks => exact Or.inl ⟨blocks, rfl⟩
    | invalid issues => exact Or.inr rfl
    | broken cause => exact (hread ▸ hsettled).elim
  · refine ⟨joins_of_within registry hwithin hfree, fun inside inner parts hinside => ?_⟩
    refine joins_of_lists registry hinside fun found hfound => isSettled_check registry ?_
    exact (hfree.of_within hwithin).of_lists hinside found hfound
  · rw [hsettled.isOk_iff]
    constructor
    · intro hnil path part hwithin
      obtain ⟨own, before, after, -, houter, -⟩ := joins_of_within registry hwithin hfree
      have hempty : (Role.block.check registry part).issues = [] := by
        change (document registry (.obj members)).issues = _ at houter
        rw [hnil] at houter
        have hmap := (List.append_eq_nil_iff.mp (List.append_eq_nil_iff.mp houter.symm).1).2
        exact List.map_eq_nil_iff.mp hmap
      exact (isSettled_check registry (hfree.of_within hwithin)).isOk_iff.mpr hempty
    · intro hall
      rw [hissues, listedIssues, List.flatMap_eq_nil_iff]
      intro value hvalue
      have hindex : values[value.2]? = some value.1 := List.mem_zipIdx_iff_getElem?.mp hvalue
      have hok := hall _ value.1 (.step hlists hindex (.self .block value.1))
      rw [List.map_eq_nil_iff]
      exact (hparts value.1 (List.mem_of_getElem? hindex)).isOk_iff.mp hok

/-- A heading of a level that there is not. -/
def deepHeading : Data :=
  .obj [("kind", .str "heading"), ("level", .int 7)]

/-- A paragraph with a line that is no text. -/
def blankParagraph : Data :=
  .obj [("kind", .str "para"), ("lines", .arr [.null])]

/-- A plugin without its handler. -/
def barePlugin : Data :=
  .obj [("kind", .str "plugin")]

/-- Three blocks with violations, one of which holds a fourth. -/
def faultyBlocks : List Data :=
  [deepHeading,
   .obj [("kind", .str "blockquote"), ("lnb", .str "x"), ("blocks", .arr [blankParagraph])],
   barePlugin]

/-- The violations of the heading, of the quotation, of the paragraph inside it and of the plugin are all
reported, where they are. -/
theorem document_issues_faulty :
    let members : List (Text × Data) := [("blocks", .arr faultyBlocks)]
    Entries.find? "blocks" members = some (.arr faultyBlocks)
      ∧ HandlerFree .document (.obj members)
      ∧ (document [] (.obj members)).issues
        = [⟨[.name "blocks", .index 0, .name "heading", .name "level"], .above 6⟩,
           ⟨[.name "blocks", .index 1, .name "blockquote", .name "lnb"], .notNumeral⟩,
           ⟨[.name "blocks", .index 1, .name "blockquote", .name "blocks", .index 0, .name "para",
              .name "lines", .index 0], .notText⟩,
           ⟨[.name "blocks", .index 2, .name "plugin", .name "handler"], .missing⟩] := by
  intro members
  have hfree : HandlerFree .document (.obj members) :=
    handlerFree_of_hasHandledPlugin (by decide) .document
  have hheading : block [] deepHeading
      = .invalid [⟨[.name "heading", .name "level"], .above 6⟩] := by
    rw [deepHeading, block_eq [] .heading rfl, blockOf_eq_leafBlock [] rfl]
    rfl
  have hparagraph : block [] blankParagraph
      = .invalid [⟨[.name "para", .name "lines", .index 0], .notText⟩] := by
    rw [blankParagraph, block_eq [] .para rfl, blockOf_eq_leafBlock [] rfl]
    rfl
  have hplugin : block [] barePlugin = .invalid [⟨[.name "plugin", .name "handler"], .missing⟩] := by
    rw [barePlugin, block_eq [] .plugin rfl, blockOf_eq_leafBlock [] rfl]
    rfl
  have hquotation : block []
        (.obj [("kind", .str "blockquote"), ("lnb", .str "x"), ("blocks", .arr [blankParagraph])])
      = .invalid [⟨[.name "blockquote", .name "lnb"], .notNumeral⟩,
          ⟨[.name "blockquote", .name "blocks", .index 0, .name "para", .name "lines", .index 0],
            .notText⟩] := by
    rw [block_eq [] .quote rfl, blockOf, blocksIn_eq]
    change Check.within _
      (Block.quote <$> head _ <*> (items (block []) 0 [blankParagraph]).within _) = _
    rw [items, items, hparagraph]
    rfl
  have hblocks : Entries.find? "blocks" members = some (.arr faultyBlocks) := rfl
  have hissues := (document_issues [] hblocks hfree).1
  rw [faultyBlocks, List.zipIdx_cons, List.zipIdx_cons, List.zipIdx_cons, List.zipIdx_nil,
    List.flatMap_cons, List.flatMap_cons, List.flatMap_cons, List.flatMap_nil, hheading, hquotation,
    hplugin] at hissues
  exact ⟨hblocks, hfree, hissues⟩

end Schema

end BlockTree
