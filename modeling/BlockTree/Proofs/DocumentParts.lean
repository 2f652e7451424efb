import BlockTree.Proofs.Collected

/-!
The parts of a document as structured data, and the checks of the parts.

* `Role`: a part is read as the document, as a block or as a note; `Role.check` reads it in its role.
* `Holds`: documents, notes and blocks of four kinds hold further parts in their member `blocks`;
  `Lists` gives these parts, and `Within` the parts at any depth, with the way to them.
* `Role.ind`: what is inherited from the listed parts holds of every part.
* `issues_blockOf` and `issues_noteOf`: a part reports the issues of the members in front of its list of
  parts, of these parts and of the members behind the list.
* `HandlerFree`: no plugin among the blocks, at any depth, names a handler; `HandlerFree.ind` is the
  induction over the checks of such parts, and `isSettled_check` says that they are settled.
-/

namespace BlockTree

/-- The members of a mapping whose names are texts. -/
def Data.members? : Data → Option (List (Text × Data))
  | .obj members => some members
  | .mixed members _ => some members
  | _ => none

namespace Schema

/-! ### Roles -/

/-- What a part is read as. -/
inductive Role where
  | document
  | block
  | note
  deriving DecidableEq, Repr

/-- What is read from a part in a role. -/
abbrev Role.Result : Role → Type
  | .document => List Block
  | .block => Block
  | .note => Note

/-- **Reads a part** in its role. -/
def Role.check (registry : Registry) : (role : Role) → Data → Check role.Result
  | .document => Schema.document registry
  | .block => Schema.block registry
  | .note => Schema.note registry

/-- Reads a part in its role, from its members. -/
def Role.ofMembers (registry : Registry) : (role : Role) → List (Text × Data) → Check role.Result
  | .document => blocksIn registry
  | .block => taggedBlock registry
  | .note => noteOf registry

/-- The violation of a value that is no mapping. -/
def Role.refusal : Role → Violation
  | .document => .notModel "Document"
  | .block => .notBlock
  | .note => .notModel "FnDef"

/-- The role of the parts that blocks of a kind hold. -/
def heldRole? : BlockKind → Option Role
  | .quote => some .block
  | .list => some .block
  | .item => some .block
  | .footnotes => some .note
  | _ => none

/-- **A part holds parts** in some role, in its member `blocks`, to which the path leads. -/
inductive Holds : Role → List (Text × Data) → List Step → Role → Prop where
  | document (members : List (Text × Data)) : Holds .document members [.name "blocks"] .block
  | block {members : List (Text × Data)} {kind : BlockKind} {inner : Role}
      (htag : Entries.find? "kind" members = some (.str kind.word))
      (hinner : heldRole? kind = some inner) :
      Holds .block members [.name kind.word, .name "blocks"] inner
  | note (members : List (Text × Data)) : Holds .note members [.name "blocks"] .block

/-- **The parts that a part lists**, with their role and the path to the list. -/
def Lists (role : Role) (value : Data) (path : List Step) (inner : Role) (parts : List Data) : Prop :=
  ∃ members, value.members? = some members ∧ Holds role members path inner
    ∧ Entries.find? "blocks" members = some (.arr parts)

/-- **A part within a part**, at any depth, in its role and with the path to it. -/
inductive Within : Role → Data → List Step → Role → Data → Prop where
  | self (role : Role) (value : Data) : Within role value [] role value
  | step {role inner deep : Role} {value part found : Data} {path rest : List Step}
      {parts : List Data} {index : Nat} (hlists : Lists role value path inner parts)
      (hpart : parts[index]? = some part) (hrest : Within inner part rest deep found) :
      Within role value (path ++ .index index :: rest) deep found

lemma members?_sizeOf {value : Data} {members : List (Text × Data)}
    (h : value.members? = some members) : sizeOf members < sizeOf value := by
  cases value with
  | obj others =>
      obtain rfl := Option.some.inj h
      simp
  | mixed others strange =>
      obtain rfl := Option.some.inj h
      simp only [Data.mixed.sizeOf_spec]
      omega
  | _ => cases h

lemma find?_sizeOf {name : Text} {members : List (Text × Data)} {value : Data}
    (h : Entries.find? name members = some value) : sizeOf value < sizeOf members := by
  induction members with
  | nil => cases h
  | cons member rest ih =>
      obtain ⟨key, data⟩ := member
      rw [Entries.find?] at h
      split at h
      · obtain rfl := Option.some.inj h
        simp only [List.cons.sizeOf_spec, Prod.mk.sizeOf_spec]
        omega
      · have := ih h
        simp only [List.cons.sizeOf_spec]
        omega

/-- **The induction over parts**: a property of parts in their roles holds of every part once it is
inherited from the parts that a part lists. -/
theorem Role.ind {P : Role → Data → Prop}
    (step : ∀ role value,
      (∀ path inner parts, Lists role value path inner parts → ∀ part ∈ parts, P inner part) →
        P role value)
    (role : Role) (value : Data) : P role value := by
  refine step role value fun path inner parts hlists part hpart => ?_
  have hsize : sizeOf part < sizeOf value := by
    obtain ⟨members, hmembers, -, hblocks⟩ := hlists
    have hless := (find?_sizeOf hblocks).trans (members?_sizeOf hmembers)
    have := List.sizeOf_lt_of_mem hpart
    simp only [Data.arr.sizeOf_spec] at hless
    omega
  exact Role.ind step inner part
termination_by sizeOf value

/-! ### Checks from members -/

variable (registry : Registry)

lemma blockItems_eq (index : Nat) (values : List Data) :
    blockItems registry index values = items (block registry) index values := by
  induction values generalizing index with
  | nil => rw [blockItems, items]
  | cons value rest ih => rw [blockItems, items, ih]

lemma noteItems_eq (index : Nat) (values : List Data) :
    noteItems registry index values = items (note registry) index values := by
  induction values generalizing index with
  | nil => rw [noteItems, items]
  | cons value rest ih => rw [noteItems, items, ih]

lemma blockList_eq : blockList registry = list (block registry) := by
  funext value
  cases value with
  | arr values => rw [blockList, list, blockItems_eq]
  | _ => simp only [blockList, list]

lemma noteList_eq : noteList registry = list (note registry) := by
  funext value
  cases value with
  | arr values => rw [noteList, list, noteItems_eq]
  | _ => simp only [noteList, list]

/-- The blocks among some members are a list of them, empty if it is not there. -/
lemma blocksIn_eq (members : List (Text × Data)) :
    blocksIn registry members
      = Check.default members "blocks" [] (list (Role.block.check registry)) := by
  rw [Role.check, ← blockList_eq, Check.default, Check.member]
  induction members with
  | nil => rw [blocksIn, Entries.find?]
  | cons member rest ih =>
      obtain ⟨name, value⟩ := member
      rw [blocksIn, Entries.find?, ih]
      split <;> rfl

lemma notesIn_eq (members : List (Text × Data)) :
    notesIn registry members
      = Check.default members "blocks" [] (list (Role.note.check registry)) := by
  rw [Role.check, ← noteList_eq, Check.default, Check.member]
  induction members with
  | nil => rw [notesIn, Entries.find?]
  | cons member rest ih =>
      obtain ⟨name, value⟩ := member
      rw [notesIn, Entries.find?, ih]
      split <;> rfl

/-- A part is read from its members, and refused if it has none. -/
lemma Role.check_eq (role : Role) (value : Data) :
    role.check registry value
      = match value.members? with
        | some members => role.ofMembers registry members
        | none => .fail role.refusal := by
  cases role with
  | document => cases value <;> rfl
  | block => cases value <;> exact block.eq_def registry _
  | note => cases value <;> exact note.eq_def registry _

lemma Role.check_of_members {value : Data} {members : List (Text × Data)}
    (h : value.members? = some members) (role : Role) :
    role.check registry value = role.ofMembers registry members := by
  rw [check_eq, h]

lemma kindOf_word (kind : BlockKind) : kindOf (.str kind.word) = .ok kind := by
  cases kind <;> rfl

/-- A tag is the word of a kind, or refused. -/
lemma kindOf_cases (tag : Data) :
    (∃ kind : BlockKind, tag = .str kind.word) ∨ ∃ violation, kindOf tag = .fail violation := by
  cases tag with
  | str word =>
      rw [kindOf]
      cases hfound : BlockKind.ofWord? word with
      | none => exact Or.inr ⟨_, rfl⟩
      | some kind =>
          rw [BlockKind.ofWord?] at hfound
          have hword := List.find?_some hfound
          exact Or.inl ⟨kind, by rw [of_decide_eq_true hword]⟩
  | _ => exact Or.inr ⟨_, rfl⟩

lemma BlockKind.word_injective : Function.Injective BlockKind.word := by
  intro kind other h
  have hkind := kindOf_word kind
  rw [h, kindOf_word] at hkind
  exact (Check.ok.inj hkind).symm

/-- A part holds parts in one role only, and in one place. -/
lemma Holds.unique {role inner other : Role} {members : List (Text × Data)} {path way : List Step}
    (h : Holds role members path inner) (hother : Holds role members way other) :
    way = path ∧ other = inner := by
  cases h with
  | document => cases hother; exact ⟨rfl, rfl⟩
  | note => cases hother; exact ⟨rfl, rfl⟩
  | block htag hinner =>
      cases hother with
      | block htag' hinner' =>
          have hword := Data.str.inj (Option.some.inj (htag.symm.trans htag'))
          obtain rfl := BlockKind.word_injective hword
          exact ⟨rfl, Option.some.inj (hinner'.symm.trans hinner)⟩

lemma taggedBlock_eq {members : List (Text × Data)} {kind : BlockKind}
    (h : Entries.find? "kind" members = some (.str kind.word)) :
    taggedBlock registry members = (blockOf registry kind members).within (.name kind.word) := by
  rw [taggedBlock, h]
  simp only [kindOf_word]

lemma block_eq (kind : BlockKind) {members : List (Text × Data)}
    (h : Entries.find? "kind" members = some (.str kind.word)) :
    block registry (.obj members) = (blockOf registry kind members).within (.name kind.word) :=
  (Role.check_of_members registry rfl .block).trans (taggedBlock_eq registry h)

/-- A block is read as one of the kind that its tag names, or refused for its tag alone. -/
lemma taggedBlock_cases (members : List (Text × Data)) :
    (∃ kind : BlockKind, Entries.find? "kind" members = some (.str kind.word))
      ∨ ∃ violation, ∀ others, Entries.find? "kind" others = Entries.find? "kind" members →
          taggedBlock registry others = .fail violation := by
  cases htag : Entries.find? "kind" members with
  | none =>
      refine Or.inr ⟨.noTag, fun others h => ?_⟩
      rw [taggedBlock, h]
  | some tag =>
      rcases kindOf_cases tag with ⟨kind, rfl⟩ | ⟨violation, hrefused⟩
      · exact Or.inl ⟨kind, rfl⟩
      · refine Or.inr ⟨violation, fun others h => ?_⟩
        rw [taggedBlock, h]
        simp only [hrefused]
        rfl

/-! ### Issues of parts -/

/-- **The issues of listed parts**, each below the index of its part in the list. -/
def listedIssues (role : Role) (path : List Step) (parts : List Data) : List Issue :=
  parts.zipIdx.flatMap fun part =>
    (role.check registry part.1).issues.map (Issue.under (path ++ [.index part.2]))

lemma listedIssues_under (front path : List Step) (role : Role) (parts : List Data) :
    (listedIssues registry role path parts).map (Issue.under front)
      = listedIssues registry role (front ++ path) parts := by
  rw [listedIssues, listedIssues, List.map_flatMap]
  refine List.flatMap_congr fun part _ => ?_
  rw [List.map_map]
  exact List.map_congr_left fun issue _ => by
    rw [Function.comp_apply, Issue.under_under, List.append_assoc]

/-- A list of parts among some members reports the issues of the parts. -/
lemma issues_parts {role : Role} {members : List (Text × Data)} {parts : List Data}
    (h : Entries.find? "blocks" members = some (.arr parts))
    (hparts : ∀ part ∈ parts, (role.check registry part).IsSettled) :
    (Check.default members "blocks" [] (list (role.check registry))).issues
      = listedIssues registry role [.name "blocks"] parts := by
  rw [Check.default, Check.member, h, Check.issues_within, list, Check.issues_items hparts]
  exact listedIssues_under registry [.name "blocks"] [] role parts

/-- The issues of the members of a block that are read in front of its parts. -/
def frontIssues (kind : BlockKind) (members : List (Text × Data)) : List Issue :=
  (head members).issues ++
    match kind with
    | .list => (listKind members).issues
    | .item => (listKind members).issues
    | _ => []

/-- The issues of the members of a block that are read behind its parts. -/
def backIssues (kind : BlockKind) (members : List (Text × Data)) : List Issue :=
  match kind with
  | .item => (Check.default members "spaced" true boolean).issues
  | _ => []

lemma isSettled_parts {role : Role} {members : List (Text × Data)}
    (h : ∀ parts, Entries.find? "blocks" members = some (.arr parts) →
      ∀ part ∈ parts, (role.check registry part).IsSettled) :
    (Check.default members "blocks" [] (list (role.check registry))).IsSettled := by
  refine Check.isSettled_default fun data hdata => ?_
  cases data with
  | arr parts => exact Check.isSettled_items (h parts hdata) 0
  | _ => exact Check.isSettled_fail _

lemma isSettled_listKind (members : List (Text × Data)) : (listKind members).IsSettled :=
  (oneOf_settles _ _).default _ _ _

/-- A block that holds parts reports the issues of the members in front of them, of the parts and of
the members behind them. -/
lemma issues_blockOf {kind : BlockKind} {inner : Role} (hinner : heldRole? kind = some inner)
    {members : List (Text × Data)}
    (h : ∀ parts, Entries.find? "blocks" members = some (.arr parts) →
      ∀ part ∈ parts, (inner.check registry part).IsSettled) :
    (blockOf registry kind members).IsSettled
      ∧ (blockOf registry kind members).issues
        = frontIssues kind members
          ++ (Check.default members "blocks" [] (list (inner.check registry))).issues
          ++ backIssues kind members := by
  have hparts := isSettled_parts registry h
  have hhead := isSettled_head members
  have hkind := isSettled_listKind members
  have hspaced := boolean_settles.default members "spaced" true
  cases kind with
  | quote =>
      cases hinner
      have hfront := Check.isSettled_map Block.quote hhead
      rw [blockOf, blocksIn_eq]
      refine ⟨Check.isSettled_seq hfront hparts, ?_⟩
      simp only [Check.issues_seq hfront hparts, Check.issues_map, frontIssues, backIssues,
        List.append_nil]
  | list =>
      cases hinner
      have hfront := Check.isSettled_map Block.list hhead
      have hboth := Check.isSettled_seq hfront hkind
      rw [blockOf, blocksIn_eq]
      refine ⟨Check.isSettled_seq hboth hparts, ?_⟩
      simp only [Check.issues_seq hboth hparts, Check.issues_seq hfront hkind, Check.issues_map,
        frontIssues, backIssues, List.append_nil]
  | item =>
      cases hinner
      have hfront := Check.isSettled_map Block.item hhead
      have hboth := Check.isSettled_seq hfront hkind
      have hall := Check.isSettled_seq hboth hparts
      rw [blockOf, blocksIn_eq]
      refine ⟨Check.isSettled_seq hall hspaced, ?_⟩
      simp only [Check.issues_seq hall hspaced, Check.issues_seq hboth hparts,
        Check.issues_seq hfront hkind, Check.issues_map, frontIssues, backIssues]
  | footnotes =>
      cases hinner
      have hfront := Check.isSettled_map Block.footnotes hhead
      rw [blockOf, notesIn_eq]
      refine ⟨Check.isSettled_seq hfront hparts, ?_⟩
      simp only [Check.issues_seq hfront hparts, Check.issues_map, frontIssues, backIssues,
        List.append_nil]
  | _ => cases hinner

/-- The issues of the members of a note that are read in front of its blocks. -/
def noteIssues (members : List (Text × Data)) : List Issue :=
  (textOrNone members "id").issues ++ (Check.required members "number" (integerFrom 1)).issues

lemma issues_noteOf {members : List (Text × Data)}
    (h : ∀ parts, Entries.find? "blocks" members = some (.arr parts) →
      ∀ part ∈ parts, (Role.block.check registry part).IsSettled) :
    (noteOf registry members).IsSettled
      ∧ (noteOf registry members).issues
        = noteIssues members
          ++ (Check.default members "blocks" [] (list (Role.block.check registry))).issues := by
  have hparts := isSettled_parts registry h
  have hid : (textOrNone members "id").IsSettled := text_settles.optional.default _ _ _
  have hnumber : (Check.required members "number" (integerFrom 1)).IsSettled :=
    (integerFrom_settles 1).required _ _
  have hfront := Check.isSettled_map Note.mk hid
  have hboth := Check.isSettled_seq hfront hnumber
  rw [noteOf, blocksIn_eq]
  refine ⟨Check.isSettled_seq hboth hparts, ?_⟩
  simp only [Check.issues_seq hboth hparts, Check.issues_seq hfront hnumber, Check.issues_map,
    noteIssues]

/-! ### Parts without handlers -/

/-- The members are tagged as a plugin and name its handler. -/
def handledPlugin (members : List (Text × Data)) : Bool :=
  match Entries.find? "kind" members with
  | some (.str word) => word = BlockKind.plugin.word && (Entries.find? "handler" members).isSome
  | _ => false

/-- A value that is tagged as a plugin and names its handler. -/
def IsHandledPlugin (value : Data) : Prop :=
  ∃ members, value.members? = some members ∧ handledPlugin members = true

/-- **No plugin names a handler** anywhere among the blocks of a part. -/
def HandlerFree (role : Role) (value : Data) : Prop :=
  ∀ path found, Within role value path .block found → ¬ IsHandledPlugin found

/-- A plugin may stand there, but without a handler. -/
lemma HandlerFree.find?_handler {value : Data} {members : List (Text × Data)} {kind : BlockKind}
    (h : HandlerFree .block value) (hmembers : value.members? = some members)
    (htag : Entries.find? "kind" members = some (.str kind.word)) :
    kind = .plugin → Entries.find? "handler" members = none := by
  rintro rfl
  rw [← Option.not_isSome_iff_eq_none]
  intro hsome
  refine h [] value (.self _ _) ⟨members, hmembers, ?_⟩
  simp only [handledPlugin, htag, hsome]
  rfl

lemma Within.trans {role middle deep : Role} {value part found : Data} {front back : List Step}
    (h : Within role value front middle part) (hback : Within middle part back deep found) :
    Within role value (front ++ back) deep found := by
  induction h with
  | self role value => exact hback
  | step hlists hpart _ ih =>
      rw [List.append_assoc]
      exact .step hlists hpart (ih hback)

lemma HandlerFree.of_within {role inner : Role} {value part : Data} {path : List Step}
    (h : HandlerFree role value) (hwithin : Within role value path inner part) :
    HandlerFree inner part := fun _ found hfound => h _ found (hwithin.trans hfound)

lemma HandlerFree.of_lists {role inner : Role} {value : Data} {path : List Step}
    {parts : List Data} (h : HandlerFree role value) (hlists : Lists role value path inner parts) :
    ∀ part ∈ parts, HandlerFree inner part := by
  intro part hpart rest found hwithin
  obtain ⟨index, hindex⟩ := List.mem_iff_getElem?.mp hpart
  exact h.of_within (.step hlists hindex (.self inner part)) rest found hwithin

mutual

/-- Some mapping in a value is a plugin with a handler, whether it stands among the blocks or not. -/
def hasHandledPlugin : Data → Bool
  | .arr values => itemsHaveHandledPlugin values
  | .obj members => handledPlugin members || membersHaveHandledPlugin members
  | .mixed members _ => handledPlugin members || membersHaveHandledPlugin members
  | _ => false

/-- Some mapping in the values of a list is a plugin with a handler. -/
def itemsHaveHandledPlugin : List Data → Bool
  | [] => false
  | value :: rest => hasHandledPlugin value || itemsHaveHandledPlugin rest

/-- Some mapping in the values of members is a plugin with a handler. -/
def membersHaveHandledPlugin : List (Text × Data) → Bool
  | [] => false
  | (_, value) :: rest => hasHandledPlugin value || membersHaveHandledPlugin rest

end

lemma hasHandledPlugin_of_members? {value : Data} {members : List (Text × Data)}
    (h : value.members? = some members) :
    hasHandledPlugin value = (handledPlugin members || membersHaveHandledPlugin members) := by
  cases value with
  | obj others =>
      obtain rfl := Option.some.inj h
      rw [hasHandledPlugin]
  | mixed others strange =>
      obtain rfl := Option.some.inj h
      rw [hasHandledPlugin]
  | _ => cases h

lemma itemsHaveHandledPlugin_eq_any (values : List Data) :
    itemsHaveHandledPlugin values = values.any hasHandledPlugin := by
  induction values with
  | nil => rfl
  | cons value rest ih => rw [itemsHaveHandledPlugin, List.any_cons, ih]

lemma hasHandledPlugin_of_find? {name : Text} {members : List (Text × Data)} {value : Data}
    (h : Entries.find? name members = some value) (hvalue : hasHandledPlugin value = true) :
    membersHaveHandledPlugin members = true := by
  induction members with
  | nil => cases h
  | cons member rest ih =>
      obtain ⟨key, data⟩ := member
      rw [Entries.find?] at h
      rw [membersHaveHandledPlugin, Bool.or_eq_true]
      split at h
      · obtain rfl := Option.some.inj h
        exact Or.inl hvalue
      · exact Or.inr (ih h)

lemma hasHandledPlugin_of_within {role deep : Role} {value found : Data} {path : List Step}
    (h : Within role value path deep found) (hfound : hasHandledPlugin found = true) :
    hasHandledPlugin value = true := by
  induction h with
  | self => exact hfound
  | step hlists hpart _ ih =>
      obtain ⟨members, hmembers, -, hblocks⟩ := hlists
      have hlist := hasHandledPlugin_of_find? hblocks
      rw [hasHandledPlugin, itemsHaveHandledPlugin_eq_any, List.any_eq_true] at hlist
      rw [hasHandledPlugin_of_members? hmembers, hlist ⟨_, List.mem_of_getElem? hpart, ih hfound⟩,
        Bool.or_true]

/-- **A value without plugins that have a handler** is free of handlers, in whatever role. -/
lemma handlerFree_of_hasHandledPlugin {value : Data} (h : hasHandledPlugin value = false)
    (role : Role) : HandlerFree role value := by
  rintro path found hwithin ⟨members, hmembers, htagged⟩
  have hfound : hasHandledPlugin found = true := by
    rw [hasHandledPlugin_of_members? hmembers, htagged, Bool.true_or]
  rw [hasHandledPlugin_of_within hwithin hfound] at h
  cases h

lemma blockOf_eq_leafBlock {kind : BlockKind} (h : heldRole? kind = none)
    (members : List (Text × Data)) :
    blockOf registry kind members = leafBlock registry kind members := by
  cases kind with
  | quote => cases h
  | list => cases h
  | item => cases h
  | footnotes => cases h
  | _ => simp only [blockOf]

lemma isSettled_leafBlock {kind : BlockKind} {members : List (Text × Data)}
    (h : kind = .plugin → Entries.find? "handler" members = none) :
    (leafBlock registry kind members).IsSettled := by
  have hhead := isSettled_head members
  have hlines : ∀ name, (textLines members name).IsSettled := fun name =>
    text_settles.list.default _ _ _
  have hcontent : (textOrEmpty members "content").IsSettled := text_settles.default _ _ _
  have htext : ∀ name, (textOrNone members name).IsSettled := fun name =>
    text_settles.optional.default _ _ _
  cases kind with
  | plugin =>
      have hhandler : (Check.required members "handler" (handler registry)).IsSettled := by
        refine Check.isSettled_required fun data hdata => ?_
        rw [h rfl] at hdata
        cases hdata
      exact Check.isSettled_seq (Check.isSettled_seq (Check.isSettled_map _ hhead) (hlines _))
        hhandler
  | heading =>
      exact Check.isSettled_seq (Check.isSettled_seq (Check.isSettled_map _ hhead)
        ((integerBetween_settles 1 6).required _ _)) hcontent
  | code =>
      exact Check.isSettled_seq (Check.isSettled_seq (Check.isSettled_map _ hhead) (hlines _))
        (htext _)
  | ruler =>
      exact Check.isSettled_seq (Check.isSettled_map _ hhead) ((oneOf_settles _ _).default _ _ _)
  | table =>
      have hgrid : (grid members).IsSettled :=
        Check.isSettled_seq (Check.isSettled_seq
          (Check.isSettled_map _ (text_settles.list.optional.default _ _ _))
          (text_settles.list.list.default _ _ _))
          ((oneOf_settles _ _).optional.list.default _ _ _)
      exact Check.isSettled_seq (Check.isSettled_map _ hhead) hgrid
  | html => exact Check.isSettled_seq (Check.isSettled_map _ hhead) (hlines _)
  | htmlOther => exact Check.isSettled_seq (Check.isSettled_map _ hhead) (hlines _)
  | attributeList => exact Check.isSettled_seq (Check.isSettled_map _ hhead) hcontent
  | linkTarget =>
      exact Check.isSettled_seq (Check.isSettled_seq (Check.isSettled_seq
        (Check.isSettled_map _ hhead) (htext _)) (htext _)) (htext _)
  | _ => exact Check.isSettled_seq (Check.isSettled_map _ hhead) (hlines _)

/-- A property of what the checks come to holds of the parts that are listed among some members. -/
def HoldsOfParts (P : (role : Role) → Check role.Result → Prop) (role : Role)
    (members : List (Text × Data)) : Prop :=
  ∀ parts, Entries.find? "blocks" members = some (.arr parts) →
    ∀ part ∈ parts, P role (role.check registry part)

/-- **The induction over parts without handlers**: a property of what the checks come to holds of all of
them once it holds of refusals and of blocks without parts, and is inherited from the listed parts by
documents, notes and blocks. -/
theorem HandlerFree.ind {P : (role : Role) → Check role.Result → Prop}
    (refusal : ∀ role violation, P role (.fail violation))
    (document : ∀ members, HoldsOfParts registry P .block members →
      P .document (blocksIn registry members))
    (note : ∀ members, HoldsOfParts registry P .block members → P .note (noteOf registry members))
    (holder : ∀ kind inner members, heldRole? kind = some inner →
      HoldsOfParts registry P inner members →
        P .block ((blockOf registry kind members).within (.name kind.word)))
    (leaf : ∀ kind members, heldRole? kind = none →
      (kind = .plugin → Entries.find? "handler" members = none) →
        P .block ((leafBlock registry kind members).within (.name kind.word)))
    {role : Role} {value : Data} (hfree : HandlerFree role value) :
    P role (role.check registry value) := by
  induction role, value using Role.ind with
  | step role value ih =>
      rw [Role.check_eq]
      cases hmembers : value.members? with
      | none => exact refusal role role.refusal
      | some members =>
          have hparts : ∀ path inner, Holds role members path inner →
              HoldsOfParts registry P inner members := by
            intro path inner hholds parts hblocks part hpart
            have hlists : Lists role value path inner parts := ⟨members, hmembers, hholds, hblocks⟩
            exact ih path inner parts hlists part hpart (hfree.of_lists hlists part hpart)
          cases role with
          | document => exact document members (hparts _ _ (.document members))
          | note => exact note members (hparts _ _ (.note members))
          | block =>
              change P .block (taggedBlock registry members)
              rcases taggedBlock_cases registry members with ⟨kind, htag⟩ | ⟨violation, hrefused⟩
              · rw [taggedBlock_eq registry htag]
                cases hinner : heldRole? kind with
                | some inner => exact holder kind inner members hinner (hparts _ _ (.block htag hinner))
                | none =>
                    rw [blockOf_eq_leafBlock registry hinner]
                    exact leaf kind members hinner (hfree.find?_handler hmembers htag)
              · rw [hrefused members rfl]
                exact refusal .block violation

/-- **The check of a part without handlers is settled**. -/
theorem isSettled_check {role : Role} {value : Data} (h : HandlerFree role value) :
    (role.check registry value).IsSettled := by
  refine HandlerFree.ind (P := fun _ => Check.IsSettled) registry ?_ ?_ ?_ ?_ ?_ h
  · exact fun _ violation => Check.isSettled_fail violation
  · intro members hparts
    rw [blocksIn_eq]
    exact isSettled_parts registry hparts
  · exact fun members hparts => (issues_noteOf registry hparts).1
  · exact fun kind inner members hinner hparts =>
      Check.isSettled_within (issues_blockOf registry hinner hparts).1 _
  · exact fun kind members _ hhandler =>
      Check.isSettled_within (isSettled_leafBlock registry hhandler) _

end Schema

end BlockTree
