import BlockTree.Proofs.DocumentParts
import BlockTree.Proofs.HandlerReferences
import BlockTree.Schema.Report

/-!
Documents whose reading is broken off.

* `Check.cause?`: the failure that breaks a check off; of two checks the first that is broken counts, a
  list is broken off by its first such item, and a settled check by nothing.
* `HandledBy`: a plugin refers to its handler by a value; `cause?_handler` says that this breaks the reading
  of the plugin off exactly if the value is a reference that escapes with more than a violation.
* `cause?_of_lists` and `cause?_of_handled`: what breaks the reading of a part off, if the part lists
  others or is a plugin; `cause?_cases` says that nothing else does.
* `exists_handled_of_cause?` and `isSome_cause?_of_within`: so a part is broken off exactly if a plugin
  at some depth is, and by a failure of such a plugin.
* `EscapesFrom`: a failure escapes from a document; `references_settle` says when references and documents
  settle.
-/

namespace BlockTree.Schema

variable {α β : Type}

namespace Check

/-! ### Checks that are broken off -/

/-- The failure that breaks a check off. -/
def cause? : Check α → Option Cause
  | .broken cause => some cause
  | _ => none

lemma IsSettled.cause?_eq {x : Check α} (h : x.IsSettled) : x.cause? = none := by
  cases x with
  | ok a => rfl
  | invalid issues => rfl
  | broken cause => exact h.elim

/-- **Two checks** are broken off by the failure of the first, or else of the second. -/
lemma cause?_seq (f : Check (α → β)) (x : Check α) : (f <*> x).cause? = f.cause?.or x.cause? := by
  cases f <;> cases x <;> rfl

@[simp]
lemma cause?_map (f : α → β) (x : Check α) : (f <$> x).cause? = x.cause? := by
  cases x <;> rfl

@[simp]
lemma cause?_within (x : Check α) (step : Step) : (x.within step).cause? = x.cause? := by
  cases x <;> rfl

lemma cause?_default (members : List (Text × Data)) (name : Text) (value : α)
    (check : Data → Check α) :
    (default members name value check).cause?
      = (Entries.find? name members).bind fun data => (check data).cause? := by
  rw [default, member]
  cases Entries.find? name members with
  | none => rfl
  | some data => exact cause?_within _ _

lemma cause?_required (members : List (Text × Data)) (name : Text) (check : Data → Check α) :
    (required members name check).cause?
      = (Entries.find? name members).bind fun data => (check data).cause? := by
  rw [required, member]
  cases Entries.find? name members with
  | none => rfl
  | some data => exact cause?_within _ _

/-- **A list** is broken off by the failure of its first item that is. -/
lemma cause?_items (check : Data → Check α) (index : Nat) (values : List Data) :
    (items check index values).cause? = values.findSome? fun value => (check value).cause? := by
  induction values generalizing index with
  | nil => rfl
  | cons value rest ih =>
      rw [items, cause?_seq, cause?_map, cause?_within, ih, List.findSome?_cons]
      cases (check value).cause? <;> rfl

lemma result_eq_broken {x : Check α} {model : Text} {cause : Cause} :
    x.result model = .error (.broken cause) ↔ x.cause? = some cause := by
  cases x with
  | ok a => exact ⟨nofun, nofun⟩
  | invalid issues => exact ⟨nofun, nofun⟩
  | broken other =>
      exact ⟨fun h => congrArg some (Refusal.broken.inj (Except.error.inj h)),
        fun h => Option.some.inj h ▸ rfl⟩

/-- A check comes to a value or a rejection exactly if nothing breaks it off. -/
lemma result_settles {x : Check α} {model : Text} :
    ((∃ value, x.result model = .ok value)
        ∨ ∃ rejection, x.result model = .error (.rejected rejection))
      ↔ x.cause? = none := by
  cases x with
  | ok a => exact iff_of_true (Or.inl ⟨a, rfl⟩) rfl
  | invalid issues => exact iff_of_true (Or.inr ⟨_, rfl⟩) rfl
  | broken cause => exact iff_of_false (by rintro (⟨_, ⟨⟩⟩ | ⟨_, ⟨⟩⟩)) nofun

end Check

open Check

/-! ### Handlers of plugins -/

/-- **A plugin refers to its handler** by a value. -/
def HandledBy (value data : Data) : Prop :=
  ∃ members, value.members? = some members
    ∧ Entries.find? "kind" members = some (.str BlockKind.plugin.word)
    ∧ Entries.find? "handler" members = some data

variable (registry : Registry)

lemma not_isBadValue_of_handlerViolation? {cause : Cause} (h : handlerViolation? cause = none) :
    ¬ cause.IsBadValue := by
  cases cause with
  | badValue detail => cases h
  | _ => exact id

/-- A value breaks the reading of its plugin off exactly if it is a reference that escapes with a failure
that is no violation. -/
lemma cause?_handler {data : Data} {cause : Cause} :
    (handler registry data).cause? = some cause
      ↔ ∃ target, data = .str target ∧ registry.Escapes target cause
        ∧ handlerViolation? cause = none := by
  have hcause : (handler registry data).cause? = some cause
      ↔ ∃ fault, registry.resolve data = .error fault ∧ fault.toCause = cause
        ∧ handlerViolation? cause = none := by
    rw [handler]
    cases registry.resolve data with
    | ok found => exact ⟨nofun, nofun⟩
    | error fault =>
        cases hviolation : handlerViolation? fault.toCause with
        | some violation =>
            simp only [hviolation]
            exact ⟨nofun, by rintro ⟨_, ⟨⟩, rfl, hnone⟩; rw [hviolation] at hnone; cases hnone⟩
        | none =>
            simp only [hviolation]
            exact ⟨fun h => ⟨fault, rfl, Option.some.inj h, Option.some.inj h ▸ hviolation⟩,
              by rintro ⟨_, ⟨⟩, rfl, -⟩; rfl⟩
  rw [hcause]
  constructor
  · rintro ⟨fault, hresolve, rfl, hnone⟩
    have hbad := not_isBadValue_of_handlerViolation? hnone
    cases data with
    | str target =>
        exact ⟨target, rfl, Registry.resolveTarget_escapes.mp ⟨fault, hresolve, rfl, hbad⟩, hnone⟩
    | _ =>
        obtain rfl := Except.error.inj hresolve
        exact (hbad trivial).elim
  · rintro ⟨target, rfl, hescapes, hnone⟩
    obtain ⟨fault, hresolve, heq, -⟩ := Registry.resolveTarget_escapes.mpr hescapes
    exact ⟨fault, hresolve, heq, hnone⟩

/-! ### Parts of documents -/

lemma cause?_parts (role : Role) (members : List (Text × Data)) :
    (Check.default members "blocks" [] (list (role.check registry))).cause?
      = match Entries.find? "blocks" members with
        | some (.arr parts) => parts.findSome? fun part => (role.check registry part).cause?
        | _ => none := by
  rw [cause?_default]
  cases Entries.find? "blocks" members with
  | none => rfl
  | some data =>
      cases data with
      | arr parts => exact cause?_items _ 0 parts
      | _ => rfl

/-- A block that holds parts is broken off by these alone. -/
lemma cause?_blockOf {kind : BlockKind} {inner : Role} (hinner : heldRole? kind = some inner)
    (members : List (Text × Data)) :
    (blockOf registry kind members).cause?
      = (Check.default members "blocks" [] (list (inner.check registry))).cause? := by
  have hhead := (isSettled_head members).cause?_eq
  have hkind := (isSettled_listKind members).cause?_eq
  have hspaced := (boolean_settles.default members "spaced" true).cause?_eq
  cases kind with
  | quote =>
      cases hinner
      rw [blockOf, blocksIn_eq, cause?_seq, cause?_map, hhead, Option.none_or]
  | list =>
      cases hinner
      rw [blockOf, blocksIn_eq, cause?_seq, cause?_seq, cause?_map, hhead, hkind, Option.none_or,
        Option.none_or]
  | item =>
      cases hinner
      rw [blockOf, blocksIn_eq, cause?_seq, cause?_seq, cause?_seq, cause?_map, hhead, hkind, hspaced,
        Option.none_or, Option.none_or, Option.or_none]
  | footnotes =>
      cases hinner
      rw [blockOf, notesIn_eq, cause?_seq, cause?_map, hhead, Option.none_or]
  | _ => cases hinner

/-- A note is broken off by its blocks alone. -/
lemma cause?_noteOf (members : List (Text × Data)) :
    (noteOf registry members).cause?
      = (Check.default members "blocks" [] (list (Role.block.check registry))).cause? := by
  have hid : (textOrNone members "id").cause? = none :=
    (text_settles.optional.default _ _ _).cause?_eq
  have hnumber : (Check.required members "number" (integerFrom 1)).cause? = none :=
    ((integerFrom_settles 1).required _ _).cause?_eq
  rw [noteOf, blocksIn_eq, cause?_seq, cause?_seq, cause?_map, hid, hnumber, Option.none_or,
    Option.none_or]

/-- A plugin is broken off by its handler alone. -/
lemma cause?_plugin (members : List (Text × Data)) :
    (leafBlock registry .plugin members).cause?
      = (Entries.find? "handler" members).bind fun data => (handler registry data).cause? := by
  have hlines : (textLines members "lines").cause? = none :=
    (text_settles.list.default _ _ _).cause?_eq
  rw [leafBlock, cause?_seq, cause?_seq, cause?_map, (isSettled_head members).cause?_eq, hlines,
    Option.none_or, Option.none_or, cause?_required]

lemma cause?_leafBlock {kind : BlockKind} (h : kind ≠ .plugin) (members : List (Text × Data)) :
    (leafBlock registry kind members).cause? = none :=
  (isSettled_leafBlock registry fun heq => (h heq).elim).cause?_eq

section

variable {role inner : Role} {value : Data} {cause : Cause}

/-- **A part that lists others** is broken off by the first of these that is. -/
lemma cause?_of_lists {path : List Step} {parts : List Data}
    (h : Lists role value path inner parts) :
    (role.check registry value).cause?
      = parts.findSome? fun part => (inner.check registry part).cause? := by
  obtain ⟨members, hmembers, hholds, hblocks⟩ := h
  have hparts : (Check.default members "blocks" [] (list (inner.check registry))).cause?
      = parts.findSome? fun part => (inner.check registry part).cause? := by
    rw [cause?_parts, hblocks]
  rw [Role.check_of_members registry hmembers, ← hparts]
  cases hholds with
  | document => rw [Role.ofMembers, blocksIn_eq]
  | note => rw [Role.ofMembers, cause?_noteOf]
  | block htag hinner =>
      rw [Role.ofMembers, taggedBlock_eq registry htag, cause?_within, cause?_blockOf registry hinner]

/-- **A plugin** is broken off by what its handler is. -/
lemma cause?_of_handled {data : Data} (h : HandledBy value data) :
    (Role.block.check registry value).cause? = (handler registry data).cause? := by
  obtain ⟨members, hmembers, htag, hhandler⟩ := h
  rw [Role.check_of_members registry hmembers, Role.ofMembers, taggedBlock_eq registry htag,
    cause?_within, blockOf_eq_leafBlock registry rfl, cause?_plugin, hhandler]
  rfl

lemma exists_part_of_cause? {members : List (Text × Data)}
    (h : (Check.default members "blocks" [] (list (inner.check registry))).cause? = some cause) :
    ∃ parts, Entries.find? "blocks" members = some (.arr parts)
      ∧ ∃ part ∈ parts, (inner.check registry part).cause? = some cause := by
  rw [cause?_parts] at h
  split at h
  · rename_i parts hparts
    exact ⟨parts, hparts, List.exists_of_findSome?_eq_some h⟩
  · cases h

/-- **What breaks the reading of a part off**: the handler of the plugin that it is, or one of the parts
that it lists. -/
lemma cause?_cases (h : (role.check registry value).cause? = some cause) :
    (role = .block ∧ ∃ data, HandledBy value data ∧ (handler registry data).cause? = some cause)
      ∨ ∃ path inner parts, Lists role value path inner parts
        ∧ ∃ part ∈ parts, (inner.check registry part).cause? = some cause := by
  rw [Role.check_eq] at h
  cases hmembers : value.members? with
  | none =>
      rw [hmembers] at h
      cases h
  | some members =>
      simp only [hmembers] at h
      cases role with
      | document =>
          rw [Role.ofMembers, blocksIn_eq] at h
          obtain ⟨parts, hblocks, hpart⟩ := exists_part_of_cause? registry h
          exact Or.inr ⟨_, .block, parts, ⟨members, hmembers, .document members, hblocks⟩, hpart⟩
      | note =>
          rw [Role.ofMembers, cause?_noteOf] at h
          obtain ⟨parts, hblocks, hpart⟩ := exists_part_of_cause? registry h
          exact Or.inr ⟨_, .block, parts, ⟨members, hmembers, .note members, hblocks⟩, hpart⟩
      | block =>
          rw [Role.ofMembers] at h
          rcases taggedBlock_cases registry members with ⟨kind, htag⟩ | ⟨violation, hrefused⟩
          · rw [taggedBlock_eq registry htag, cause?_within] at h
            cases hinner : heldRole? kind with
            | some inner =>
                rw [cause?_blockOf registry hinner] at h
                obtain ⟨parts, hblocks, hpart⟩ := exists_part_of_cause? registry h
                exact Or.inr ⟨_, inner, parts, ⟨members, hmembers, .block htag hinner, hblocks⟩,
                  hpart⟩
            | none =>
                rw [blockOf_eq_leafBlock registry hinner] at h
                by_cases hkind : kind = .plugin
                · subst hkind
                  rw [cause?_plugin, Option.bind_eq_some_iff] at h
                  obtain ⟨data, hhandler, hcause⟩ := h
                  exact Or.inl ⟨rfl, data, ⟨members, hmembers, htag, hhandler⟩, hcause⟩
                · rw [cause?_leafBlock registry hkind] at h
                  cases h
          · rw [hrefused members rfl] at h
            cases h

end

/-- **A part that is broken off** is so by the handler of a plugin, at some depth. -/
theorem exists_handled_of_cause? {role : Role} {value : Data} {cause : Cause}
    (h : (role.check registry value).cause? = some cause) :
    ∃ path found data, Within role value path .block found ∧ HandledBy found data
      ∧ (handler registry data).cause? = some cause := by
  induction role, value using Role.ind with
  | step role value ih =>
      rcases cause?_cases registry h with ⟨rfl, data, hhandled, hcause⟩ | hparts
      · exact ⟨[], value, data, .self .block value, hhandled, hcause⟩
      · obtain ⟨path, inner, parts, hlists, part, hpart, hbroken⟩ := hparts
        obtain ⟨rest, found, data, hwithin, hdata⟩ := ih path inner parts hlists part hpart hbroken
        obtain ⟨index, hindex⟩ := List.mem_iff_getElem?.mp hpart
        exact ⟨_, found, data, .step hlists hindex hwithin, hdata⟩

/-- **A part with a part that is broken off**, at any depth, is broken off. -/
theorem isSome_cause?_of_within {role deep : Role} {value found : Data} {path : List Step}
    (h : Within role value path deep found)
    (hfound : (deep.check registry found).cause?.isSome = true) :
    (role.check registry value).cause?.isSome = true := by
  induction h with
  | self => exact hfound
  | step hlists hpart _ ih =>
      rw [cause?_of_lists registry hlists, List.findSome?_isSome_iff]
      exact ⟨_, List.mem_of_getElem? hpart, ih hfound⟩

/-! ### References and documents -/

/-- **A failure escapes from a document**: a plugin in it, at some depth, makes a reference that escapes
with this failure, and the failure is no violation. -/
def EscapesFrom (value : Data) (cause : Cause) : Prop :=
  ∃ path found target, Within .document value path .block found ∧ HandledBy found (.str target)
    ∧ registry.Escapes target cause ∧ handlerViolation? cause = none

/-- What breaks the reading of a document off has escaped from it. -/
lemma escapesFrom_of_cause? {value : Data} {cause : Cause}
    (h : (document registry value).cause? = some cause) : EscapesFrom registry value cause := by
  have hpart : (Role.document.check registry value).cause? = some cause := h
  obtain ⟨path, found, data, hwithin, hhandled, hhandler⟩ := exists_handled_of_cause? registry hpart
  obtain ⟨target, rfl, hescapes⟩ := (cause?_handler registry).mp hhandler
  exact ⟨path, found, target, hwithin, hhandled, hescapes⟩

/-- Nothing breaks the reading of a document off exactly if no failure escapes from it. -/
lemma cause?_document_eq_none {value : Data} :
    (document registry value).cause? = none ↔ ∀ cause, ¬ EscapesFrom registry value cause := by
  constructor
  · rintro hnone cause ⟨path, found, target, hwithin, hhandled, hescapes, hviolation⟩
    have hfound : (Role.block.check registry found).cause? = some cause := by
      rw [cause?_of_handled registry hhandled]
      exact (cause?_handler registry).mpr ⟨target, rfl, hescapes, hviolation⟩
    have hsome := isSome_cause?_of_within registry hwithin (hfound ▸ rfl)
    change (document registry value).cause?.isSome = true at hsome
    rw [hnone] at hsome
    cases hsome
  · intro h
    rw [Option.eq_none_iff_forall_ne_some]
    exact fun cause hcause => h cause (escapesFrom_of_cause? registry hcause)

/-- **References and documents settle**, or a failure escapes. The first part: a reference is resolved
exactly to the handler that it names; it fails with what is no bad value exactly if it escapes with it; so it
is resolved or a bad value exactly if it does not escape. The second part: what breaks the reading of a
document off has escaped from it, and the document is read or rejected exactly if no failure does. -/
theorem references_settle :
    (∀ target,
        (∀ handler, registry.resolve (.str target) = .ok handler ↔ registry.Names target handler)
        ∧ (∀ cause, (∃ fault, registry.resolve (.str target) = .error fault ∧ fault.toCause = cause
              ∧ ¬ cause.IsBadValue)
            ↔ registry.Escapes target cause)
        ∧ (((∃ handler, registry.resolve (.str target) = .ok handler)
              ∨ ∃ fault, registry.resolve (.str target) = .error fault ∧ fault.toCause.IsBadValue)
            ↔ ∀ cause, ¬ registry.Escapes target cause))
      ∧ ∀ value,
        (∀ cause, (document registry value).result "Document" = .error (.broken cause) →
          EscapesFrom registry value cause)
        ∧ (((∃ blocks, (document registry value).result "Document" = .ok blocks)
              ∨ ∃ rejection, (document registry value).result "Document" = .error (.rejected rejection))
            ↔ ∀ cause, ¬ EscapesFrom registry value cause) := by
  refine ⟨fun target => ⟨fun handler => Registry.resolveTarget_eq_ok,
    fun cause => Registry.resolveTarget_escapes, Registry.resolveTarget_settles⟩, fun value =>
    ⟨fun cause h => escapesFrom_of_cause? registry (result_eq_broken.mp h), ?_⟩⟩
  rw [result_settles, cause?_document_eq_none]

/-- A document with one plugin, which makes a reference. -/
def pluginDocument (target : Text) : Data :=
  .obj [("blocks", .arr [.obj [("kind", .str "plugin"), ("handler", .str target)]])]

/-- A module with a maker that fails. -/
def crashingModule : Library where
  name := "workshop"
  isPackage := false
  exports := [("Crash", .maker (.error (.crashed "no parts")))]

lemma cause?_pluginDocument (target : Text) :
    (document registry (pluginDocument target)).cause? = (handler registry (.str target)).cause? := by
  have hlists : Lists .document (pluginDocument target) [.name "blocks"] .block
      [.obj [("kind", .str "plugin"), ("handler", .str target)]] := ⟨_, rfl, .document _, rfl⟩
  have hhandled : HandledBy (.obj [("kind", .str "plugin"), ("handler", .str target)]) (.str target) :=
    ⟨_, rfl, rfl, rfl⟩
  have hdocument := cause?_of_lists registry hlists
  rw [List.findSome?_cons, cause?_of_handled registry hhandled] at hdocument
  refine hdocument.trans ?_
  cases (handler registry (.str target)).cause? <;> rfl

/-- **References that escape**: a module that is named relative to another one, and a maker that
crashes. The first fails with what is no bad value, and both break the reading of their document off. -/
theorem escaping_references :
    ¬ ((∃ handler, Registry.resolve [] (.str ".x:y") = .ok handler)
        ∨ ∃ fault, Registry.resolve [] (.str ".x:y") = .error fault ∧ fault.toCause.IsBadValue)
      ∧ (document [] (pluginDocument ".x:y")).result "Document"
        = .error (.broken (ResolveFault.relative ".x").toCause)
      ∧ (document [crashingModule] (pluginDocument "workshop:Crash")).result "Document"
        = .error (.broken (.crashed "no parts")) := by
  refine ⟨?_, ?_, ?_⟩
  · rintro (⟨handler, ⟨⟩⟩ | ⟨fault, ⟨⟩, hbad⟩)
    exact hbad
  · rw [result_eq_broken, cause?_pluginDocument]
    rfl
  · rw [result_eq_broken, cause?_pluginDocument]
    rfl

end BlockTree.Schema
