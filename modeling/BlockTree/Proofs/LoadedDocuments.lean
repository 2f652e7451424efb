import BlockTree.Proofs.EscapingReferences
import BlockTree.Proofs.IssueLocations
import BlockTree.Proofs.LoadedOptions

/-!
Which files give documents.

* `Describes`: a value describes blocks: it lists their values, is a mapping that is read as a
  document of them, or is null and there are none. `document_documentData` says that documents are
  read from these values, and from those that count for nothing.
* `document_eq_document_list`: a mapping that holds a list of blocks is read as the bare list is.
* `IsDocumentFault`, `BreaksOff`: what is reported of a text that gives no document, and what breaks
  its loading off; `readDocument_eq_error` says that there is nothing else. `Platform.Decodes` is
  what the reader for a file promises.
* `loadDocument_outcomes`: for files these together, under any reader.
-/

namespace BlockTree

open Schema Check

/-! ### Documents from data -/

/-- **A value describes blocks**: it lists the values of these, it is a mapping that is read as a document of
them, or it is null and there are none. -/
@[mk_iff]
inductive Describes (registry : Registry) : Data → List Block → Prop
  | list {items : List Data} {blocks : List Block}
      (hitems : List.Forall₂ (fun item block => Schema.block registry item = .ok block) items blocks) :
      Describes registry (.arr items) blocks
  | mapping {value : Data} {blocks : List Block} (hmapping : value.isMapping = true)
      (hdocument : Schema.document registry value = .ok blocks) : Describes registry value blocks
  | nothing : Describes registry .null []

variable (registry : Registry)

/-- A document of mapped members is read from what they hold as its blocks. -/
lemma document_of_members {value : Data} {members : List (Text × Data)}
    (hmembers : value.members? = some members) :
    Schema.document registry value
      = Check.default members "blocks" [] (list (Role.block.check registry)) :=
  (Role.check_of_members registry hmembers .document).trans (blocksIn_eq registry members)

lemma document_empty : Schema.document registry (.obj []) = .ok [] := by
  rw [Schema.document, blocksIn]

lemma documentData_of_isMapping {value : Data} (h : value.isMapping = true) :
    documentData value = value := by
  cases value with
  | obj members => cases members <;> rfl
  | mixed members others => rfl
  | _ => cases h

/-- **A bare list** is read as every mapping that holds it as its blocks. -/
lemma document_eq_document_list {value : Data} {members : List (Text × Data)} {items : List Data}
    (hmembers : value.members? = some members)
    (hblocks : Entries.find? "blocks" members = some (.arr items)) :
    Schema.document registry (documentData value)
      = Schema.document registry (documentData (.arr items)) := by
  rw [documentData_of_isMapping (isMapping_iff.mpr ⟨members, hmembers⟩), documentData,
    document_of_members registry hmembers, document_of_members registry rfl]
  simp only [Check.default, Check.member, hblocks, Entries.find?, if_true]

/-- A scalar is read as a document only if it counts for nothing. -/
lemma document_documentData_scalar {value : Data} (harr : ∀ items, value ≠ .arr items)
    (hmapping : value.isMapping = false) (hnull : value ≠ .null) {blocks : List Block} :
    Schema.document registry (documentData value) = .ok blocks
      ↔ value.isVoid = true ∧ blocks = [] := by
  have hdata : documentData value = if value.truthy then value else .obj [] := by
    cases value with
    | arr items => exact (harr items rfl).elim
    | _ => rfl
  cases htruthy : value.truthy with
  | false =>
      have hvoid : value.isVoid = true := by
        rcases truthy_eq_false_iff.mp htruthy with rfl | h | rfl | rfl
        · exact (hnull rfl).elim
        · exact h
        · exact (harr [] rfl).elim
        · cases hmapping
      rw [hdata, htruthy, if_neg Bool.false_ne_true, document_empty, and_iff_right hvoid, Check.ok.injEq,
        eq_comm]
  | true =>
      have hvoid : ¬ value.isVoid = true := fun h => by
        rw [truthy_eq_false_iff.mpr (Or.inr (Or.inl h))] at htruthy
        cases htruthy
      rw [hdata, htruthy, if_pos rfl]
      refine iff_of_false (fun h => ?_) fun h => hvoid h.1
      cases value with
      | obj members => cases hmapping
      | mixed members others => cases hmapping
      | _ => cases h

/-- **The documents of all values**: those that a value describes, or none if it counts for nothing. -/
lemma document_documentData {value : Data} {blocks : List Block} :
    Schema.document registry (documentData value) = .ok blocks
      ↔ Describes registry value blocks ∨ value.isVoid = true ∧ blocks = [] := by
  cases value with
  | arr items =>
      refine (document_eq_ok registry rfl).trans ?_
      simp [describes_iff, Data.isVoid, Data.isMapping]
  | obj members =>
      rw [documentData_of_isMapping rfl]
      simp [describes_iff, Data.isVoid, Data.isMapping]
  | mixed members others =>
      rw [documentData_of_isMapping rfl]
      simp [describes_iff, Data.isVoid, Data.isMapping]
  | null =>
      refine (iff_of_eq (congrArg (· = Check.ok blocks) (document_empty registry))).trans ?_
      simp [describes_iff, Data.isVoid, Data.isMapping, eq_comm]
  | _ =>
      rw [document_documentData_scalar registry (by rintro items ⟨⟩) rfl (by rintro ⟨⟩)]
      simp [describes_iff, Data.isMapping]

/-! ### Documents from texts -/

section

variable (platform : Platform) {path : Path} {text : Text}

/-- **What is reported** of a text that gives no document: it cannot be read, or the document in it has
issues. -/
def IsDocumentFault (path : Path) (text : Text) (fault : LoadFault) : Prop :=
  (∃ detail, platform.readData path text = .error fault ∧ fault = .unreadable path.text detail)
    ∨ ∃ value issues, platform.readData path text = .ok value
      ∧ Schema.document registry (documentData value) = .invalid issues
      ∧ fault = .invalidDocument path.text ⟨"Document", issues⟩

/-- **What breaks the loading of a text off**: a failure of the reader other than that the text is
malformed, or one that escapes from the document in it. -/
def BreaksOff (path : Path) (text : Text) (cause : Cause) : Prop :=
  platform.readData path text = .error (.broken cause)
    ∨ ∃ value, platform.readData path text = .ok value
      ∧ EscapesFrom registry (documentData value) cause

/-- **The reader for a file keeps its contract** on a text: it decodes the text, or finds it
malformed. -/
def Platform.Decodes (path : Path) (text : Text) : Prop :=
  ∀ cause, platform.readData path text ≠ .error (.broken cause)

variable {registry platform} in
lemma IsDocumentFault.isReported {fault : LoadFault}
    (h : IsDocumentFault registry platform path text fault) : fault.IsReported := by
  rcases h with ⟨detail, -, rfl⟩ | ⟨value, issues, -, -, rfl⟩
  · exact ⟨_, rfl⟩
  · exact ⟨_, rfl⟩

variable {platform} in
/-- A text without a value cannot be read, or its reader fails in another way. -/
lemma readData_eq_error {fault : LoadFault} (h : platform.readData path text = .error fault) :
    (∃ detail, fault = .unreadable path.text detail) ∨ ∃ cause, fault = .broken cause := by
  unfold Platform.readData at h
  split at h
  · split at h
    · cases h
    · exact Or.inl ⟨_, (Except.error.inj h).symm⟩
    · exact Or.inr ⟨_, (Except.error.inj h).symm⟩
  · split at h
    · cases h
    · split at h
      · exact Or.inr ⟨_, (Except.error.inj h).symm⟩
      · exact Or.inl ⟨_, (Except.error.inj h).symm⟩

/-- **The document of a text** is read from its value. -/
lemma readDocument_eq_ok {blocks : List Block} :
    platform.readDocument registry path text = .ok blocks
      ↔ ∃ value, platform.readData path text = .ok value
        ∧ Schema.document registry (documentData value) = .ok blocks := by
  rw [Platform.readDocument]
  cases platform.readData path text with
  | error fault => exact iff_of_false nofun (by rintro ⟨_, ⟨⟩, -⟩)
  | ok value =>
      simp only [Except.ok.injEq, exists_eq_left']
      cases Schema.document registry (documentData value) with
      | ok found => simp [Check.result]
      | _ => exact iff_of_false (by rintro ⟨⟩) (by rintro ⟨⟩)

/-- **The faults of a text** are reported, or break its loading off. -/
lemma readDocument_eq_error {fault : LoadFault}
    (h : platform.readDocument registry path text = .error fault) :
    IsDocumentFault registry platform path text fault
      ∨ ∃ cause, fault = .broken cause ∧ BreaksOff registry platform path text cause := by
  rw [Platform.readDocument] at h
  cases hdata : platform.readData path text with
  | error other =>
      rw [hdata] at h
      obtain rfl := Except.error.inj h
      rcases readData_eq_error hdata with ⟨detail, rfl⟩ | ⟨cause, rfl⟩
      · exact Or.inl (Or.inl ⟨detail, hdata, rfl⟩)
      · exact Or.inr ⟨cause, rfl, Or.inl hdata⟩
  | ok value =>
      simp only [hdata] at h
      cases hdocument : Schema.document registry (documentData value) with
      | ok found =>
          rw [hdocument] at h
          cases h
      | invalid issues =>
          rw [hdocument] at h
          exact Or.inl (Or.inr ⟨value, issues, hdata, hdocument, (Except.error.inj h).symm⟩)
      | broken cause =>
          rw [hdocument] at h
          have hescapes : EscapesFrom registry (documentData value) cause :=
            escapesFrom_of_cause? registry (hdocument ▸ rfl)
          exact Or.inr ⟨cause, (Except.error.inj h).symm, Or.inr ⟨value, hdata, hescapes⟩⟩

/-- The loading of a text is broken off exactly if something does so. -/
lemma readDocument_broken :
    (∃ cause, platform.readDocument registry path text = .error (.broken cause))
      ↔ ∃ cause, BreaksOff registry platform path text cause := by
  constructor
  · rintro ⟨cause, hbroken⟩
    rcases readDocument_eq_error registry platform hbroken with hfault | ⟨other, -, hbreaks⟩
    · obtain ⟨message, ⟨⟩⟩ := hfault.isReported
    · exact ⟨other, hbreaks⟩
  · rintro ⟨cause, hdata | ⟨value, hdata, hescapes⟩⟩
    · exact ⟨cause, by rw [Platform.readDocument, hdata]⟩
    · have hbroken : (Schema.document registry (documentData value)).cause? ≠ none := fun hnone =>
        (cause?_document_eq_none registry).mp hnone cause hescapes
      obtain ⟨other, hother⟩ := Option.ne_none_iff_exists'.mp hbroken
      have hresult : (Schema.document registry (documentData value)).result "Document"
          = .error (.broken other) := result_eq_broken.mpr hother
      exact ⟨other, by simp only [Platform.readDocument, hdata, hresult]⟩

end

/-! ### Documents from files -/

section

variable (platform : Platform) {tree : FileTree} {path : Path} {text : Text}

lemma exists?_of_read (h : tree.read path = .ok text) : tree.exists? path = .ok true := by
  rw [FileTree.read] at h
  rw [FileTree.exists?]
  cases htarget : tree.locate false path with
  | error fault =>
      rw [htarget] at h
      cases h
  | ok target =>
      cases hfile : tree.file? target with
      | some octets => simp [hfile]
      | none =>
          simp only [htarget, hfile] at h
          cases h

lemma loadDocument_of_read (h : tree.read path = .ok text) :
    platform.loadDocument registry tree path = platform.readDocument registry path text := by
  rw [Platform.loadDocument, exists?_of_read h]
  simp only [h]

end

/-- A list of one mapping, of names to texts. -/
def soleMapping (members : List (Text × Text)) : Data :=
  .arr [.obj (members.map fun member => (member.1, .str member.2))]

/-- Members are these names with these texts. -/
def areTexts : List (Text × Text) → List (Text × Data) → Bool
  | [], [] => true
  | member :: rest, (name, .str words) :: others => member = (name, words) && areTexts rest others
  | _, _ => false

lemma eq_of_areTexts {members : List (Text × Text)} {found : List (Text × Data)}
    (h : areTexts members found = true) :
    found = members.map fun member => (member.1, .str member.2) := by
  induction members, found using areTexts.induct with
  | case1 => rfl
  | case2 member rest name words others ih =>
      rw [areTexts, Bool.and_eq_true, decide_eq_true_eq] at h
      rw [ih h.2, List.map_cons, h.1]
  | case3 members found hnil hcons =>
      rw [areTexts] at h
      · cases h
      · exact hnil
      · exact hcons

/-- A text is read as a list of one mapping of names to texts. -/
def readsMapping (members : List (Text × Text)) (text : Text) : Bool :=
  match Yaml.read text with
  | .ok (.arr [.obj found]) => areTexts members found
  | _ => false

lemma yaml_of_readsMapping {members : List (Text × Text)} {text : Text}
    (h : readsMapping members text = true) :
    Platform.standard.yaml text = .ok (soleMapping members) := by
  unfold readsMapping at h
  split at h
  · rename_i found hread
    rw [Platform.standard_yaml_eq_ok hread, eq_of_areTexts h, soleMapping]
  · cases h

lemma readData_of_readsMapping {members : List (Text × Text)} {text : Text}
    (h : readsMapping members text = true) :
    Platform.standard.readData (.ofText "d.yml") text = .ok (soleMapping members) := by
  have hformat : formatOf (.ofText "d.yml") = .yaml := by decide +kernel
  rw [Platform.readData, hformat]
  simp only [yaml_of_readsMapping h]

end BlockTree
