import BlockTree.Loading
import BlockTree.Proofs.DocumentParts

/-!
Which files give options.

* `Data.isVoid`: a scalar counts for nothing, though it is not null; with null, the empty list and
  the empty mapping these are the values that are not true (`truthy_eq_false_iff`).
* `SetsOptions`: members set options: their names are known and their values valid; `IsOptions`: a
  value is a mapping of such members. `options_eq_ok` says that options are read from these values
  only.
* `LoadFault.IsReported`: a fault is reported to the user; `readOptions_eq_ok` and
  `readOptions_eq_error` give the options and the faults of all texts in which a reader finds a
  value, `readOptions_of_error` those of the others.
* `loadOptions_outcomes`: for files these together, under any reader. `Platform.DecodesYaml` is what
  a reader promises.
-/

namespace BlockTree

/-! ### Values that count for nothing -/

/-- **A scalar counts for nothing**: it is false, a zero or an empty text, or empty and of another
kind. -/
def Data.isVoid : Data → Bool
  | .bool b => !b
  | .int n => n = 0
  | .real (.finite _ mantissa _) => mantissa = 0
  | .str s => s.isEmpty
  | .foreign spelling => spelling = "b''" || spelling = "set()"
  | _ => false

/-- **The values that are not true**: null, what counts for nothing, and what is empty. -/
lemma truthy_eq_false_iff {value : Data} :
    value.truthy = false
      ↔ value = .null ∨ value.isVoid = true ∨ value = .arr [] ∨ value = .obj [] := by
  cases value with
  | real x => cases x <;> simp [Data.truthy, Data.isVoid]
  | foreign spelling => simp [Data.truthy, Data.isVoid, or_iff_not_imp_left]
  | _ => simp [Data.truthy, Data.isVoid]

/-- The members of a mapping whose names are no texts. -/
def Data.others : Data → List (Data × Data)
  | .mixed _ others => others
  | _ => []

lemma isMapping_iff {value : Data} :
    value.isMapping = true ↔ ∃ members, value.members? = some members := by
  cases value <;> simp [Data.isMapping, Data.members?]

namespace Schema

open Check

/-! ### Options from data -/

section

variable {α : Type}

/-- The value of a member, or what stands for its absence. -/
def MemberIs (members : List (Text × Data)) (name : Text) (absent : α) (reads : Data → α → Prop)
    (found : α) : Prop :=
  match Entries.find? name members with
  | none => found = absent
  | some value => reads value found

/-- A value, or null. -/
def OrNull (reads : Data → α → Prop) (value : Data) (found : Option α) : Prop :=
  value = .null ∧ found = none ∨ ∃ a, reads value a ∧ found = some a

variable {check : Data → Check α} {reads : Data → α → Prop}
  (hreads : ∀ value a, check value = .ok a ↔ reads value a)
include hreads

lemma default_eq_ok_iff {members : List (Text × Data)} {name : Text} {absent found : α} :
    Check.default members name absent check = .ok found ↔ MemberIs members name absent reads found := by
  rw [default_eq_ok, MemberIs]
  cases Entries.find? name members with
  | none => simp [eq_comm]
  | some value => simp [hreads]

lemma optional_eq_ok_iff (hnull : ∀ a, ¬ reads .null a) (value : Data) (found : Option α) :
    optional check value = .ok found ↔ OrNull reads value found := by
  cases value with
  | null => simp [optional, OrNull, hnull, eq_comm]
  | _ => simp [optional, OrNull, map_eq_ok, hreads, eq_comm]

end

/-- **Members set options**: all their names are known, and their values are those of the options. An
option that is not mentioned has its default; the prefixes and the number of workers may be null, and the
latter is an integer, or stands for one, from one on. -/
structure SetsOptions (members : List (Text × Data)) (options : Options) : Prop where
  names : ∀ name ∈ Entries.names members, name ∈ optionNames
  classPrefix : MemberIs members "code_class_prefix" none
    (OrNull fun value words => value = .str words) options.classPrefix
  strategy : MemberIs members "dispatch_strategy" .sequential
    (fun value strategy => value = .str strategy.word) options.strategy
  maxWorkers : MemberIs members "max_workers" none
    (OrNull fun value n => integer value = .ok n ∧ 1 ≤ n) options.maxWorkers

/-- **A mapping of options.** -/
def IsOptions (value : Data) (options : Options) : Prop :=
  ∃ members, value.members? = some members ∧ value.others = [] ∧ SetsOptions members options

lemma noExtra_eq_ok {members : List (Text × Data)} :
    noExtra members = .ok () ↔ ∀ name ∈ Entries.names members, name ∈ optionNames := by
  induction members with
  | nil => exact iff_of_true rfl nofun
  | cons member rest ih =>
      obtain ⟨name, value⟩ := member
      rw [noExtra, Entries.names, List.map_cons, List.forall_mem_cons, ← Entries.names, ← ih]
      by_cases hknown : name ∈ optionNames
      · rw [if_pos (List.contains_iff_mem.mpr hknown)]
        exact (and_iff_right hknown).symm
      · rw [if_neg fun h => hknown (List.contains_iff_mem.mp h), map_seq_eq_ok]
        constructor
        · rintro ⟨_, _, ⟨⟩, -⟩
        · exact fun h => (hknown h.1).elim

lemma noStrangers_eq_ok {others : List (Data × Data)} : noStrangers others = .ok () ↔ others = [] := by
  cases others with
  | nil => exact iff_of_true rfl rfl
  | cons other rest =>
      rw [noStrangers, map_seq_eq_ok]
      constructor
      · rintro ⟨_, _, ⟨⟩, -⟩
      · exact nofun

lemma text_eq_ok (value : Data) (words : Text) : text value = .ok words ↔ value = .str words := by
  cases value with
  | str s => exact ⟨fun h => Check.ok.inj h ▸ rfl, fun h => Data.str.inj h ▸ rfl⟩
  | _ => exact iff_of_false (by rintro ⟨⟩) (by rintro ⟨⟩)

lemma strategy_eq_ok (value : Data) (strategy : Strategy) :
    oneOf Strategy.word [.sequential, .parallel] value = .ok strategy
      ↔ value = .str strategy.word := by
  cases value with
  | str s =>
      rw [oneOf, Data.str.injEq]
      constructor
      · intro h
        split at h
        · rename_i found hfound
          have hword := List.find?_some hfound
          exact Check.ok.inj h ▸ (of_decide_eq_true hword).symm
        · cases h
      · rintro rfl
        cases strategy <;> rfl
  | _ => exact iff_of_false (by rintro ⟨⟩) (by rintro ⟨⟩)

lemma maxWorkers_eq_ok (value : Data) (n : Int) :
    integerFrom 1 value = .ok n ↔ integer value = .ok n ∧ 1 ≤ n := by
  rw [integerFrom, ensure_eq_ok]
  refine and_congr_right fun _ => ?_
  by_cases h : n < 1
  · simp [h]
  · simpa [h] using not_lt.mp h

lemma optionsOf_eq_ok {members : List (Text × Data)} {others : List (Data × Data)}
    {options : Options} :
    optionsOf members others = .ok options ↔ others = [] ∧ SetsOptions members options := by
  have hprefix := @default_eq_ok_iff _ _ _
    (optional_eq_ok_iff text_eq_ok (by exact nofun)) members "code_class_prefix" none
  have hstrategy := @default_eq_ok_iff _ _ _ strategy_eq_ok members "dispatch_strategy" .sequential
  have hworkers := @default_eq_ok_iff _ _ _
    (optional_eq_ok_iff maxWorkers_eq_ok (by rintro a ⟨⟨⟩, -⟩)) members "max_workers" none
  constructor
  · intro h
    obtain ⟨_, ⟨⟩, hmost, hothers, rfl⟩ := seq_eq_ok.mp h
    obtain ⟨_, ⟨⟩, hrest, hnames, rfl⟩ := seq_eq_ok.mp hmost
    obtain ⟨_, workers, hfront, hmax, rfl⟩ := seq_eq_ok.mp hrest
    obtain ⟨words, strategy, hwords, hstrat, rfl⟩ := map_seq_eq_ok.mp hfront
    exact ⟨noStrangers_eq_ok.mp hothers, noExtra_eq_ok.mp hnames, hprefix.mp hwords,
      hstrategy.mp hstrat, hworkers.mp hmax⟩
  · rintro ⟨hothers, hnames, hwords, hstrat, hmax⟩
    refine seq_eq_ok.mpr ⟨fun _ => options, (), ?_, noStrangers_eq_ok.mpr hothers, rfl⟩
    refine seq_eq_ok.mpr ⟨fun _ _ => options, (), ?_, noExtra_eq_ok.mpr hnames, rfl⟩
    refine seq_eq_ok.mpr ⟨fun workers _ _ => { options with maxWorkers := workers },
      options.maxWorkers, ?_, hworkers.mpr hmax, rfl⟩
    exact map_seq_eq_ok.mpr ⟨_, _, hprefix.mpr hwords, hstrategy.mpr hstrat, rfl⟩

/-- **Options are read** from mappings of options only, and as what these set. -/
lemma options_eq_ok {value : Data} {options : Options} :
    Schema.options value = .ok options ↔ IsOptions value options := by
  rw [IsOptions]
  cases value with
  | obj members => simp [Schema.options, optionsOf_eq_ok, Data.members?, Data.others]
  | mixed members others => simp [Schema.options, optionsOf_eq_ok, Data.members?, Data.others]
  | _ => simp [Schema.options, Check.fail, Data.members?]

/-- The reading of options comes to options, or to at least one issue. -/
lemma options_settles : Settles Schema.options := by
  have hextra : ∀ members, (noExtra members).IsSettled := by
    intro members
    induction members with
    | nil => trivial
    | cons member rest ih =>
        rw [noExtra]
        split
        · exact ih
        · exact isSettled_seq (isSettled_map _ (isSettled_within (isSettled_fail _) _)) ih
  have hstrangers : ∀ others, (noStrangers others).IsSettled := by
    intro others
    induction others with
    | nil => trivial
    | cons other rest ih =>
        exact isSettled_seq (isSettled_map _ (isSettled_within (isSettled_fail _) _)) ih
  have hoptions : ∀ members others, (optionsOf members others).IsSettled := fun members others =>
    isSettled_seq (isSettled_seq (isSettled_seq (isSettled_seq
      (isSettled_map _ (text_settles.optional.default _ _ _)) ((oneOf_settles _ _).default _ _ _))
      ((integerFrom_settles 1).optional.default _ _ _)) (hextra members)) (hstrangers others)
  intro value
  cases value with
  | obj members => exact hoptions members []
  | mixed members others => exact hoptions members others
  | _ => exact isSettled_fail _

end Schema

/-! ### Options from files -/

open Schema

lemma not_isOptions_of_isVoid {value : Data} {options : Options} (h : value.isVoid = true) :
    ¬ IsOptions value options := by
  rintro ⟨members, hmembers, -⟩
  cases value with
  | obj others => cases h
  | mixed others strange => cases h
  | _ => cases hmembers

/-- **A fault is reported** to the user in words. -/
def LoadFault.IsReported (fault : LoadFault) : Prop :=
  ∃ message, fault.report? = some message

/-- **The fault of a value that gives no options**: it is no mapping, or a mapping with issues. -/
def IsOptionsFault (path : Path) (value : Data) (fault : LoadFault) : Prop :=
  value.isMapping = false ∧ fault = .notAMapping path.text
    ∨ value.isMapping = true ∧ ∃ issues, issues ≠ []
      ∧ fault = .invalidOptions path.text ⟨"RenderOptions", issues⟩

lemma IsOptionsFault.isReported {path : Path} {value : Data} {fault : LoadFault}
    (h : IsOptionsFault path value fault) : fault.IsReported := by
  rcases h with ⟨-, rfl⟩ | ⟨-, issues, -, rfl⟩
  · exact ⟨_, rfl⟩
  · exact ⟨_, rfl⟩

section

variable {platform : Platform} {path : Path} {text : Text} {value : Data}
  (hvalue : platform.yaml text = .ok value)
include hvalue

variable (path) in
/-- **What a text comes to**: the defaults if its value is not true, else options or a fault. -/
lemma readOptions_cases :
    value.truthy = false ∧ platform.readOptions path text = .ok {}
      ∨ value.truthy = true
        ∧ ((∃ options, IsOptions value options ∧ platform.readOptions path text = .ok options)
          ∨ (∀ options, ¬ IsOptions value options)
            ∧ ∃ fault, IsOptionsFault path value fault
              ∧ platform.readOptions path text = .error fault) := by
  simp only [← options_eq_ok]
  cases htruthy : value.truthy with
  | false =>
      refine Or.inl ⟨rfl, ?_⟩
      simp only [Platform.readOptions, hvalue, htruthy, Bool.false_eq_true, if_false]
      rfl
  | true =>
      refine Or.inr ⟨rfl, ?_⟩
      cases hmapping : value.isMapping with
      | false =>
          have hnone : ∀ options, Schema.options value ≠ .ok options := by
            cases value with
            | obj members => cases hmapping
            | mixed members others => cases hmapping
            | _ => rintro options ⟨⟩
          refine Or.inr ⟨hnone, _, Or.inl ⟨hmapping, rfl⟩, ?_⟩
          simp only [Platform.readOptions, hvalue, htruthy, hmapping, Bool.false_eq_true, if_true,
            if_false]
      | true =>
          have hsettled := options_settles value
          cases hoptions : Schema.options value with
          | ok options =>
              refine Or.inl ⟨options, rfl, ?_⟩
              simp only [Platform.readOptions, hvalue, htruthy, hmapping, hoptions, Check.result,
                if_true]
          | invalid issues =>
              rw [hoptions] at hsettled
              refine Or.inr ⟨by rintro options ⟨⟩, _, Or.inr ⟨hmapping, issues, hsettled, rfl⟩, ?_⟩
              simp only [Platform.readOptions, hvalue, htruthy, hmapping, hoptions, Check.result,
                if_true]
          | broken cause =>
              rw [hoptions] at hsettled
              exact hsettled.elim

/-- **The options of a text**: those that its value sets, or the defaults if it counts for nothing. -/
lemma readOptions_eq_ok {options : Options} :
    platform.readOptions path text = .ok options
      ↔ IsOptions value options
        ∨ (value = .null ∨ value.isVoid = true ∨ value = .arr []) ∧ options = {} := by
  rcases readOptions_cases path hvalue with ⟨hfalse, hread⟩ | ⟨htrue, hread⟩
  · have hdefaults : platform.readOptions path text = .ok options ↔ options = {} := by
      rw [hread, Except.ok.injEq, eq_comm]
    rw [hdefaults]
    rcases truthy_eq_false_iff.mp hfalse with rfl | hscalar | rfl | rfl
    · simp [IsOptions, Data.members?]
    · rw [or_iff_right (not_isOptions_of_isVoid hscalar), and_iff_right (Or.inr (Or.inl hscalar))]
    · simp [IsOptions, Data.members?]
    · rw [← options_eq_ok, or_iff_left (by rintro ⟨⟨⟨⟩⟩ | ⟨⟨⟩⟩ | ⟨⟨⟩⟩, -⟩)]
      exact ⟨fun h => h ▸ rfl, fun h => (Check.ok.inj h).symm⟩
  · have hcounts : ¬ ((value = .null ∨ value.isVoid = true ∨ value = .arr []) ∧ options = {}) := by
      rintro ⟨hempty, -⟩
      rw [truthy_eq_false_iff.mpr (by tauto)] at htrue
      cases htrue
    rw [or_iff_left hcounts]
    rcases hread with ⟨found, hfound, hread⟩ | ⟨hnone, fault, -, hread⟩
    · rw [hread, Except.ok.injEq]
      constructor
      · rintro rfl
        exact hfound
      · exact fun hoptions =>
          Check.ok.inj ((options_eq_ok.mpr hfound).symm.trans (options_eq_ok.mpr hoptions))
    · rw [hread]
      exact iff_of_false (by rintro ⟨⟩) (hnone options)

/-- **The faults of a text** with a value are reported. -/
lemma readOptions_eq_error {fault : LoadFault} (h : platform.readOptions path text = .error fault) :
    IsOptionsFault path value fault := by
  rcases readOptions_cases path hvalue with
    ⟨-, hread⟩ | ⟨-, ⟨options, -, hread⟩ | ⟨-, other, hother, hread⟩⟩
  · rw [hread] at h
    cases h
  · rw [hread] at h
    cases h
  · rw [hread] at h
    exact Except.error.inj h ▸ hother

end

/-- The fault of a text in which a reader finds no value. -/
def LoadFault.ofReader : ReadFault → LoadFault
  | .malformed => .malformedOptions
  | .broken cause => .broken cause

section

variable {platform : Platform} {path : Path} {text : Text}

lemma readOptions_of_error {fault : ReadFault} (h : platform.yaml text = .error fault) :
    platform.readOptions path text = .error (.ofReader fault) := by
  simp only [Platform.readOptions, h]
  cases fault <;> rfl

lemma not_isReported_ofReader (fault : ReadFault) : ¬ (LoadFault.ofReader fault).IsReported := by
  rintro ⟨message, hmessage⟩
  cases fault <;> cases hmessage

lemma loadOptions_of_read {tree : FileTree} (h : tree.read path = .ok text) :
    platform.loadOptions tree path = platform.readOptions path text := by
  rw [Platform.loadOptions, h]

end

/-- **A reader keeps its contract** on a text: it decodes the text, or finds it malformed. -/
def Platform.DecodesYaml (platform : Platform) (text : Text) : Prop :=
  ∀ cause, platform.yaml text ≠ .error (.broken cause)

/-- A tree with one file. -/
def soleFile (name text : Text) : FileTree := [(name, Utf8.encode text)]

lemma Platform.standard_yaml_eq_ok {text : Text} {value : Data} (h : Yaml.read text = .ok value) :
    Platform.standard.yaml text = .ok value := by
  simp only [Platform.standard, h, Except.mapError]

/-- A text is read as an empty list. -/
def readsEmptyList (text : Text) : Bool :=
  match Yaml.read text with
  | .ok (.arr []) => true
  | _ => false

lemma yaml_of_readsEmptyList {text : Text} (h : readsEmptyList text = true) :
    Platform.standard.yaml text = .ok (.arr []) := by
  unfold readsEmptyList at h
  split at h
  · exact Platform.standard_yaml_eq_ok (by assumption)
  · cases h

end BlockTree
