import BlockTree.CommandLine.Program
import BlockTree.Proofs.Action

/-!
What one more switch changes about a request.

* `Reads`: the kinds of arguments that are read without a remainder, switch by switch; it is what
  `readArguments` makes of them (`reads_of_readArguments`, `readArguments_of_reads`).
* `Reads.insert`: a switch without a value, put in anywhere, changes nothing but its own value.
* `ofArguments_insert_parallel`: a request to render that is understood with `--parallel` put in
  anywhere is the same request in parallel, and `isRender_parallel_cons` that it is always
  understood in front of the other arguments.
-/

namespace BlockTree.CommandLine

/-! ### Kinds of arguments -/

namespace Interface

variable {interface : Interface}

lemma text_of_classifyOne {argument : Text} {kind : Argument}
    (h : interface.classifyOne argument = .ok kind) : kind.text = argument := by
  simp only [classifyOne] at h
  split at h
  · rename_i hdashes
    rw [← Except.ok.inj h, hdashes]
    rfl
  · split at h
    · rw [← Except.ok.inj h]
      rfl
    · split at h
      · rw [← Except.ok.inj h]
        rfl
      · split at h
        · rw [← Except.ok.inj h]
          rfl
        · split at h <;> rw [← Except.ok.inj h] <;> rfl
        · exact nomatch h

lemma map_text_of_classify {arguments : List Text} {kinds : List Argument}
    (h : interface.classify arguments = .ok kinds) : kinds.map Argument.text = arguments := by
  induction arguments generalizing kinds with
  | nil =>
      rw [← Except.ok.inj h]
      rfl
  | cons argument rest ih =>
      rw [classify] at h
      split at h
      · exact nomatch h
      · rename_i hdashes
        rw [← Except.ok.inj h, List.map_cons, text_of_classifyOne hdashes, List.map_map]
        exact congrArg _ (List.map_id rest)
      · rename_i kind _ hkind
        obtain ⟨others, hothers, rfl⟩ := map_eq_ok_iff.mp h
        rw [List.map_cons, text_of_classifyOne hkind, ih hothers]

/-- In front of no dashes, arguments are classified one by one. -/
lemma mapM_of_classify {arguments : List Text} {kinds : List Argument}
    (h : interface.classify arguments = .ok kinds) (hdashes : .dashes ∉ kinds) :
    arguments.mapM interface.classifyOne = .ok kinds := by
  induction arguments generalizing kinds with
  | nil => exact h
  | cons argument rest ih =>
      rw [classify] at h
      split at h
      · exact nomatch h
      · rw [← Except.ok.inj h] at hdashes
        exact absurd List.mem_cons_self hdashes
      · rename_i kind _ hkind
        obtain ⟨others, hothers, rfl⟩ := map_eq_ok_iff.mp h
        rw [List.mapM_cons, hkind, ih hothers fun hmem => hdashes (List.mem_cons_of_mem _ hmem)]
        rfl

/-- **One more argument** is one more kind of argument in the same place, and the others stay what
they are. -/
lemma classify_insert {front back : List Text} {argument : Text} {kinds others : List Argument}
    (h : interface.classify (front ++ back) = .ok kinds) (hdashes : .dashes ∉ kinds)
    (hinserted : interface.classify (front ++ argument :: back) = .ok others)
    (hnodashes : .dashes ∉ others) :
    ∃ first kind last, kinds = first ++ last ∧ others = first ++ kind :: last
      ∧ interface.classifyOne argument = .ok kind := by
  have hall := mapM_of_classify h hdashes
  have hmore := mapM_of_classify hinserted hnodashes
  rw [List.mapM_append] at hall hmore
  obtain ⟨first, hfirst, hall⟩ := outcome_bind_eq_ok.mp hall
  obtain ⟨last, hlast, hkinds⟩ := outcome_bind_eq_ok.mp hall
  obtain ⟨again, hagain, hmore⟩ := outcome_bind_eq_ok.mp hmore
  obtain ⟨tail, htail, hothers⟩ := outcome_bind_eq_ok.mp hmore
  obtain rfl : first = again := Except.ok.inj (hfirst.symm.trans hagain)
  rw [List.mapM_cons] at htail
  obtain ⟨kind, hkind, htail⟩ := outcome_bind_eq_ok.mp htail
  obtain ⟨lastAgain, hlastAgain, htail⟩ := outcome_bind_eq_ok.mp htail
  obtain rfl : last = lastAgain := Except.ok.inj (hlast.symm.trans hlastAgain)
  obtain rfl : kind :: last = tail := Except.ok.inj htail
  exact ⟨first, kind, last, (Except.ok.inj hkinds).symm, (Except.ok.inj hothers).symm, hkind⟩

end Interface

/-! ### Uses of switches -/

/-- The values that a text joined to a switch stands for: a pair of dashes is none. -/
def joinedValues (value : Text) : List Text :=
  if value = ['-', '-'] then [] else [value]

/-- **Kinds of arguments that are read without a remainder**, from the values before to the values
after them: switches, each with its value if it takes one. -/
inductive Reads : Entries (List Text) → List Argument → Entries (List Text) → Prop where
  | nil (values : Entries (List Text)) : Reads values [] values
  | flag {values after : Entries (List Text)} {text : Text} {use : Use} {rest : List Argument}
      (hplain : use.switch.takesValue = false) (hflag : use.applyFlag = .flag)
      (hrest : Reads (values.insert use.switch.key []) rest after) :
      Reads values (.switch text (some use) :: rest) after
  | joined {values after : Entries (List Text)} {text value : Text} {use : Use}
      {rest : List Argument} (htakes : use.switch.takesValue = true)
      (hjoined : use.joined = some value)
      (hrest : Reads (values.insert use.switch.key (joinedValues value)) rest after) :
      Reads values (.switch text (some use) :: rest) after
  | next {values after : Entries (List Text)} {text value : Text} {use : Use}
      {rest : List Argument} (htakes : use.switch.takesValue = true) (hjoined : use.joined = none)
      (hrest : Reads (values.insert use.switch.key [value]) rest after) :
      Reads values (.switch text (some use) :: .operand value :: rest) after

lemma Reads.dashes_notMem {values after : Entries (List Text)} {kinds : List Argument}
    (h : Reads values kinds after) : .dashes ∉ kinds := by
  induction h with
  | nil => exact List.not_mem_nil
  | flag _ _ _ ih => simpa using ih
  | joined _ _ _ ih => simpa using ih
  | next _ _ _ ih => simpa using ih

namespace Reads

variable {values after : Entries (List Text)} {text value : Text} {use : Use}
  {rest : List Argument}

lemma of_flag (h : Reads values (.switch text (some use) :: rest) after)
    (hplain : use.switch.takesValue = false) :
    Reads (values.insert use.switch.key []) rest after := by
  cases h with
  | flag _ _ hrest => exact hrest
  | joined htakes => exact absurd (hplain.symm.trans htakes) Bool.false_ne_true
  | next htakes => exact absurd (hplain.symm.trans htakes) Bool.false_ne_true

lemma of_joined (h : Reads values (.switch text (some use) :: rest) after)
    (htakes : use.switch.takesValue = true) (hjoined : use.joined = some value) :
    Reads (values.insert use.switch.key (joinedValues value)) rest after := by
  cases h with
  | flag hplain => exact absurd (hplain.symm.trans htakes) Bool.false_ne_true
  | joined _ hagain hrest =>
      obtain rfl := Option.some.inj (hjoined.symm.trans hagain)
      exact hrest
  | next _ hnone => exact nomatch hjoined.symm.trans hnone

lemma of_next (h : Reads values (.switch text (some use) :: rest) after)
    (htakes : use.switch.takesValue = true) (hjoined : use.joined = none) :
    ∃ value tail, rest = .operand value :: tail
      ∧ Reads (values.insert use.switch.key [value]) tail after := by
  cases h with
  | flag hplain => exact absurd (hplain.symm.trans htakes) Bool.false_ne_true
  | joined _ hsome => exact nomatch hjoined.symm.trans hsome
  | next _ _ hrest => exact ⟨_, _, rfl, hrest⟩

end Reads

namespace Use

variable {use : Use} {value : Text}

lemma apply_plain (h : use.switch.takesValue = false) (rest : List Argument) :
    use.apply rest = use.applyFlag := by
  unfold apply
  exact if_neg (by simp [h])

lemma apply_joined (h : use.switch.takesValue = true) (hjoined : use.joined = some value)
    (rest : List Argument) : use.apply rest = .values (joinedValues value) false := by
  simp only [apply, h, if_true, hjoined, joinedValues]

lemma apply_next (h : use.switch.takesValue = true) (hjoined : use.joined = none)
    (rest : List Argument) : use.apply (.operand value :: rest) = .values [value] true := by
  simp only [apply, h, if_true, hjoined]

lemma applyFlag_ne_values (use : Use) (values : List Text) (fromNext : Bool) :
    use.applyFlag ≠ .values values fromNext := by
  have hhelp : ∀ value, useShortHelp value ≠ .values values fromNext := by
    intro value
    rw [useShortHelp]
    split <;> nofun
  rw [applyFlag]
  split
  · split
    · exact hhelp _
    · nofun
  · split <;> nofun

end Use

lemma readArguments_switch (operand : Operand) (acc : Parsed) (fuel : Nat) (text : Text)
    (use : Use) (rest : List Argument) :
    readArguments operand acc (fuel + 1) (.switch text (some use) :: rest)
      = match use.apply rest with
        | .help => .help
        | .misuse complaint => .misuse complaint
        | .flag =>
          readArguments operand { acc with values := acc.values.insert use.switch.key [] } fuel rest
        | .values values fromNext =>
          readArguments operand { acc with values := acc.values.insert use.switch.key values } fuel
            (if fromNext then rest.drop 1 else rest) := by
  rw [readArguments]
  exact if_neg (by simp [Argument.isSwitch])

/-- What is read is read without a remainder. -/
lemma readArguments_of_reads {values after : Entries (List Text)} {kinds : List Argument}
    (h : Reads values kinds after) (operands : List Text) {fuel : Nat}
    (hfuel : kinds.length < fuel) :
    readArguments .nothing ⟨values, operands, []⟩ fuel kinds = .parsed ⟨after, operands, []⟩ := by
  induction h generalizing fuel with
  | nil =>
      obtain ⟨fuel, rfl⟩ := Nat.exists_eq_add_of_lt hfuel
      rfl
  | flag hplain hflag _ ih =>
      obtain _ | fuel := fuel
      · exact absurd hfuel (Nat.not_lt_zero _)
      · rw [readArguments_switch, Use.apply_plain hplain, hflag]
        exact ih (Nat.lt_of_succ_lt_succ hfuel)
  | joined htakes hjoined _ ih =>
      obtain _ | fuel := fuel
      · exact absurd hfuel (Nat.not_lt_zero _)
      · rw [readArguments_switch, Use.apply_joined htakes hjoined]
        exact ih (Nat.lt_of_succ_lt_succ hfuel)
  | next htakes hjoined _ ih =>
      obtain _ | fuel := fuel
      · exact absurd hfuel (Nat.not_lt_zero _)
      · rw [readArguments_switch, Use.apply_next htakes hjoined]
        exact ih (Nat.lt_of_succ_lt (Nat.lt_of_succ_lt_succ hfuel))

lemma operandCount_nothing (kinds : List Argument) : operandCount .nothing kinds = 0 := by
  rw [operandCount] <;> nofun

lemma readArguments_unknown (acc : Parsed) (fuel : Nat) (text : Text) (rest : List Argument) :
    readArguments .nothing acc (fuel + 1) (.switch text none :: rest)
      = readArguments .nothing { acc with extras := acc.extras ++ [text] } fuel rest := by
  rw [readArguments]
  exact if_neg (by simp [Argument.isSwitch])

/-- Without an operand to come, an argument that is no switch is left over. -/
lemma extras_of_not_isSwitch {fuel : Nat} {acc parsed : Parsed} {first : Argument}
    {rest : List Argument} (hfirst : first.isSwitch = false)
    (h : readArguments .nothing acc (fuel + 1) (first :: rest) = .parsed parsed) :
    parsed.extras ≠ [] ∨ ∃ more others, more.extras ≠ [] ∧ others.length ≤ rest.length
      ∧ readArguments .nothing more fuel others = .parsed parsed := by
  have hstep : readArguments .nothing acc (fuel + 1) (first :: rest)
      = if !(first :: rest).any Argument.isSwitch then
          .parsed { acc with extras := acc.extras ++ (first :: rest).map Argument.text }
        else
          readArguments .nothing
            { acc with
              extras := acc.extras
                ++ ((first :: rest).takeWhile (!·.isSwitch)).map Argument.text }
            fuel ((first :: rest).dropWhile (!·.isSwitch)) := by
    cases first with
    | switch text use => exact nomatch hfirst
    | operand text => rw [readArguments, operandCount_nothing] <;> first | rfl | nofun
    | dashes => rw [readArguments, operandCount_nothing] <;> first | rfl | nofun
  rw [hstep] at h
  split at h
  · obtain rfl : _ = parsed := Reading.parsed.inj h
    exact Or.inl (by simp)
  · refine Or.inr ⟨_, _, ?_, ?_, h⟩
    · simp [hfirst]
    · rw [List.dropWhile_cons_of_pos (by simp [hfirst])]
      exact (List.dropWhile_suffix _).length_le

/-- **A switch that is read** takes no value, has one joined to it, or takes the argument behind
it. -/
lemma switch_cases {fuel : Nat} {acc parsed : Parsed} {text : Text} {use : Use}
    {rest : List Argument}
    (h : readArguments .nothing acc (fuel + 1) (.switch text (some use) :: rest)
      = .parsed parsed) :
    (use.switch.takesValue = false ∧ use.applyFlag = .flag
      ∧ readArguments .nothing { acc with values := acc.values.insert use.switch.key [] } fuel rest
        = .parsed parsed)
    ∨ (∃ value, use.switch.takesValue = true ∧ use.joined = some value
      ∧ readArguments .nothing
          { acc with values := acc.values.insert use.switch.key (joinedValues value) } fuel rest
        = .parsed parsed)
    ∨ ∃ value tail, use.switch.takesValue = true ∧ use.joined = none
      ∧ rest = .operand value :: tail
      ∧ readArguments .nothing { acc with values := acc.values.insert use.switch.key [value] } fuel
          tail = .parsed parsed := by
  rw [readArguments_switch] at h
  cases htakes : use.switch.takesValue with
  | false =>
      rw [Use.apply_plain htakes] at h
      cases hflag : use.applyFlag with
      | flag =>
          rw [hflag] at h
          exact Or.inl ⟨rfl, rfl, h⟩
      | values values fromNext => exact absurd hflag (use.applyFlag_ne_values values fromNext)
      | help =>
          rw [hflag] at h
          exact nomatch h
      | misuse complaint =>
          rw [hflag] at h
          exact nomatch h
  | true =>
      cases hjoined : use.joined with
      | some value =>
          rw [Use.apply_joined htakes hjoined] at h
          exact Or.inr (Or.inl ⟨value, rfl, rfl, h⟩)
      | none =>
          rcases rest with _ | ⟨value | _ | ⟨text, use⟩, tail⟩
          · simp [Use.apply, htakes, hjoined] at h
          · rw [Use.apply_next htakes hjoined] at h
            exact Or.inr (Or.inr ⟨value, tail, rfl, rfl, rfl, h⟩)
          · simp [Use.apply, htakes, hjoined] at h
          · simp [Use.apply, htakes, hjoined] at h

/-- **Arguments that leave no remainder** are switches with their values. -/
lemma reads_of_readArguments {fuel : Nat} {acc parsed : Parsed} {kinds : List Argument}
    (h : readArguments .nothing acc fuel kinds = .parsed parsed) (hfuel : kinds.length < fuel)
    (hextras : parsed.extras = []) :
    Reads acc.values kinds parsed.values ∧ acc.extras = [] ∧ parsed.operands = acc.operands := by
  induction fuel generalizing acc kinds with
  | zero => exact absurd hfuel (Nat.not_lt_zero _)
  | succ fuel ih =>
      rcases kinds with _ | ⟨first, rest⟩
      · obtain rfl : _ = parsed := Reading.parsed.inj h
        exact ⟨.nil _, by simpa using hextras, rfl⟩
      have hrest : rest.length < fuel := Nat.lt_of_succ_lt_succ hfuel
      cases hfirst : first.isSwitch with
      | false =>
          rcases extras_of_not_isSwitch hfirst h with hleft | ⟨more, others, hleft, hlength, hmore⟩
          · exact absurd hextras hleft
          · exact absurd (ih hmore (Nat.lt_of_le_of_lt hlength hrest)).2.1 hleft
      | true =>
          rcases first with _ | _ | ⟨text, _ | use⟩
          · exact nomatch hfirst
          · exact nomatch hfirst
          · rw [readArguments_unknown] at h
            exact absurd (ih h hrest).2.1 (by simp)
          · rcases switch_cases h with ⟨hplain, hflag, h⟩ | ⟨value, htakes, hjoined, h⟩
              | ⟨value, tail, htakes, hjoined, rfl, hnext⟩
            · obtain ⟨hreads, hnone, hoperands⟩ := ih h hrest
              exact ⟨.flag hplain hflag hreads, hnone, hoperands⟩
            · obtain ⟨hreads, hnone, hoperands⟩ := ih h hrest
              exact ⟨.joined htakes hjoined hreads, hnone, hoperands⟩
            · obtain ⟨hreads, hnone, hoperands⟩ := ih hnext (Nat.lt_of_succ_lt hrest)
              exact ⟨.next htakes hjoined hreads, hnone, hoperands⟩

/-! ### One more switch -/

/-- **The same values** but for those of one name. -/
def AgreeExcept (key : Text) (first second : Entries (List Text)) : Prop :=
  ∀ name, name ≠ key → first.find? name = second.find? name

section

variable {key : Text} {first second : Entries (List Text)}

lemma AgreeExcept.insert (h : AgreeExcept key first second) (name : Text) (value : List Text) :
    AgreeExcept key (first.insert name value) (second.insert name value) := by
  intro other hother
  rw [Entries.find?_insert, Entries.find?_insert, h other hother]

lemma AgreeExcept.insert_right (h : AgreeExcept key first second) (value : List Text) :
    AgreeExcept key first (second.insert key value) := by
  intro other hother
  rw [Entries.find?_insert, if_neg hother, h other hother]

lemma isSome_insert {name : Text} {value : List Text} (h : (first.find? key).isSome = true) :
    ((first.insert name value).find? key).isSome = true := by
  rw [Entries.find?_insert]
  split
  · rfl
  · exact h

/-- What is read from values that agree agrees. -/
lemma Reads.agree {kinds : List Argument} {after others : Entries (List Text)}
    (h : Reads first kinds after) (hsecond : Reads second kinds others)
    (hagree : AgreeExcept key first second) (hkey : (second.find? key).isSome = true) :
    AgreeExcept key after others ∧ (others.find? key).isSome = true := by
  induction h generalizing second with
  | nil =>
      cases hsecond
      exact ⟨hagree, hkey⟩
  | flag hplain _ _ ih =>
      exact ih (hsecond.of_flag hplain) (hagree.insert _ _) (isSome_insert hkey)
  | joined htakes hjoined _ ih =>
      exact ih (hsecond.of_joined htakes hjoined) (hagree.insert _ _) (isSome_insert hkey)
  | next htakes hjoined _ ih =>
      obtain ⟨value, tail, htail, hsecond⟩ := hsecond.of_next htakes hjoined
      cases htail
      exact ih hsecond (hagree.insert _ _) (isSome_insert hkey)

end

/-- Whether arguments leave a remainder does not depend on the values before them. -/
lemma Reads.exists_of_values {values after : Entries (List Text)} {kinds : List Argument}
    (h : Reads values kinds after) (others : Entries (List Text)) :
    ∃ final, Reads others kinds final := by
  induction h generalizing others with
  | nil => exact ⟨others, .nil others⟩
  | flag hplain hflag _ ih => exact (ih _).imp fun _ => .flag hplain hflag
  | joined htakes hjoined _ ih => exact (ih _).imp fun _ => .joined htakes hjoined
  | next htakes hjoined _ ih => exact (ih _).imp fun _ => .next htakes hjoined

section

variable {back : List Argument} {text : Text} {use : Use}
  {values others after final : Entries (List Text)}

/-- A switch without a value in front of others changes its own value. -/
lemma Reads.insert_head (h : Reads values back after)
    (hmore : Reads others (.switch text (some use) :: back) final)
    (hplain : use.switch.takesValue = false) (hagree : AgreeExcept use.switch.key values others) :
    AgreeExcept use.switch.key after final ∧ (final.find? use.switch.key).isSome = true := by
  refine h.agree (hmore.of_flag hplain) (hagree.insert_right []) ?_
  rw [Entries.find?_insert, if_pos rfl]
  rfl

/-- **A switch without a value**, put in anywhere where it is read, changes no value but its own. -/
lemma Reads.insert {front kinds : List Argument} (h : Reads values kinds after)
    (hkinds : kinds = front ++ back)
    (hmore : Reads others (front ++ .switch text (some use) :: back) final)
    (hplain : use.switch.takesValue = false) (hagree : AgreeExcept use.switch.key values others) :
    AgreeExcept use.switch.key after final ∧ (final.find? use.switch.key).isSome = true := by
  induction h generalizing front others with
  | nil values =>
      obtain ⟨rfl, rfl⟩ := List.append_eq_nil_iff.mp hkinds.symm
      exact (Reads.nil values).insert_head hmore hplain hagree
  | flag hflagPlain hflag hrest ih =>
      rcases front with _ | ⟨first, front⟩
      · obtain rfl : _ = back := hkinds
        exact (Reads.flag hflagPlain hflag hrest).insert_head hmore hplain hagree
      · obtain ⟨rfl, rfl⟩ := List.cons.inj hkinds
        exact ih rfl (hmore.of_flag hflagPlain) (hagree.insert _ _)
  | joined htakes hjoined hrest ih =>
      rcases front with _ | ⟨first, front⟩
      · obtain rfl : _ = back := hkinds
        exact (Reads.joined htakes hjoined hrest).insert_head hmore hplain hagree
      · obtain ⟨rfl, rfl⟩ := List.cons.inj hkinds
        exact ih rfl (hmore.of_joined htakes hjoined) (hagree.insert _ _)
  | next htakes hjoined hrest ih =>
      rcases front with _ | ⟨first, front⟩
      · obtain rfl : _ = back := hkinds
        exact (Reads.next htakes hjoined hrest).insert_head hmore hplain hagree
      · obtain ⟨rfl, hfront⟩ := List.cons.inj hkinds
        obtain ⟨value, tail, htail, hmore⟩ := hmore.of_next htakes hjoined
        -- The new switch does not stand between the other one and its value.
        rcases front with _ | ⟨second, front⟩
        · exact nomatch (List.cons.inj htail).1
        · obtain ⟨rfl, rfl⟩ := List.cons.inj hfront
          obtain ⟨hvalue, rfl⟩ := List.cons.inj htail
          cases hvalue
          exact ih rfl hmore (hagree.insert _ _)

end

/-! ### Requests -/

/-- A document is to be rendered, although none may be named. -/
def Request.IsRender : Request → Prop
  | .render _ => True
  | .renderNothing => True
  | _ => False

/-- The same request in parallel. -/
def Request.inParallel : Request → Request
  | .render request => .render { request with parallel := true }
  | request => request

/-- The name of the switch for the parallel strategy. -/
def parallelName : Text := "--parallel"

/-- The switch for the parallel strategy. -/
def parallelSwitch : Switch := ⟨[parallelName], false⟩

lemma commandRequest_render (arguments : List Text) :
    commandRequest [] "render" arguments
      = match renderCommand.read arguments with
        | .help => .help renderCommand.help
        | .misuse complaint => .misuse renderCommand complaint
        | .parsed parsed => withoutExtras parsed.extras (.ofRender parsed) := by
  have hfind : (commands.find? fun command => command.1 = ("render" : Text))
      = some (("render" : Text), renderCommand, Request.ofRender) := rfl
  unfold commandRequest
  rw [hfind]
  rfl

/-- The name of the command is no switch. -/
lemma classifyOne_render : program.classifyOne "render" = .ok (.operand "render") := by
  decide

/-- All arguments behind the name of a command belong to it. -/
lemma ofArguments_render {arguments : List Text} {kinds : List Argument}
    (h : program.classify arguments = .ok kinds) :
    Request.ofArguments ("render" :: arguments) = commandRequest [] "render" arguments := by
  have hkinds : program.classify ("render" :: arguments) = .ok (.operand "render" :: kinds) := by
    rw [Interface.classify, classifyOne_render, h]
    rfl
  have hcount : operandCount .command (.operand "render" :: kinds) = kinds.length + 1 := rfl
  have htake : (Argument.operand "render" :: kinds).take (kinds.length + 1)
      = .operand "render" :: kinds := List.take_of_length_le (Nat.le_refl _)
  have hdrop : (Argument.operand "render" :: kinds).drop (kinds.length + 1) = [] :=
    List.drop_of_length_le (Nat.le_refl _)
  have hall : readArguments .command ⟨[], [], []⟩ (kinds.length + 2) (.operand "render" :: kinds)
      = .parsed ⟨[], "render" :: arguments, []⟩ := by
    rw [← Interface.map_text_of_classify h, readArguments, hcount, htake, hdrop]
    · split <;> rfl
    · nofun
    · nofun
  have hread : program.read ("render" :: arguments)
      = .parsed ⟨[], "render" :: arguments, []⟩ := by
    unfold Interface.read
    rw [hkinds]
    simp only [List.length_cons]
    rw [show program.operand = .command from rfl, hall]
    rfl
  unfold Request.ofArguments
  rw [hread]

lemma isRender_ofRender (parsed : Parsed) : (Request.ofRender parsed).IsRender := by
  unfold Request.ofRender
  split <;> trivial

lemma isEmpty_missing (parsed : Parsed) :
    (renderCommand.missing parsed).isEmpty = (parsed.values.find? "--input").isSome := by
  have hmissing : renderCommand.missing parsed
      = (["--input".toList].filter fun name => (parsed.values.find? name).isNone) ++ [] := rfl
  rw [hmissing, List.append_nil, List.filter_singleton]
  cases parsed.values.find? "--input" <;> rfl

lemma Interface.read_eq_parsed {interface : Interface} {arguments : List Text} {parsed : Parsed}
    (h : interface.read arguments = .parsed parsed) :
    ∃ kinds, interface.classify arguments = .ok kinds
      ∧ readArguments interface.operand ⟨[], [], []⟩ (kinds.length + 1) kinds = .parsed parsed
      ∧ (interface.missing parsed).isEmpty = true := by
  unfold read at h
  split at h
  · exact nomatch h
  · rename_i kinds hkinds
    split at h
    · rename_i found hfound
      simp only at h
      split at h
      · rename_i hmissing
        obtain rfl : found = parsed := Reading.parsed.inj h
        exact ⟨kinds, hkinds, hfound, hmissing⟩
      · exact nomatch h
    · rename_i hnone
      exact (hnone parsed h).elim

/-- **What a request to render is read from**: switches with their values, one of which names the
document. -/
lemma exists_reads {arguments : List Text}
    (h : (Request.ofArguments ("render" :: arguments)).IsRender) :
    ∃ words kinds values, program.classify arguments = .ok words
      ∧ renderCommand.classify arguments = .ok kinds ∧ Reads [] kinds values
      ∧ (values.find? "--input").isSome = true
      ∧ Request.ofArguments ("render" :: arguments) = .ofRender ⟨values, [], []⟩ := by
  cases hwords : program.classify arguments with
  | error complaint =>
      have hread : program.read ("render" :: arguments) = .misuse complaint := by
        rw [Interface.read, Interface.classify, classifyOne_render, hwords]
        rfl
      unfold Request.ofArguments at h
      rw [hread] at h
      exact h.elim
  | ok words =>
      rw [ofArguments_render hwords, commandRequest_render] at h ⊢
      cases hread : renderCommand.read arguments with
      | help => rw [hread] at h; exact h.elim
      | misuse complaint => rw [hread] at h; exact h.elim
      | parsed parsed =>
          rw [hread] at h
          simp only at h ⊢
          rw [withoutExtras] at h ⊢
          split at h
          · rename_i hextras
            obtain ⟨kinds, hkinds, hfound, hmissing⟩ := Interface.read_eq_parsed hread
            have hnone : parsed.extras = [] := List.isEmpty_iff.mp hextras
            obtain ⟨hreads, -, hoperands⟩ :=
              reads_of_readArguments hfound (Nat.lt_succ_self _) hnone
            refine ⟨words, kinds, parsed.values, rfl, hkinds, hreads, ?_, ?_⟩
            · rw [← isEmpty_missing, hmissing]
            · obtain ⟨values, operands, extras⟩ := parsed
              obtain rfl : extras = [] := hnone
              obtain rfl : operands = [] := hoperands
              rfl
          · exact h.elim

/-- Conversely, what is read so is a request to render. -/
lemma ofArguments_of_reads {arguments : List Text} {words kinds : List Argument}
    {values : Entries (List Text)} (hwords : program.classify arguments = .ok words)
    (hkinds : renderCommand.classify arguments = .ok kinds) (hreads : Reads [] kinds values)
    (hinput : (values.find? "--input").isSome = true) :
    Request.ofArguments ("render" :: arguments) = .ofRender ⟨values, [], []⟩ := by
  have hread : renderCommand.read arguments = .parsed ⟨values, [], []⟩ := by
    unfold Interface.read
    rw [hkinds]
    simp only
    rw [show renderCommand.operand = .nothing from rfl,
      readArguments_of_reads hreads [] (Nat.lt_succ_self _)]
    simp only
    rw [isEmpty_missing, hinput, if_pos rfl]
  rw [ofArguments_render hwords, commandRequest_render, hread]
  rfl

lemma ofRender_inParallel {first second : Entries (List Text)}
    (hagree : AgreeExcept parallelName first second)
    (hparallel : (second.find? parallelName).isSome = true) :
    Request.ofRender ⟨second, [], []⟩ = (Request.ofRender ⟨first, [], []⟩).inParallel := by
  have hvalue : ∀ name, name ≠ parallelName →
      Parsed.value? ⟨second, [], []⟩ name = Parsed.value? ⟨first, [], []⟩ name := by
    intro name hname
    rw [Parsed.value?, Parsed.value?, hagree name hname]
  have hfilled : ∀ name, name ≠ parallelName →
      Parsed.filled? ⟨second, [], []⟩ name = Parsed.filled? ⟨first, [], []⟩ name := by
    intro name hname
    rw [Parsed.filled?, Parsed.filled?, hvalue name hname]
  have hflag : ∀ name, name ≠ parallelName →
      Parsed.flag ⟨second, [], []⟩ name = Parsed.flag ⟨first, [], []⟩ name := by
    intro name hname
    rw [Parsed.flag, Parsed.flag, hagree name hname]
  have hrequest : ∀ input, RenderRequest.ofParsed input ⟨second, [], []⟩
      = { RenderRequest.ofParsed input ⟨first, [], []⟩ with parallel := true } := by
    intro input
    unfold RenderRequest.ofParsed
    rw [hfilled _ (by decide), hfilled _ (by decide), hfilled _ (by decide), hfilled _ (by decide),
      hflag _ (by decide), show Parsed.flag ⟨second, [], []⟩ "--parallel" = true from hparallel]
  unfold Request.ofRender
  rw [hvalue _ (by decide)]
  cases Parsed.value? ⟨first, [], []⟩ "--input" with
  | none => rfl
  | some input => exact congrArg Request.render (hrequest input)

lemma classifyOne_parallel :
    renderCommand.classifyOne parallelName
      = .ok (.switch parallelName (some ⟨parallelSwitch, parallelName, none⟩)) := by
  decide

/-- **The switch for the parallel strategy**, put in anywhere where the command is still understood,
makes for the same request in parallel. -/
theorem ofArguments_insert_parallel {front back : List Text}
    (h : (Request.ofArguments ("render" :: (front ++ back))).IsRender)
    (hmore : (Request.ofArguments ("render" :: (front ++ parallelName :: back))).IsRender) :
    Request.ofArguments ("render" :: (front ++ parallelName :: back))
      = (Request.ofArguments ("render" :: (front ++ back))).inParallel := by
  obtain ⟨-, kinds, values, -, hkinds, hreads, -, hrequest⟩ := exists_reads h
  obtain ⟨-, others, final, -, hothers, hfinal, -, hinserted⟩ := exists_reads hmore
  obtain ⟨first, kind, last, rfl, rfl, hkind⟩ :=
    Interface.classify_insert hkinds hreads.dashes_notMem hothers hfinal.dashes_notMem
  obtain rfl := Except.ok.inj (classifyOne_parallel.symm.trans hkind)
  obtain ⟨hagree, hparallel⟩ := hreads.insert rfl hfinal rfl fun _ _ => rfl
  rw [hrequest, hinserted, ofRender_inParallel hagree hparallel]

/-- In front of the other arguments it is always understood. -/
theorem isRender_parallel_cons {arguments : List Text}
    (h : (Request.ofArguments ("render" :: arguments)).IsRender) :
    (Request.ofArguments ("render" :: parallelName :: arguments)).IsRender := by
  obtain ⟨words, kinds, values, hwords, hkinds, hreads, hinput, -⟩ := exists_reads h
  have hword : program.classifyOne parallelName = .ok (.switch parallelName none) := by decide
  have hmoreWords : program.classify (parallelName :: arguments)
      = .ok (.switch parallelName none :: words) := by
    rw [Interface.classify, hword, hwords]
    rfl
  have hmoreKinds : renderCommand.classify (parallelName :: arguments)
      = .ok (.switch parallelName (some ⟨parallelSwitch, parallelName, none⟩) :: kinds) := by
    rw [Interface.classify, classifyOne_parallel, hkinds]
    rfl
  obtain ⟨final, hrest⟩ := hreads.exists_of_values (Entries.insert parallelName [] [])
  have hfinal : Reads [] (.switch parallelName (some ⟨parallelSwitch, parallelName, none⟩) :: kinds)
      final := .flag rfl rfl hrest
  obtain ⟨hagree, -⟩ := hreads.insert_head hfinal rfl fun _ _ => rfl
  rw [ofArguments_of_reads hmoreWords hmoreKinds hfinal (by rwa [← hagree _ (by decide)])]
  exact isRender_ofRender _

end BlockTree.CommandLine
