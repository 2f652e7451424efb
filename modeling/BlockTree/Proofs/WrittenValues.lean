import BlockTree.Proofs.MemberOrder
import BlockTree.Proofs.WrittenScalars
import Mathlib.Tactic

/-!
Written data is read back.

* `Data.Fits`: the integers of the data have no more digits than a limit, if there is one.
* `writeAt_sorted`: the order of the members makes no difference to the text.
* `ReadsBack`: the written value is read, whatever follows, exactly if it fits; `readsBack` says so
  for all data whose numbers are integers, by induction on the data, from one lemma for the items of
  a list (`readItems_written`) and one for the members of a mapping (`readMembers_written`).
* `readWith_write`: so the stable text is read as the data with its members in order.
-/

namespace BlockTree

/-! ### Integers in data -/

namespace Data

/-- The integer stands somewhere in the data. -/
inductive HasInteger (n : Int) : Data → Prop
  | int : HasInteger n (.int n)
  | arr {items : List Data} {item : Data} (mem : item ∈ items) (within : HasInteger n item) :
      HasInteger n (.arr items)
  | obj {members : List (Text × Data)} {member : Text × Data} (mem : member ∈ members)
      (within : HasInteger n member.2) : HasInteger n (.obj members)

/-- **The integers of the data are within a limit** on the number of their digits, if there is one.
-/
def Fits (limit : Option Nat) (value : Data) : Prop :=
  ∀ most ∈ limit, ∀ n, value.HasInteger n → (Text.decimal n.natAbs).length ≤ most

variable {limit : Option Nat}

lemma fits_none (value : Data) : value.Fits none := nofun

lemma fits_null : Data.null.Fits limit := fun _ _ _ h => nomatch h

lemma fits_bool (b : Bool) : (Data.bool b).Fits limit := fun _ _ _ h => nomatch h

lemma fits_str (s : Text) : (Data.str s).Fits limit := fun _ _ _ h => nomatch h

lemma fits_int {n : Int} :
    (Data.int n).Fits limit ↔ ∀ most ∈ limit, (Text.decimal n.natAbs).length ≤ most := by
  refine forall₂_congr fun most _ => ⟨fun h => h n .int, fun h m hm => ?_⟩
  cases hm
  exact h

lemma fits_arr {items : List Data} :
    (Data.arr items).Fits limit ↔ ∀ item ∈ items, item.Fits limit := by
  constructor
  · exact fun h item hitem most hmost n hn => h most hmost n (.arr hitem hn)
  · intro h most hmost n hn
    cases hn with
    | arr hitem hn => exact h _ hitem most hmost n hn

lemma fits_obj {members : List (Text × Data)} :
    (Data.obj members).Fits limit ↔ ∀ member ∈ members, member.2.Fits limit := by
  constructor
  · exact fun h member hmember most hmost n hn => h most hmost n (.obj hmember hn)
  · intro h most hmost n hn
    cases hn with
    | obj hmember hn => exact h _ hmember most hmost n hn

end Data

namespace Json

open Data

/-! ### The written text -/

/-- A member as it is written: its name, a colon and its value. -/
def writeMember (level : Nat) (member : Text × Data) : Text :=
  writeText member.1 ++ ": " ++ writeAt level member.2

lemma writeItems_eq_map (level : Nat) (items : List Data) :
    writeItems level items = items.map (writeAt level) := by
  induction items with
  | nil => rw [writeItems, List.map_nil]
  | cons item rest ih => rw [writeItems, ih, List.map_cons]

lemma writeMembers_eq_map (level : Nat) (members : List (Text × Data)) :
    writeMembers level members = members.map fun member => (member.1, writeAt level member.2) := by
  induction members with
  | nil => rw [writeMembers, List.map_nil]
  | cons member rest ih =>
      rw [writeMembers, ih, List.map_cons]

lemma writeAt_arr (level : Nat) (items : List Data) :
    writeAt level (.arr items) = enclose '[' ']' level (items.map (writeAt (level + 1))) := by
  rw [writeAt, writeItems_eq_map]

lemma writeAt_obj (level : Nat) (members : List (Text × Data)) :
    writeAt level (.obj members)
      = enclose '\x7b' '\x7d' level
          ((members.mergeSort nameOrder).map (writeMember (level + 1))) := by
  rw [writeAt, writeMembers_eq_map, mergeSort_map (fun member : Text × Data =>
    (member.1, writeAt (level + 1) member.2)) fun _ => rfl, List.map_map]
  rfl

/-- **The order of the members** makes no difference to the text. -/
lemma writeAt_sorted {x : Data} (hx : x.IsIntegral) (level : Nat) :
    writeAt level x.sorted = writeAt level x := by
  induction hx generalizing level with
  | arr _ ih =>
      rw [sorted_arr, writeAt_arr, writeAt_arr, List.map_map]
      exact congrArg _ (List.map_congr_left fun item hitem => ih item hitem (level + 1))
  | @obj members hnodup _ ih =>
      have hnames : (Entries.names (members.map sortedMember)).Nodup := by
        rwa [names_map_sortedMember]
      have hsorted : ((members.map sortedMember).mergeSort nameOrder).mergeSort nameOrder
          = (members.mergeSort nameOrder).map sortedMember := by
        rw [← mergeSort_map sortedMember fun _ => rfl]
        exact (mergeSort_eq_of_perm hnames (List.mergeSort_perm _ nameOrder).symm).symm
      rw [sorted_obj, writeAt_obj, writeAt_obj, hsorted, List.map_map]
      refine congrArg _ (List.map_congr_left fun member hmember => ?_)
      rw [Function.comp_apply, writeMember, writeMember, sortedMember,
        ih member (List.mem_mergeSort.mp hmember)]
  | _ => rfl

/-- The character begins a value: a keyword, a number, a text, a list or a mapping. -/
def opensValue (c : Char) : Bool :=
  c.isDigit || ['n', 't', 'f', '-', '"', '[', '\x7b'].contains c

lemma not_isGap_of_opensValue {c : Char} (h : opensValue c = true) : isGap c = false := by
  have hne {d : Char} (hd : opensValue d = false) : c ≠ d := Text.ne_of_class h hd
  simp [isGap, hne (d := ' ') rfl, hne (d := '\t') rfl, hne (d := '\n') rfl, hne (d := '\r') rfl]

/-- **The text begins as a value**. -/
def BeginsValue (text : Text) : Prop :=
  ∃ c rest, text = c :: rest ∧ opensValue c = true

lemma BeginsValue.append {text : Text} (h : BeginsValue text) (rest : Text) :
    BeginsValue (text ++ rest) := by
  obtain ⟨c, more, rfl, hc⟩ := h
  exact ⟨c, more ++ rest, rfl, hc⟩

lemma beginsValue_writeMember (level : Nat) (member : Text × Data) :
    BeginsValue (writeMember level member) :=
  ⟨'"', _, rfl, by decide⟩

lemma beginsValue_enclose {opening : Char} (h : opensValue opening = true)
    (closing : Char) (level : Nat) (parts : List Text) :
    BeginsValue (enclose opening closing level parts) := by
  rw [enclose]
  split <;> exact ⟨opening, _, rfl, h⟩

lemma beginsValue_join (sep : Text) {parts : List Text} (hne : parts ≠ [])
    (h : ∀ part ∈ parts, BeginsValue part) : BeginsValue (Text.join sep parts) := by
  cases parts with
  | nil => exact absurd rfl hne
  | cons part parts =>
      have hpart := h part List.mem_cons_self
      cases parts with
      | nil => exact hpart
      | cons next parts =>
          rw [Text.join_cons_cons, List.append_assoc]
          exact hpart.append _

/-- A written integer begins with a digit or a minus sign. -/
lemma exists_integer (n : Int) :
    ∃ c rest, Text.integer n = c :: rest ∧ (c = '-' ∨ c.isDigit = true) := by
  have hne : Text.integer n ≠ [] := by
    cases n with
    | ofNat n => exact Text.decimal_ne_nil n
    | negSucc n => exact List.cons_ne_nil _ _
  obtain ⟨c, rest, htext⟩ := List.exists_cons_of_ne_nil hne
  exact ⟨c, rest, htext, Text.mem_integer (htext ▸ List.mem_cons_self)⟩

lemma beginsValue_integer (n : Int) : BeginsValue (Text.integer n) := by
  obtain ⟨c, rest, htext, hc⟩ := exists_integer n
  refine ⟨c, rest, htext, ?_⟩
  rcases hc with rfl | hc
  · rfl
  · rw [opensValue, hc, Bool.true_or]

/-- A written value begins as a value. -/
lemma beginsValue_writeAt {x : Data} (hx : x.IsIntegral) (level : Nat) :
    BeginsValue (writeAt level x) := by
  cases hx with
  | null => exact ⟨'n', "ull".toList, rfl, by decide⟩
  | bool b =>
      cases b with
      | true => exact ⟨'t', "rue".toList, rfl, by decide⟩
      | false => exact ⟨'f', "alse".toList, rfl, by decide⟩
  | int n => exact beginsValue_integer n
  | str s => exact ⟨'"', _, rfl, by decide⟩
  | arr _ =>
      rw [writeAt_arr]
      exact beginsValue_enclose (by decide) _ _ _
  | obj _ _ =>
      rw [writeAt_obj]
      exact beginsValue_enclose (by decide) _ _ _

/-! ### Reading a part at a time -/

lemma skipGap_newLine {c : Char} (h : isGap c = false) (level : Nat) (rest : Text) :
    skipGap (newLine level ++ c :: rest) = c :: rest := by
  refine Text.dropWhile_append_of_head? ?_ fun d hd => by cases hd; exact h
  intro d hd
  rcases List.mem_cons.mp hd with rfl | hd
  · decide
  · rw [List.eq_of_mem_replicate hd]
    decide

lemma BeginsValue.skipGap_newLine {text : Text} (h : BeginsValue text) (level : Nat) :
    skipGap (newLine level ++ text) = text := by
  obtain ⟨c, rest, rfl, hc⟩ := h
  exact Json.skipGap_newLine (not_isGap_of_opensValue hc) level rest

lemma endsNumber_comma (rest : Text) : EndsNumber (',' :: rest) := by
  intro c hc
  cases hc
  decide

lemma endsNumber_newLine (level : Nat) (rest : Text) : EndsNumber (newLine level ++ rest) := by
  intro c hc
  cases hc
  decide

section

variable {halves : Halves} {limit : Option Nat} {fuel : Nat} {text rest more after : Text}
  {condition further : Prop} {value : Data}

/-- The last item of a list is a value in front of the closing bracket. -/
lemma readItems_last (h : YieldsIf condition (readValue halves limit fuel text) (value, rest))
    (hskip : skipGap rest = ']' :: after) :
    YieldsIf condition (readItems halves limit (fuel + 1) text) ([value], after) := by
  rw [readItems]
  rcases h with ⟨hcondition, hread⟩ | ⟨hcondition, fault, hread⟩
  · simp only [hread, hskip]
    exact Or.inl ⟨hcondition, rfl⟩
  · simp only [hread]
    exact Or.inr ⟨hcondition, fault, rfl⟩

/-- Any other item is a value in front of a comma, behind which the next one stands. -/
lemma readItems_next {values : List Data}
    (h : YieldsIf condition (readValue halves limit fuel text) (value, rest))
    (hskip : skipGap rest = ',' :: more)
    (hmore : YieldsIf further (readItems halves limit fuel (skipGap more)) (values, after)) :
    YieldsIf (condition ∧ further) (readItems halves limit (fuel + 1) text)
      (value :: values, after) := by
  rw [readItems]
  rcases h with ⟨hcondition, hread⟩ | ⟨hcondition, fault, hread⟩
  · simp only [hread, hskip]
    exact hmore.map hcondition fun result => (value :: result.1, result.2)
  · simp only [hread]
    exact Or.inr ⟨fun hboth => hcondition hboth.1, fault, rfl⟩

/-- Behind the colon of a member a single blank is passed over. -/
lemma BeginsValue.skipGap_blank (hbegins : BeginsValue text) : skipGap (' ' :: text) = text := by
  obtain ⟨c, rest, rfl, hc⟩ := hbegins
  rw [skipGap, List.dropWhile_cons_of_pos (by decide),
    List.dropWhile_cons_of_neg (by simp [not_isGap_of_opensValue hc])]

lemma skipGap_colon (text : Text) : skipGap (": " ++ text) = ':' :: ' ' :: text :=
  rfl

/-- The last member of a mapping is a name and a value in front of the closing brace. -/
lemma readMembers_last (hbegins : BeginsValue text) (name : Text)
    (h : YieldsIf condition (readValue halves limit fuel text) (value, rest))
    (hskip : skipGap rest = '\x7d' :: after) :
    YieldsIf condition (readMembers halves limit (fuel + 1) (writeText name ++ (": " ++ text)))
      ([(.str name, value)], after) := by
  rw [writeText, List.append_assoc, List.cons_append, List.singleton_append, readMembers]
  simp only [readText_writeText, ofCodes_map_toNat, skipGap_colon, hbegins.skipGap_blank]
  rcases h with ⟨hcondition, hread⟩ | ⟨hcondition, fault, hread⟩
  · simp only [hread, hskip]
    exact Or.inl ⟨hcondition, rfl⟩
  · simp only [hread]
    exact Or.inr ⟨hcondition, fault, rfl⟩

/-- Any other member is a name and a value in front of a comma, behind which the next one stands. -/
lemma readMembers_next (hbegins : BeginsValue text) (name : Text) {pairs : List (Data × Data)}
    (h : YieldsIf condition (readValue halves limit fuel text) (value, rest))
    (hskip : skipGap rest = ',' :: more)
    (hmore : YieldsIf further (readMembers halves limit fuel (skipGap more)) (pairs, after)) :
    YieldsIf (condition ∧ further)
      (readMembers halves limit (fuel + 1) (writeText name ++ (": " ++ text)))
      ((.str name, value) :: pairs, after) := by
  rw [writeText, List.append_assoc, List.cons_append, List.singleton_append, readMembers]
  simp only [readText_writeText, ofCodes_map_toNat, skipGap_colon, hbegins.skipGap_blank]
  rcases h with ⟨hcondition, hread⟩ | ⟨hcondition, fault, hread⟩
  · simp only [hread, hskip]
    exact hmore.map hcondition fun result => ((.str name, value) :: result.1, result.2)
  · simp only [hread]
    exact Or.inr ⟨fun hboth => hcondition hboth.1, fault, rfl⟩

end

/-! ### Lists and mappings -/

/-- **What stands in brackets**: behind the opening one and some blanks the first part begins, and
the closing one is on a line of its own. -/
lemma enclose_append {parts : List Text} (hne : parts ≠ [])
    (hparts : ∀ part ∈ parts, BeginsValue part) (opening closing : Char) (level : Nat)
    (rest : Text) :
    ∃ inner, inner = Text.join (',' :: newLine (level + 1)) parts
        ++ (newLine level ++ closing :: rest)
      ∧ (∃ text, enclose opening closing level parts ++ rest = opening :: text
        ∧ skipGap text = inner)
      ∧ (∀ after, inner ≠ ']' :: after) ∧ (∀ after, inner ≠ '\x7d' :: after)
      ∧ (Text.join (',' :: newLine (level + 1)) parts).length
        < (enclose opening closing level parts).length := by
  have hbegins := (beginsValue_join (',' :: newLine (level + 1)) hne hparts).append
    (newLine level ++ closing :: rest)
  have hskip := hbegins.skipGap_newLine (level + 1)
  refine ⟨_, rfl, ⟨_, ?_, hskip⟩, ?_⟩
  · rw [enclose, if_neg (by simpa using hne)]
    simp only [List.append_assoc, List.cons_append, List.nil_append]
  · obtain ⟨c, text, htext, hc⟩ := hbegins
    rw [htext]
    refine ⟨fun after hafter => Text.ne_of_class hc rfl (List.cons.inj hafter).1,
      fun after hafter => Text.ne_of_class hc rfl (List.cons.inj hafter).1, ?_⟩
    rw [enclose, if_neg (by simpa using hne)]
    simp only [List.length_append, List.length_singleton]
    omega

/-- **The written value is read**, whatever follows, exactly if it fits. -/
def ReadsBack (halves : Halves) (limit : Option Nat) (x : Data) : Prop :=
  ∀ level fuel rest, EndsNumber rest → 2 * (writeAt level x).length ≤ fuel →
    YieldsIf (x.Fits limit) (readValue halves limit fuel (writeAt level x ++ rest)) (x.sorted, rest)

section

variable {halves : Halves} {limit : Option Nat} {level fuel : Nat}

/-- **The items of a list** are read one after another. -/
lemma readItems_written {items : List Data} (hne : items ≠ [])
    (hintegral : ∀ item ∈ items, item.IsIntegral)
    (hreads : ∀ item ∈ items, ReadsBack halves limit item)
    (hfuel : 2 * (Text.join (',' :: newLine level) (items.map (writeAt level))).length < fuel)
    (outer : Nat) (rest : Text) :
    YieldsIf (∀ item ∈ items, item.Fits limit)
      (readItems halves limit fuel (Text.join (',' :: newLine level) (items.map (writeAt level))
        ++ (newLine outer ++ ']' :: rest)))
      (items.map sorted, rest) := by
  induction items generalizing fuel with
  | nil => exact absurd rfl hne
  | cons item more ih =>
      obtain ⟨fuel, rfl⟩ : ∃ left, fuel = left + 1 := ⟨fuel - 1, by omega⟩
      rw [List.forall_mem_cons] at hintegral hreads
      cases more with
      | nil =>
          rw [List.map_singleton, Text.join] at hfuel ⊢
          have hitem := hreads.1 level fuel (newLine outer ++ ']' :: rest)
            (endsNumber_newLine outer _) (by omega)
          simp only [List.forall_mem_singleton, List.map_singleton]
          exact readItems_last hitem (skipGap_newLine rfl outer rest)
      | cons next more =>
          have hbegins := beginsValue_join (',' :: newLine level) (List.cons_ne_nil _ _)
            (List.forall_mem_map.mpr fun item hitem =>
              beginsValue_writeAt (hintegral.2 item hitem) level)
          simp only [List.map_cons, Text.join_cons_cons, List.append_assoc, List.cons_append,
            List.length_append, List.length_cons] at hfuel ih ⊢
          have hitem := hreads.1 level fuel (',' :: (newLine level
            ++ (Text.join (',' :: newLine level) (writeAt level next :: more.map (writeAt level))
              ++ (newLine outer ++ ']' :: rest)))) (endsNumber_comma _) (by omega)
          rw [List.forall_mem_cons]
          refine readItems_next hitem rfl ?_
          rw [(hbegins.append _).skipGap_newLine]
          exact ih (by simp) hintegral.2 hreads.2 (by omega)

/-- **The members of a mapping** are read one after another. -/
lemma readMembers_written {members : List (Text × Data)} (hne : members ≠ [])
    (hintegral : ∀ member ∈ members, member.2.IsIntegral)
    (hreads : ∀ member ∈ members, ReadsBack halves limit member.2)
    (hfuel : 2 * (Text.join (',' :: newLine level) (members.map (writeMember level))).length
      < fuel) (outer : Nat) (rest : Text) :
    YieldsIf (∀ member ∈ members, member.2.Fits limit)
      (readMembers halves limit fuel (Text.join (',' :: newLine level)
          (members.map (writeMember level))
        ++ (newLine outer ++ '\x7d' :: rest)))
      (members.map fun member => (.str member.1, member.2.sorted), rest) := by
  induction members generalizing fuel with
  | nil => exact absurd rfl hne
  | cons member more ih =>
      obtain ⟨fuel, rfl⟩ : ∃ left, fuel = left + 1 := ⟨fuel - 1, by omega⟩
      rw [List.forall_mem_cons] at hintegral hreads
      have hvalue := beginsValue_writeAt hintegral.1 level
      cases more with
      | nil =>
          simp only [List.map_singleton, Text.join, writeMember, List.append_assoc,
            List.length_append] at hfuel ⊢
          have hread := hreads.1 level fuel (newLine outer ++ '\x7d' :: rest)
            (endsNumber_newLine outer _) (by omega)
          simp only [List.forall_mem_singleton]
          exact readMembers_last (hvalue.append _) member.1 hread (skipGap_newLine rfl outer rest)
      | cons next more =>
          have hbegins := beginsValue_join (',' :: newLine level) (List.cons_ne_nil _ _)
            (List.forall_mem_map.mpr fun member (_ : member ∈ next :: more) =>
              beginsValue_writeMember level member)
          simp only [List.map_cons, Text.join_cons_cons, List.append_assoc, List.cons_append,
            List.length_append, List.length_cons] at hfuel ih ⊢
          rw [writeMember, List.append_assoc, List.append_assoc]
          rw [writeMember, List.length_append] at hfuel
          have hread := hreads.1 level fuel (',' :: (newLine level
            ++ (Text.join (',' :: newLine level)
                (writeMember level next :: more.map (writeMember level))
              ++ (newLine outer ++ '\x7d' :: rest)))) (endsNumber_comma _) (by omega)
          rw [List.forall_mem_cons]
          refine readMembers_next (hvalue.append _) member.1 hread rfl ?_
          rw [(hbegins.append _).skipGap_newLine]
          exact ih (by simp) hintegral.2 hreads.2 (by omega)

end

section

variable {halves : Halves} {limit : Option Nat} {fuel : Nat} {text rest : Text}

lemma readValue_scalar {c : Char} (hlist : c ≠ '[') (hmapping : c ≠ '\x7b') :
    readValue halves limit (fuel + 1) (c :: text) = readPlain halves limit (c :: text) := by
  rw [readValue]
  · rintro after ⟨⟩
    exact hlist rfl
  · rintro after ⟨⟩
    exact hmapping rfl

lemma readValue_items {inner : Text} (hskip : skipGap text = inner)
    (h : ∀ after, inner ≠ ']' :: after) :
    readValue halves limit (fuel + 1) ('[' :: text)
      = (readItems halves limit fuel inner).map fun (items, after) => (.arr items, after) := by
  rw [readValue, hskip]
  split
  · rename_i after
    exact absurd rfl (h after)
  · rfl

lemma readValue_members {inner : Text} (hskip : skipGap text = inner)
    (h : ∀ after, inner ≠ '\x7d' :: after) :
    readValue halves limit (fuel + 1) ('\x7b' :: text)
      = (readMembers halves limit fuel inner).map fun (pairs, after) => (.ofPairs pairs, after) := by
  rw [readValue, hskip]
  split
  · rename_i after
    exact absurd rfl (h after)
  · rfl

end

/-- The mapping of members under different names, each a pair. -/
lemma ofPairs_members {members : List (Text × Data)} (h : (Entries.names members).Nodup) :
    Data.ofPairs (members.map fun member => (.str member.1, member.2)) = .obj members := by
  have hset : Entries.ofList members = members := Entries.insertAll_of_nodup h
  rw [Data.ofPairs]
  simp only [List.filterMap_map, List.foldl_map, List.foldl_fixed]
  exact congrArg Data.obj ((congrArg Entries.ofList List.filterMap_some).trans hset)

/-! ### Whole values -/

section

variable {halves : Halves} {limit : Option Nat}

/-- A value without parts is read as itself, if it is where one of them is expected. -/
lemma readsBack_scalar {x : Data} (hsorted : x.sorted = x)
    (hbegins : ∀ level, ∃ c text, writeAt level x = c :: text ∧ c ≠ '[' ∧ c ≠ '\x7b')
    (hread : ∀ level rest, EndsNumber rest →
      YieldsIf (x.Fits limit) (readPlain halves limit (writeAt level x ++ rest)) (x, rest)) :
    ReadsBack halves limit x := by
  intro level fuel rest hrest hfuel
  have hread := hread level rest hrest
  obtain ⟨c, text, htext, hlist, hmapping⟩ := hbegins level
  rw [htext, List.length_cons] at hfuel
  obtain ⟨fuel, rfl⟩ : ∃ left, fuel = left + 1 := ⟨fuel - 1, by omega⟩
  rw [htext, List.cons_append] at hread ⊢
  rwa [readValue_scalar hlist hmapping, hsorted]

/-- The sorted mapping is made from its members in the order in which they are written. -/
lemma sorted_obj_eq_ofPairs {members : List (Text × Data)}
    (h : (Entries.names members).Nodup) :
    (Data.obj members).sorted = .ofPairs ((members.mergeSort nameOrder).map fun member =>
      (.str member.1, member.2.sorted)) := by
  have hnames : (Entries.names ((members.mergeSort nameOrder).map sortedMember)).Nodup := by
    rw [names_map_sortedMember]
    exact ((List.mergeSort_perm members nameOrder).map Prod.fst).nodup_iff.mpr h
  rw [sorted_obj, mergeSort_map sortedMember fun _ => rfl, ← ofPairs_members hnames, List.map_map]
  rfl

/-- A list is read by its items. -/
lemma readsBack_arr {items : List Data} (hitems : ∀ item ∈ items, item.IsIntegral)
    (hreads : ∀ item ∈ items, ReadsBack halves limit item) :
    ReadsBack halves limit (.arr items) := by
  intro level fuel rest hrest hfuel
  rw [writeAt_arr] at hfuel ⊢
  rw [sorted_arr, fits_arr]
  by_cases hne : items = []
  · subst hne
    obtain ⟨fuel, rfl⟩ : ∃ left, fuel = left + 1 := ⟨fuel - 1, by simp [enclose] at hfuel; omega⟩
    exact .of_eq_ok nofun rfl
  · have hparts : ∀ part ∈ items.map (writeAt (level + 1)), BeginsValue part :=
      List.forall_mem_map.mpr fun item hitem => beginsValue_writeAt (hitems item hitem) (level + 1)
    obtain ⟨inner, rfl, ⟨text, htext, hskip⟩, hlist, -, hlength⟩ :=
      enclose_append (mt List.map_eq_nil_iff.mp hne) hparts '[' ']' level rest
    obtain ⟨fuel, rfl⟩ : ∃ left, fuel = left + 1 := ⟨fuel - 1, by omega⟩
    have hleft : 2 * (Text.join (',' :: newLine (level + 1))
        (items.map (writeAt (level + 1)))).length < fuel := by omega
    have hread := readItems_written hne hitems hreads hleft level rest
    rw [htext, readValue_items hskip hlist]
    simpa only [true_and] using hread.map trivial fun result => (Data.arr result.1, result.2)

/-- A mapping is read by its members. -/
lemma readsBack_obj {members : List (Text × Data)} (hnodup : (Entries.names members).Nodup)
    (hmembers : ∀ member ∈ members, member.2.IsIntegral)
    (hreads : ∀ member ∈ members, ReadsBack halves limit member.2) :
    ReadsBack halves limit (.obj members) := by
  intro level fuel rest hrest hfuel
  rw [writeAt_obj] at hfuel ⊢
  -- From here on only the members in the order in which they are written matter.
  have hfits : (Data.obj members).Fits limit
      ↔ ∀ member ∈ members.mergeSort nameOrder, member.2.Fits limit := by
    simp only [fits_obj, List.mem_mergeSort]
  rw [sorted_obj_eq_ofPairs hnodup, hfits]
  have hmembers : ∀ member ∈ members.mergeSort nameOrder, member.2.IsIntegral :=
    fun member hmember => hmembers member (List.mem_mergeSort.mp hmember)
  have hreads : ∀ member ∈ members.mergeSort nameOrder, ReadsBack halves limit member.2 :=
    fun member hmember => hreads member (List.mem_mergeSort.mp hmember)
  generalize members.mergeSort nameOrder = members at hfuel hmembers hreads ⊢
  by_cases hne : members = []
  · subst hne
    obtain ⟨fuel, rfl⟩ : ∃ left, fuel = left + 1 := ⟨fuel - 1, by simp [enclose] at hfuel; omega⟩
    exact .of_eq_ok nofun rfl
  · have hparts : ∀ part ∈ members.map (writeMember (level + 1)), BeginsValue part :=
      List.forall_mem_map.mpr fun member _ => beginsValue_writeMember (level + 1) member
    obtain ⟨inner, rfl, ⟨text, htext, hskip⟩, -, hmapping, hlength⟩ :=
      enclose_append (mt List.map_eq_nil_iff.mp hne) hparts '\x7b' '\x7d' level rest
    obtain ⟨fuel, rfl⟩ : ∃ left, fuel = left + 1 := ⟨fuel - 1, by omega⟩
    have hleft : 2 * (Text.join (',' :: newLine (level + 1))
        (members.map (writeMember (level + 1)))).length < fuel := by omega
    have hread := readMembers_written hne hmembers hreads hleft level rest
    rw [htext, readValue_members hskip hmapping]
    simpa only [true_and] using hread.map trivial fun result => (Data.ofPairs result.1, result.2)

/-- **Data whose numbers are integers** is read as it is written, with its members in order. -/
theorem readsBack {x : Data} (hx : x.IsIntegral) (halves : Halves) (limit : Option Nat) :
    ReadsBack halves limit x := by
  induction hx with
  | null =>
      refine readsBack_scalar rfl (fun _ => ⟨'n', "ull".toList, rfl, by decide⟩) fun _ rest _ => ?_
      exact .of_eq_ok fits_null (readPlain_null halves limit rest)
  | bool b =>
      refine readsBack_scalar rfl (fun _ => ?_) fun level rest _ => ?_
      · cases b
        · exact ⟨'f', "alse".toList, rfl, by decide⟩
        · exact ⟨'t', "rue".toList, rfl, by decide⟩
      · exact .of_eq_ok (fits_bool b) (readPlain_bool halves limit level b rest)
  | int n =>
      refine readsBack_scalar rfl (fun _ => ?_) fun _ rest hrest => ?_
      · obtain ⟨c, text, htext, hc⟩ := exists_integer n
        refine ⟨c, text, htext, ?_⟩
        rcases hc with rfl | hc
        · decide
        · exact ⟨Text.ne_of_class hc rfl, Text.ne_of_class hc rfl⟩
      · rw [fits_int]
        exact readPlain_integer hrest halves limit n
  | str s =>
      refine readsBack_scalar rfl (fun _ => ⟨'"', _, rfl, by decide⟩) fun _ rest _ => ?_
      exact .of_eq_ok (fits_str s) (readPlain_writeText halves limit s rest)
  | arr hitems ih => exact readsBack_arr hitems ih
  | obj hnodup hmembers ih => exact readsBack_obj hnodup hmembers ih

/-- **The stable text is read** exactly if the data fits. -/
theorem readWith_write {x : Data} (hx : x.IsIntegral) (halves : Halves) (limit : Option Nat) :
    YieldsIf (x.Fits limit) (readWith halves limit (write x)) x.sorted := by
  have hread := readsBack hx halves limit 0 (2 * (write x).length + 2) ['\n']
    (endsNumber_newLine 0 []) (by simp only [write, List.length_append]; omega)
  obtain ⟨c, text, htext, hc⟩ := (beginsValue_writeAt hx 0).append ['\n']
  have hmark : c ≠ Char.ofNat 0xFEFF := Text.ne_of_class hc (by decide)
  have hskip : skipGap (write x) = write x := by
    rw [write, htext, skipGap, List.dropWhile_cons_of_neg (by simp [not_isGap_of_opensValue hc])]
  have hend : skipGap ['\n'] = [] := rfl
  rw [readWith, if_neg (by rw [write, htext]; simpa using hmark), hskip, write]
  rw [write] at hread
  rcases hread with ⟨hfits, hread⟩ | ⟨hfits, fault, hread⟩
  · simp only [hread, hend]
    exact Or.inl ⟨hfits, rfl⟩
  · simp only [hread]
    exact Or.inr ⟨hfits, fault, rfl⟩

end

end Json

end BlockTree
