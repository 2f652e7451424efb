import BlockTree.CommandLine.Run
import BlockTree.Proofs.WrittenValues
import BlockTree.Schema.Options
import Mathlib.Tactic

/-!
The stable text of structured data, and of messages.

* `Json.write_eq_write_iff`: the texts of two values are the same exactly if the values are alike.
* `Message.message_sorted_toData`: a message is read from its members in the order of their names.
* `write_stable`: alike data, and no other, has the same text; the text is read as data that is
  alike; and the text of messages is read as these messages.
-/

namespace BlockTree

namespace Json

open Data

/-- **The texts of two values are the same** exactly if the values are alike. -/
theorem write_eq_write_iff {x y : Data} (hx : x.IsIntegral) (hy : y.IsIntegral) :
    write x = write y ↔ x.Alike y := by
  rw [← sorted_eq_sorted_iff hx hy]
  constructor
  · intro h
    have hread := (readWith_write hx .standard none).eq_ok_iff.mpr x.fits_none
    rw [h, (readWith_write hy .standard none).eq_ok_iff.mpr y.fits_none] at hread
    exact (Except.ok.inj hread).symm
  · intro h
    rw [write, write, ← writeAt_sorted hx, ← writeAt_sorted hy, h]

end Json

/-! ### Messages -/

namespace Message

variable (message : Message)

lemma isIntegral_toData : message.toData.IsIntegral := by
  refine .obj (by simp [Entries.names]) ?_
  simp only [List.forall_mem_cons]
  exact ⟨.str _, .int _, .str _, List.forall_mem_nil _⟩

lemma fits_toData {limit : Option Nat} :
    message.toData.Fits limit
      ↔ ∀ most ∈ limit, (Text.decimal message.line.natAbs).length ≤ most := by
  rw [toData, Data.fits_obj]
  simp only [List.forall_mem_cons, Data.fits_int]
  exact ⟨fun h => h.2.1, fun h => ⟨Data.fits_str _, h, Data.fits_str _, List.forall_mem_nil _⟩⟩

/-- The members of a message in the order in which they are written. -/
lemma sorted_toData :
    message.toData.sorted = .obj [("line", .int message.line),
      ("severity", .str message.severity.word), ("text", .str message.text)] := by
  have hnodup : (Entries.names [("severity".toList, Data.str message.severity.word),
      ("line", .int message.line), ("text", .str message.text)]).Nodup := by
    simp [Entries.names]
  have hordered : [("line".toList, Data.int message.line), ("severity", .str message.severity.word),
      ("text", .str message.text)].Pairwise fun a b => Json.nameOrder a b = true := by
    simp [Json.nameOrder, Json.notAfter]
  rw [toData, Data.sorted_obj, Json.mergeSort_map Data.sortedMember fun _ => rfl,
    Json.mergeSort_eq_of_perm hnodup (List.Perm.swap _ _ _), List.mergeSort_of_pairwise hordered]
  rfl

/-- **A message is read** from its members in this order. -/
lemma message_sorted_toData : Schema.message message.toData.sorted = .ok message := by
  rw [sorted_toData]
  cases message with
  | mk severity line text => cases severity <;> rfl

end Message

/-! ### Stable texts -/

lemma Data.fits_digitLimit {x : Data} :
    x.Fits (some Text.digitLimit) ↔ ∀ n, x.HasInteger n → Text.isWritable n = true := by
  simp [Data.Fits, Text.isWritable]

/-- **The stable text** of data whose numbers are integers stands for the data up to the order of
its members: two texts are the same exactly if the data is alike, and the text is read as data that
is alike. If the digits of an integer are limited, the text is read exactly if every integer is
within the limit. The text of messages is read as these messages in their order, whatever characters
they have; under the limit exactly if their lines can be written, which is when a run writes them.
Beyond the limit it is the text that is missing, not only its reading: to write data with such an
integer is a value error, so that the first part compares texts that there are only within it. -/
theorem write_stable :
    (∀ x y : Data, x.IsIntegral → y.IsIntegral → (Json.write x = Json.write y ↔ x.Alike y))
    ∧ (∀ x : Data, x.IsIntegral → ∃ z : Data, z.Alike x
        ∧ Json.readWithin none (Json.write x) = .ok z
        ∧ (Json.read (Json.write x) = .ok z ↔ ∀ n, x.HasInteger n → Text.isWritable n = true))
    ∧ ∀ messages : List Message, ∃ items : List Data,
        Json.readWithin none (CommandLine.writeMessages messages) = .ok (.arr items)
        ∧ List.Forall₂ Data.Alike items (messages.map Message.toData)
        ∧ items.map Schema.message = messages.map .ok
        ∧ (Json.read (CommandLine.writeMessages messages) = .ok (.arr items)
          ↔ ∀ message ∈ messages, message.isWritable = true) := by
  refine ⟨fun x y hx hy => Json.write_eq_write_iff hx hy, fun x hx => ?_, fun messages => ?_⟩
  · refine ⟨x.sorted, Data.sorted_alike hx, ?_, ?_⟩
    · exact (Json.readWith_write hx .standard none).eq_ok_iff.mpr x.fits_none
    · rw [Json.read, Json.readWithin, (Json.readWith_write hx .standard _).eq_ok_iff,
        Data.fits_digitLimit]
  · have hintegral : (Data.arr (messages.map Message.toData)).IsIntegral :=
      .arr (List.forall_mem_map.mpr fun message _ => message.isIntegral_toData)
    have hread := Json.readWith_write hintegral .standard
    simp only [Data.sorted_arr, List.map_map] at hread
    refine ⟨messages.map fun message => message.toData.sorted, ?_, ?_, ?_, ?_⟩
    · exact (hread none).eq_ok_iff.mpr (Data.fits_none _)
    · rw [List.forall₂_map_left_iff, List.forall₂_map_right_iff, List.forall₂_same]
      exact fun message _ => Data.sorted_alike message.isIntegral_toData
    · rw [List.map_map]
      exact List.map_congr_left fun message _ => message.message_sorted_toData
    · rw [Json.read, CommandLine.writeMessages]
      refine (hread (some Text.digitLimit)).eq_ok_iff.trans ?_
      rw [Data.fits_arr, List.forall_mem_map]
      refine forall₂_congr fun message _ => ?_
      rw [Message.fits_toData]
      simp [Message.isWritable, Text.isWritable]

/-- A list in front of a mapping, whose names are a quotation mark and a control character. -/
def listedFirst : Data :=
  .obj [("b", .arr [.int 1, .null]), ("a", .obj [("\"", .int (-20)), ("\x01", .str "é\n")])]

/-- The same members the other way round, at both levels. -/
def listedLast : Data :=
  .obj [("a", .obj [("\x01", .str "é\n"), ("\"", .int (-20))]), ("b", .arr [.int 1, .null])]

/-- Two orders of the members have one text, which is read as data that is alike. -/
theorem write_stable_reordered :
    listedFirst.IsIntegral ∧ listedLast.IsIntegral ∧ listedFirst.Alike listedLast
      ∧ Json.write listedFirst = Json.write listedLast
      ∧ ∃ z : Data, z.Alike listedFirst ∧ Json.readWithin none (Json.write listedFirst) = .ok z
        ∧ Json.read (Json.write listedFirst) = .ok z := by
  have hlist : (Data.arr [.int 1, .null]).IsIntegral :=
    .arr (List.forall_mem_cons.mpr ⟨.int 1, List.forall_mem_singleton.mpr .null⟩)
  have hfirst : listedFirst.IsIntegral := by
    refine .obj (by decide) (List.forall_mem_cons.mpr ⟨hlist, List.forall_mem_singleton.mpr ?_⟩)
    exact .obj (by decide)
      (List.forall_mem_cons.mpr ⟨.int _, List.forall_mem_singleton.mpr (.str _)⟩)
  have hlast : listedLast.IsIntegral := by
    refine .obj (by decide) (List.forall_mem_cons.mpr ⟨?_, List.forall_mem_singleton.mpr hlist⟩)
    exact .obj (by decide)
      (List.forall_mem_cons.mpr ⟨.str _, List.forall_mem_singleton.mpr (.int _)⟩)
  have hwritable : ∀ n, listedFirst.HasInteger n → Text.isWritable n = true := by
    rw [← Data.fits_digitLimit]
    simp only [listedFirst, Data.fits_obj, Data.fits_arr, Data.fits_int, Data.fits_null,
      Data.fits_str, List.forall_mem_cons, Option.mem_def, Option.some.injEq, forall_eq']
    exact ⟨⟨by decide, trivial, nofun⟩, ⟨by decide, trivial, nofun⟩, nofun⟩
  have htext : Json.write listedFirst = Json.write listedLast := by cbv
  obtain ⟨hwrite, hread, -⟩ := write_stable
  obtain ⟨z, hz, hnone, hlimit⟩ := hread listedFirst hfirst
  exact ⟨hfirst, hlast, (hwrite _ _ hfirst hlast).mp htext, htext, z, hz, hnone,
    hlimit.mpr hwritable⟩

example : Json.write (.obj [("b", .int 1), ("a", .arr [])])
    = "\x7b\n  \"a\": [],\n  \"b\": 1\n\x7d\n".toList := by cbv

end BlockTree
