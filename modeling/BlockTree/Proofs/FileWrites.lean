import BlockTree.CommandLine.Run
import Mathlib.Data.List.TakeWhile
import Mathlib.Data.Option.Basic
import Mathlib.Tactic

/-!
What it takes to write a file, and what a written file changes.

* `FileTree.Leads`: a path leads to a file that can be written; `FileTree.write_eq_ok` says that
  writing fails otherwise, and that the text makes no difference to this.
* `FileTree.Reaches` and `FileTree.put`: the same for an output that may not have been asked for.
* `FileTree.file?_put_of_mem` and `FileTree.file?_put_of_ne`: what the files hold afterwards.
* `Halves.fault?_eq_none`: which texts can be written as octets; these are stored and printed as
  they stand.
-/

namespace BlockTree

/-! ### Texts that can be written -/

namespace Halves

variable (halves : Halves) {text : Text}

/-- **A text can be written** exactly if no character of it stands for a half. -/
lemma fault?_eq_none : halves.fault? text = none ↔ ∀ c ∈ text, halves.marks c = false := by
  have hdrop : (text.dropWhile fun c => !halves.marks c) = []
      ↔ ∀ c ∈ text, halves.marks c = false := by
    simp [List.dropWhile_eq_nil_iff]
  rw [← hdrop, fault?]
  cases text.dropWhile fun c => !halves.marks c with
  | nil => exact iff_of_true rfl rfl
  | cons c rest => exact iff_of_false nofun nofun

lemma stored_eq_self (h : halves.fault? text = none) : halves.stored text = text := by
  rw [stored, h]
  rfl

lemma stored_eq_nil {words : Text} (h : halves.fault? text = some words) :
    halves.stored text = [] := by
  rw [stored, h]
  rfl

/-- A text that can be written is printed as it stands. -/
lemma spelled_eq_self (h : halves.fault? text = none) : halves.spelled text = text := by
  have hchar : ∀ c ∈ text, halves.spellChar c = [c] := by
    intro c hc
    have hnone : halves.code? c = none := by
      simpa [marks] using halves.fault?_eq_none.mp h c hc
    rw [spellChar, hnone]
  rw [spelled, List.flatMap_congr hchar, List.flatMap_singleton']

end Halves

namespace FileTree

variable {tree : FileTree} {path target : Path}

/-! ### Paths that can be written -/

/-- **A path leads to a file that can be written**: no file stands in the place of a folder on the
way, and no folder in its own place. -/
structure Leads (tree : FileTree) (path target : Path) : Prop where
  folder : ∃ folder, tree.locate true path.parent = .ok folder ∧ tree.file? folder = none
  located : tree.locate true path = .ok target
  free : tree.isFolder target = false

/-- **A text is written** exactly where the path leads. -/
lemma write_eq_ok {text : Text} {after : FileTree} :
    tree.write path text = .ok after
      ↔ ∃ target, tree.Leads path target
        ∧ after = Entries.insert target.text (Utf8.encode text) tree := by
  constructor
  · intro h
    rw [write] at h
    split at h
    · exact nomatch h
    · rename_i folder hfolder
      split at h
      · exact nomatch h
      · rename_i hfile
        split at h
        · exact nomatch h
        · rename_i target hlocated
          split at h
          · exact nomatch h
          · rename_i hfree
            have hnone : tree.file? folder = none := by simpa using hfile
            exact ⟨target, ⟨⟨folder, hfolder, hnone⟩, hlocated, by simpa using hfree⟩,
              (Except.ok.inj h).symm⟩
  · rintro ⟨target, ⟨⟨folder, hfolder, hfile⟩, hlocated, hfree⟩, rfl⟩
    simp only [write, hfolder, hfile, hlocated, hfree, Option.isSome_none, Bool.false_eq_true,
      if_false]

/-! ### Outputs -/

/-- The file that an output goes to: none if none was asked for, else one that can be written. -/
def Reaches (tree : FileTree) (asked : Option Text) (target : Option Path) : Prop :=
  Option.Rel (fun text path => tree.Leads (.ofText text) path) asked target

/-- The tree with a text in a file, if there is one to go to. -/
def put (tree : FileTree) (target : Option Path) (text : Text) : FileTree :=
  target.elim tree fun path => Entries.insert path.text (Utf8.encode text) tree

variable {goal : Option Path} {text : Text}

/-- A text is written to the file it goes to, or nothing in its place. -/
lemma writeFile_of_leads (platform : Platform) {name : Text} (h : tree.Leads (.ofText name) target)
    (text : Text) :
    platform.writeFile tree name text
      = (tree.put (some target) (platform.halves.stored text),
        (platform.halves.fault? text).map CommandLine.unencodable) := by
  rw [Platform.writeFile, write_eq_ok.mpr ⟨target, h, rfl⟩]
  rfl

/-- The file that is written holds the text. -/
lemma file?_put_of_mem (h : path ∈ goal) :
    (tree.put goal text).file? path = some (Utf8.encode text) := by
  obtain rfl : goal = some path := h
  rw [file?, put, Option.elim_some, Entries.find?_insert, if_pos rfl]

/-- **Every other file** stays as it is. -/
lemma file?_put_of_ne (h : ∀ target ∈ goal, target.text ≠ path.text) :
    (tree.put goal text).file? path = tree.file? path := by
  cases goal with
  | none => rfl
  | some target =>
      rw [file?, put, Option.elim_some, Entries.find?_insert,
        if_neg fun heq => h target rfl heq.symm]
      rfl

end FileTree

end BlockTree
