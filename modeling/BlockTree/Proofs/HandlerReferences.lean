import BlockTree.Handler.Registry
import Mathlib.Tactic

/-!
What references to handlers come to.

* `RefersTo`: a text refers to a name in a module; it does so in one way only.
* `Registry.Reaches`: a reference reaches something that a module offers; `Registry.Names` says that this
  is a handler, or makes one.
* `Registry.Escapes`: a reference fails in a way that no stage of its resolution reports as a bad value:
  the name of its module starts with a point, or what it reaches fails to make an object.
* `resolveTarget_cases`: the stages of a resolution; from it `resolveTarget_eq_ok`,
  `resolveTarget_escapes` and `resolveTarget_settles`: a reference is resolved to the handler that it names,
  escapes, or is a bad value.
-/

namespace BlockTree

/-- **A text refers to a name in a module**: the first colon stands between them, and neither is
empty. -/
structure RefersTo (target module name : Text) : Prop where
  eq_append : target = module ++ ':' :: name
  notMem : ':' ∉ module
  module_ne : module ≠ []
  name_ne : name ≠ []

namespace RefersTo

variable {target module name : Text}

lemma cut?_eq (h : RefersTo target module name) : Text.cut? ':' target = some (module, name) := by
  rw [h.eq_append]
  exact Text.cut?_append h.notMem name

/-- There is one way to read a reference. -/
lemma unique {other called : Text} (h : RefersTo target module name)
    (hother : RefersTo target other called) : other = module ∧ called = name :=
  Prod.mk.inj (Option.some.inj (hother.cut?_eq.symm.trans h.cut?_eq))

end RefersTo

/-- The failure is a bad value. -/
def Cause.IsBadValue : Cause → Prop
  | .badValue _ => True
  | _ => False

instance (cause : Cause) : Decidable cause.IsBadValue := by
  unfold Cause.IsBadValue
  split <;> infer_instance

/-- The object that an export gives, or the failure of its maker. -/
def Export.offer : Export → Except Cause Offer
  | .object offer => .ok offer
  | .maker made => made

namespace Registry

variable (registry : Registry)

/-- **A reference reaches an export**: its module can be found, and offers something under its name. -/
def Reaches (target : Text) (found : Export) : Prop :=
  ∃ module name library, RefersTo target module name ∧ module.head? ≠ some '.'
    ∧ registry.locate module = .ok library ∧ library.exports.find? name = some found

/-- **A reference names a handler**: what it reaches is one, or makes one. -/
def Names (target : Text) (handler : Handler) : Prop :=
  ∃ found, registry.Reaches target found ∧ found.offer = .ok (.handler handler)

/-- **A reference escapes with a failure** that is no bad value: its module is named relative to another
one, or what it reaches cannot be made. -/
inductive Escapes (target : Text) : Cause → Prop where
  | relative {module name : Text} (hrefers : RefersTo target module name)
      (hpoint : module.head? = some '.') : Escapes target (ResolveFault.relative module).toCause
  | making {found : Export} {cause : Cause} (hreaches : registry.Reaches target found)
      (hmaking : found.offer = .error cause) (hcause : ¬ cause.IsBadValue) : Escapes target cause

/-! ### Stages -/

variable {registry} {target module name : Text}

lemma resolveTarget_of_malformed (h : ∀ module name, ¬ RefersTo target module name) :
    registry.resolveTarget target = .error (.malformed target) := by
  rw [resolveTarget]
  cases hcut : Text.cut? ':' target with
  | none => rfl
  | some parts =>
      obtain ⟨module, name⟩ := parts
      obtain ⟨happend, hcolon⟩ := Text.cut?_eq_some hcut
      refine if_pos ?_
      by_contra hboth
      rw [Bool.or_eq_true, not_or, List.isEmpty_iff, List.isEmpty_iff] at hboth
      exact h module name ⟨happend, hcolon, hboth.1, hboth.2⟩

lemma resolveTarget_of_refersTo (h : RefersTo target module name) :
    registry.resolveTarget target
      = if module.head? = some '.' then .error (.relative module)
        else
          match registry.locate module with
          | .error fault => .error (.missingModule module fault)
          | .ok library =>
            match library.exports.find? name with
            | none => .error (.missingName module name)
            | some found => ofExport found := by
  have hne : ¬ (module.isEmpty || name.isEmpty) = true := by
    rw [Bool.or_eq_true, not_or, List.isEmpty_iff, List.isEmpty_iff]
    exact ⟨h.module_ne, h.name_ne⟩
  rw [resolveTarget, h.cut?_eq]
  exact if_neg hne

lemma Reaches.resolveTarget_eq {found : Export} (h : registry.Reaches target found) :
    registry.resolveTarget target = ofExport found := by
  obtain ⟨module, name, library, hrefers, hpoint, hlocate, hexport⟩ := h
  rw [resolveTarget_of_refersTo hrefers, if_neg hpoint]
  simp only [hlocate, hexport]

/-- **The stages of a resolution.** A reference reaches an export, or names a module relative to another
one, or is a bad value. -/
lemma resolveTarget_cases (registry : Registry) (target : Text) :
    (∃ found, registry.Reaches target found)
      ∨ (∃ module name, RefersTo target module name ∧ module.head? = some '.')
      ∨ ((∀ found, ¬ registry.Reaches target found)
        ∧ (∀ module name, RefersTo target module name → module.head? ≠ some '.')
        ∧ ∃ fault, registry.resolveTarget target = .error fault ∧ fault.toCause.IsBadValue) := by
  by_cases hrefers : ∃ module name, RefersTo target module name
  · obtain ⟨module, name, hrefers⟩ := hrefers
    by_cases hpoint : module.head? = some '.'
    · exact Or.inr (Or.inl ⟨module, name, hrefers, hpoint⟩)
    have hplain : ∀ other called, RefersTo target other called → other.head? ≠ some '.' :=
      fun other called hother => (hrefers.unique hother).1 ▸ hpoint
    have hresolve : registry.resolveTarget target = _ := resolveTarget_of_refersTo hrefers
    rw [if_neg hpoint] at hresolve
    cases hlocate : registry.locate module with
    | error fault =>
        refine Or.inr (Or.inr ⟨?_, hplain, .missingModule module fault, ?_, trivial⟩)
        · rintro found ⟨other, called, library, hother, -, hfound, -⟩
          rw [(hrefers.unique hother).1, hlocate] at hfound
          cases hfound
        · rw [hresolve, hlocate]
    | ok library =>
        simp only [hlocate] at hresolve
        cases hexport : library.exports.find? name with
        | none =>
            refine Or.inr (Or.inr ⟨?_, hplain, .missingName module name, ?_, trivial⟩)
            · rintro found ⟨other, called, package, hother, -, hfound, hoffers⟩
              obtain ⟨rfl, rfl⟩ := hrefers.unique hother
              obtain rfl := Except.ok.inj (hlocate.symm.trans hfound)
              rw [hexport] at hoffers
              cases hoffers
            · rw [hresolve, hexport]
        | some found =>
            exact Or.inl ⟨found, module, name, library, hrefers, hpoint, hlocate, hexport⟩
  · rw [not_exists] at hrefers
    have hnone : ∀ module name, ¬ RefersTo target module name := fun module name h =>
      hrefers module ⟨name, h⟩
    refine Or.inr (Or.inr ⟨?_, fun module name h => (hnone module name h).elim, .malformed target,
      resolveTarget_of_malformed hnone, trivial⟩)
    rintro found ⟨module, name, library, h, -⟩
    exact hnone module name h

/-! ### Results -/

lemma ofExport_eq (found : Export) :
    ofExport found
      = match found.offer with
        | .ok offer => ofOffer offer
        | .error cause => .error (.making cause) := by
  rcases found with offer | ⟨cause | offer⟩ <;> rfl

lemma ofOffer_eq_ok {offer : Offer} {handler : Handler} :
    ofOffer offer = .ok handler ↔ offer = .handler handler := by
  cases offer with
  | handler other => exact ⟨fun h => Except.ok.inj h ▸ rfl, fun h => Offer.handler.inj h ▸ rfl⟩
  | inert spelling => exact ⟨nofun, nofun⟩

/-- What is found but renders nothing is a bad value. -/
lemma isBadValue_of_ofOffer {offer : Offer} {fault : ResolveFault}
    (h : ofOffer offer = .error fault) : fault.toCause.IsBadValue := by
  cases offer with
  | handler handler => cases h
  | inert spelling => exact Except.error.inj h ▸ trivial

/-- A reference is resolved exactly to the handler that it names. -/
lemma resolveTarget_eq_ok {handler : Handler} :
    registry.resolveTarget target = .ok handler ↔ registry.Names target handler := by
  constructor
  · intro hresolve
    rcases resolveTarget_cases registry target with
      ⟨found, hreaches⟩ | ⟨module, name, hrefers, hpoint⟩ | ⟨-, -, fault, herror, -⟩
    · refine ⟨found, hreaches, ?_⟩
      rw [hreaches.resolveTarget_eq, ofExport_eq] at hresolve
      cases hoffer : found.offer with
      | ok offer => rw [hoffer] at hresolve; rw [ofOffer_eq_ok.mp hresolve]
      | error cause => rw [hoffer] at hresolve; cases hresolve
    · rw [resolveTarget_of_refersTo hrefers, if_pos hpoint] at hresolve
      cases hresolve
    · rw [herror] at hresolve
      cases hresolve
  · rintro ⟨found, hreaches, hoffer⟩
    rw [hreaches.resolveTarget_eq, ofExport_eq, hoffer]
    rfl

/-- A reference escapes exactly with the failures that are no bad values. -/
lemma resolveTarget_escapes {cause : Cause} :
    (∃ fault, registry.resolveTarget target = .error fault ∧ fault.toCause = cause
        ∧ ¬ cause.IsBadValue)
      ↔ registry.Escapes target cause := by
  constructor
  · rintro ⟨fault, hresolve, rfl, hcause⟩
    rcases resolveTarget_cases registry target with
      ⟨found, hreaches⟩ | ⟨module, name, hrefers, hpoint⟩ | ⟨-, -, other, herror, hbad⟩
    · rw [hreaches.resolveTarget_eq, ofExport_eq] at hresolve
      cases hoffer : found.offer with
      | ok offer =>
          rw [hoffer] at hresolve
          exact (hcause (isBadValue_of_ofOffer hresolve)).elim
      | error cause =>
          rw [hoffer] at hresolve
          obtain rfl := Except.error.inj hresolve
          exact .making hreaches hoffer hcause
    · rw [resolveTarget_of_refersTo hrefers, if_pos hpoint] at hresolve
      obtain rfl := Except.error.inj hresolve
      exact .relative hrefers hpoint
    · obtain rfl := Except.error.inj (herror.symm.trans hresolve)
      exact (hcause hbad).elim
  · rintro (⟨hrefers, hpoint⟩ | ⟨hreaches, hmaking, hcause⟩)
    · refine ⟨_, ?_, rfl, id⟩
      rw [resolveTarget_of_refersTo hrefers, if_pos hpoint]
    · refine ⟨.making _, ?_, rfl, hcause⟩
      rw [hreaches.resolveTarget_eq, ofExport_eq, hmaking]

/-- A reference is resolved or a bad value exactly if it does not escape. -/
lemma resolveTarget_settles :
    ((∃ handler, registry.resolveTarget target = .ok handler)
        ∨ ∃ fault, registry.resolveTarget target = .error fault ∧ fault.toCause.IsBadValue)
      ↔ ∀ cause, ¬ registry.Escapes target cause := by
  simp only [← resolveTarget_escapes]
  cases hresolve : registry.resolveTarget target with
  | ok handler => exact iff_of_true (Or.inl ⟨handler, rfl⟩) nofun
  | error fault =>
      constructor
      · rintro (⟨_, ⟨⟩⟩ | ⟨_, ⟨⟩, hbad⟩) _ ⟨_, ⟨⟩, rfl, hcause⟩
        exact hcause hbad
      · intro h
        refine Or.inr ⟨fault, rfl, ?_⟩
        by_contra hcause
        exact h _ ⟨fault, rfl, rfl, hcause⟩

end Registry

end BlockTree
