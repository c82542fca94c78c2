import FeatureFlags.Version
import Mathlib.Data.List.Basic
import Mathlib.Data.List.TakeWhile
import Mathlib.Order.Compare

/-!
**The order of versions is total.**

Identifiers are compared by their kind, then numbers by their digits and texts by their characters,
and versions are compared part by part. Each comparison is lexicographic over orders that are total,
so swapping two versions reverses the answer, the answers are transitive, and only equal versions
are alike.
-/

namespace FeatureFlags

namespace Version

open Std

/-- An order of parts orders what has the parts. -/
theorem transCmp_parts {α β : Type} (order : β → β → Ordering) [TransCmp order] (part : α → β) :
    TransCmp fun a b => order (part a) (part b) where
  eq_swap := OrientedCmp.eq_swap
  isLE_trans := TransCmp.isLE_trans

/-! ### Identifiers -/

instance : TransCmp compareText := inferInstanceAs (TransCmp (compareOn _))

instance : LawfulEqCmp compareText where
  eq_of_compare {a b} same := by
    have codes : a.map Char.toNat = b.map Char.toNat := LawfulEqCmp.eq_of_compare same
    exact Function.Injective.list_map (fun _ _ => Char.toNat_inj.mp) codes

/-- Numbers come before texts. -/
def kind (identifier : List Char) : Nat := if isNumeric identifier then 0 else 1

/-- How many digits of a number there are; a text has none. -/
def digitCount (identifier digits : List Char) : Nat :=
  if isNumeric identifier then digits.length else 0

theorem comparePreIdentifier_eq : comparePreIdentifier = compareLex (compareOn kind)
    (compareLex (compareOn fun identifier => digitCount identifier identifier) compareText) := by
  funext a b
  simp only [comparePreIdentifier, compareLex, compareOn, kind, digitCount]
  cases isNumeric a <;> cases isNumeric b <;> rfl

instance : TransCmp comparePreIdentifier := comparePreIdentifier_eq ▸ inferInstance

instance : LawfulEqCmp comparePreIdentifier where
  eq_of_compare {a b} same := by
    rw [comparePreIdentifier_eq] at same
    simp only [compareLex, Ordering.then_eq_eq] at same
    exact LawfulEqCmp.eq_of_compare same.2.2

/-- What counts of an identifier of a build before its leading zeros do. -/
def essence (identifier : List Char) : List Char :=
  if isNumeric identifier then significantDigits identifier else identifier

theorem compareBuildIdentifier_eq : compareBuildIdentifier = compareLex (compareOn kind)
    (compareLex (compareOn fun identifier => digitCount identifier (essence identifier))
      (compareLex (fun a b => compareText (essence a) (essence b))
        (compareOn fun identifier => digitCount identifier identifier))) := by
  funext a b
  simp only [compareBuildIdentifier, compareLex, compareOn, kind, digitCount, essence]
  cases isNumeric a <;> cases isNumeric b
  · simp
  · rfl
  · rfl
  · simp [Ordering.then_assoc]

instance : TransCmp compareBuildIdentifier :=
  have := transCmp_parts compareText essence
  compareBuildIdentifier_eq ▸ inferInstance

/-- The zeros before the significant digits are given by how many digits there are. -/
theorem eq_of_significantDigits {a b : List Char} (same : significantDigits a = significantDigits b)
    (length : a.length = b.length) : a = b := by
  have split (digits : List Char) :
      digits.takeWhile (· == '0') ++ significantDigits digits = digits :=
    List.takeWhile_append_dropWhile
  have zeros (digits : List Char) : digits.takeWhile (· == '0') =
      List.replicate (digits.length - (significantDigits digits).length) '0' := by
    have lengths := congrArg List.length (split digits)
    rw [List.length_append] at lengths
    refine List.eq_replicate_iff.mpr ⟨by omega, fun c inside => ?_⟩
    exact beq_iff_eq.mp (List.mem_takeWhile_imp (p := (· == '0')) inside)
  rw [← split a, ← split b, zeros, zeros, same, length]

instance : LawfulEqCmp compareBuildIdentifier where
  eq_of_compare {a b} same := by
    rw [compareBuildIdentifier_eq] at same
    simp only [compareLex, Ordering.then_eq_eq] at same
    obtain ⟨kinds, _, text, count⟩ := same
    have texts : essence a = essence b := LawfulEqCmp.eq_of_compare text
    have kinds : kind a = kind b := LawfulEqCmp.eq_of_compare kinds
    have counts : digitCount a a = digitCount b b := LawfulEqCmp.eq_of_compare count
    unfold essence at texts
    unfold kind at kinds
    unfold digitCount at counts
    cases first : isNumeric a <;> cases second : isNumeric b <;>
      simp only [first, second, if_true, if_false, Bool.false_eq_true] at kinds texts counts
    · exact texts
    · cases kinds
    · cases kinds
    · exact eq_of_significantDigits texts counts

/-! ### Versions -/

theorem compareIdentifiers_eq (order : List Char → List Char → Ordering) :
    compareIdentifiers order = List.compareLex order := by
  funext as bs
  induction as generalizing bs with
  | nil => cases bs <;> rfl
  | cons a as ih =>
    cases bs with
    | nil => rfl
    | cons b bs => rw [compareIdentifiers, List.compareLex_cons_cons, ih]

theorem comparePreRelease_eq : comparePreRelease =
    compareLex (compareOn List.isEmpty) (List.compareLex comparePreIdentifier) := by
  funext as bs
  rw [← compareIdentifiers_eq]
  cases as <;> cases bs <;> rfl

instance : TransCmp comparePreRelease := comparePreRelease_eq ▸ inferInstance

instance : LawfulEqCmp comparePreRelease where
  eq_of_compare {as bs} same := by
    rw [comparePreRelease_eq] at same
    simp only [compareLex, Ordering.then_eq_eq] at same
    exact LawfulEqCmp.eq_of_compare same.2

theorem compare_eq : Version.compare = compareLex (compareOn Version.major)
    (compareLex (compareOn Version.minor) (compareLex (compareOn Version.patch)
      (compareLex (fun a b => comparePreRelease a.preRelease b.preRelease)
        fun a b => List.compareLex compareBuildIdentifier a.build b.build))) := by
  funext a b
  simp only [Version.compare, compareLex, compareOn, compareIdentifiers_eq, Ordering.then_assoc]

instance : TransCmp Version.compare :=
  have := transCmp_parts comparePreRelease Version.preRelease
  have := transCmp_parts (List.compareLex compareBuildIdentifier) Version.build
  compare_eq ▸ inferInstance

instance : LawfulEqCmp Version.compare where
  eq_of_compare {a b} same := by
    rw [compare_eq] at same
    simp only [compareLex, compareOn, Ordering.then_eq_eq, LawfulEqCmp.compare_eq_iff_eq] at same
    obtain ⟨major, minor, patch, preRelease, build⟩ := same
    cases a
    cases b
    simp_all

end Version

end FeatureFlags
