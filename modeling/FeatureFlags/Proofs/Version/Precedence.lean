import FeatureFlags.Proofs.Version.Order
import Mathlib.Algebra.Group.Nat.Defs

/-!
**The precedence of versions, as the specification of semantic versions words it.**

Precedence looks at the three numbers one after another, then at the pre-release, and never at the
build. The order of versions agrees with it wherever it decides, and goes on to the identifiers of
the builds where it does not. Numbers among the identifiers of a pre-release have no leading zeros,
which is why their digits can be compared in the place of their values.

* `Version.Before`: when one identifier comes before another, with `Version.PreBefore` and
  `Version.BuildBefore` for the two lists of identifiers.
* `Version.Precedes`, `Version.SamePrecedence`: precedence.
* `Version.compare_eq_lt_iff`: when a version comes before another in the order.
* `Version.wellFormed_of_ofText?`: what holds of every version that is read.
-/

namespace FeatureFlags

namespace Version

open Std

/-! ### Precedence -/

/-- One identifier comes before another: numbers as they are put, texts by their characters, and
numbers before texts. -/
inductive Before (less : List Char → List Char → Prop) (a b : List Char) : Prop
  | numbers (first : isNumeric a) (second : isNumeric b) (before : less a b)
  | mixed (first : isNumeric a) (second : ¬ isNumeric b)
  | texts (first : ¬ isNumeric a) (second : ¬ isNumeric b) (before : a < b)

/-- One identifier of a pre-release comes before another: numbers by their values. -/
def PreBefore : List Char → List Char → Prop := Before fun a b => digitsValue a < digitsValue b

/-- One identifier of a build comes before another: numbers by their values, and of two numbers with
one value the one with fewer leading zeros. -/
def BuildBefore : List Char → List Char → Prop := Before fun a b =>
  digitsValue a < digitsValue b ∨ digitsValue a = digitsValue b ∧ a.length < b.length

/-- The three numbers are the same. -/
structure SameNumbers (v w : Version) : Prop where
  major : v.major = w.major
  minor : v.minor = w.minor
  patch : v.patch = w.patch

/-- One version has less precedence than another: by the first of the three numbers that differs, as
a pre-release of the other, or by the first identifier of the pre-releases that differs, where a
list comes before any that goes on after it. -/
inductive Precedes (v w : Version) : Prop
  | major (less : v.major < w.major)
  | minor (major : v.major = w.major) (less : v.minor < w.minor)
  | patch (major : v.major = w.major) (minor : v.minor = w.minor) (less : v.patch < w.patch)
  | release (numbers : v.SameNumbers w) (unreleased : v.preRelease ≠ [])
      (released : w.preRelease = [])
  | preRelease (numbers : v.SameNumbers w) (unreleased : v.preRelease ≠ [])
      (less : List.Lex PreBefore v.preRelease w.preRelease)

/-- Two versions differ in their builds alone, or not at all. -/
structure SamePrecedence (v w : Version) : Prop extends SameNumbers v w where
  preRelease : v.preRelease = w.preRelease

theorem SamePrecedence.symm {v w : Version} (same : v.SamePrecedence w) : w.SamePrecedence v :=
  ⟨⟨same.major.symm, same.minor.symm, same.patch.symm⟩, same.preRelease.symm⟩

/-- Precedence does not look at the builds. -/
theorem Precedes.congr {v w v' w' : Version} (precedes : v.Precedes w)
    (first : v.SamePrecedence v') (second : w.SamePrecedence w') : v'.Precedes w' := by
  obtain ⟨major, minor, patch, preRelease, _⟩ := v
  obtain ⟨major', minor', patch', preRelease', _⟩ := w
  obtain ⟨⟨rfl, rfl, rfl⟩, rfl⟩ := first
  obtain ⟨⟨rfl, rfl, rfl⟩, rfl⟩ := second
  cases precedes with
  | major less => exact .major less
  | minor major less => exact .minor major less
  | patch major minor less => exact .patch major minor less
  | release numbers unreleased released =>
    exact .release ⟨numbers.major, numbers.minor, numbers.patch⟩ unreleased released
  | preRelease numbers unreleased less =>
    exact .preRelease ⟨numbers.major, numbers.minor, numbers.patch⟩ unreleased less

/-! ### Lists -/

/-- A lexicographic order puts one list before another as its parts are put. -/
theorem compareLex_eq_lt_iff {α : Type} {order : α → α → Ordering} [LawfulEqCmp order]
    {before : α → α → Prop} {as bs : List α}
    (each : ∀ a ∈ as, ∀ b ∈ bs, order a b = .lt ↔ before a b) :
    List.compareLex order as bs = .lt ↔ List.Lex before as bs := by
  induction as generalizing bs with
  | nil =>
    cases bs with
    | nil => exact iff_of_false Ordering.noConfusion List.not_lex_nil
    | cons b bs => exact ⟨fun _ => .nil, fun _ => rfl⟩
  | cons a as ih =>
    cases bs with
    | nil => exact iff_of_false Ordering.noConfusion List.not_lex_nil
    | cons b bs =>
      rw [List.compareLex_cons_cons, Ordering.then_eq_lt, List.cons_lex_cons_iff,
        each a List.mem_cons_self b List.mem_cons_self, LawfulEqCmp.compare_eq_iff_eq,
        ih fun a first b second =>
          each a (List.mem_cons_of_mem _ first) b (List.mem_cons_of_mem _ second)]

theorem compareText_cons_cons (a b : Char) (as bs : List Char) :
    compareText (a :: as) (b :: bs) =
      (Ord.compare a.toNat b.toNat).then (compareText as bs) :=
  List.compare_cons_cons

theorem compareText_eq : compareText = List.compareLex (compareOn Char.toNat) := by
  funext as bs
  induction as generalizing bs with
  | nil => cases bs <;> rfl
  | cons a as ih =>
    cases bs with
    | nil => rfl
    | cons b bs =>
      rw [List.compareLex_cons_cons, ← ih, compareText_cons_cons]
      rfl

theorem compareText_eq_lt_iff {a b : List Char} : compareText a b = .lt ↔ a < b := by
  have : LawfulEqCmp (compareOn Char.toNat) :=
    ⟨fun same => Char.toNat_inj.mp (Nat.compare_eq_eq.mp same)⟩
  rw [compareText_eq]
  exact compareLex_eq_lt_iff fun _ _ _ _ => Nat.compare_eq_lt

/-! ### The values of digits -/

section Digits

variable {a b : List Char}

theorem digitsValue_cons (c : Char) (rest : List Char) :
    digitsValue (c :: rest) = (c.toNat - '0'.toNat) * 10 ^ rest.length + digitsValue rest := by
  have spelled (digits : List Char) : digitsValue digits = Nat.ofDigitChars 10 digits 0 := by
    rw [Nat.ofDigitChars_eq_foldl, digitsValue]
    simp only [Nat.mul_comm]
  rw [spelled, spelled, Nat.ofDigitChars_cons, Nat.ofDigitChars_eq_ofDigitChars_zero,
    Nat.mul_zero, Nat.zero_add, Nat.mul_comm]

theorem digit_bounds {c : Char} (digit : c.isDigit) : 48 ≤ c.toNat ∧ c.toNat ≤ 57 :=
  Char.isDigit_iff_toNat.mp digit

theorem digitsValue_lt (digits : isNumeric a) : digitsValue a < 10 ^ a.length := by
  induction a with
  | nil => decide
  | cons c rest ih =>
    obtain ⟨digit, others⟩ := Bool.and_eq_true_iff.mp digits
    have tail := ih others
    have head : c.toNat - '0'.toNat ≤ 9 := by
      have bounds := digit_bounds digit
      show c.toNat - 48 ≤ 9
      omega
    rw [digitsValue_cons, List.length_cons, Nat.pow_succ]
    have scaled := Nat.mul_le_mul_right (10 ^ rest.length) head
    omega

theorem compare_congr {m n m' n' : Nat} (less : m < n ↔ m' < n') (greater : n < m ↔ n' < m') :
    Ord.compare m n = Ord.compare m' n' := by
  rw [Nat.compare_eq_ite_lt, Nat.compare_eq_ite_lt]
  simp only [less, greater]

/-- The first of two digits that differ decides about the values. -/
theorem compare_place {first second place rest other : Nat} (small : rest < place)
    (otherSmall : other < place) : Ord.compare (first * place + rest) (second * place + other) =
      (Ord.compare first second).then (Ord.compare rest other) := by
  rcases Nat.lt_trichotomy first second with less | rfl | greater
  · have step := Nat.mul_le_mul_right place less
    rw [Nat.succ_mul] at step
    rw [Nat.compare_eq_lt.mpr less, Nat.compare_eq_lt.mpr (by omega)]
    rfl
  · rw [Nat.compare_eq_eq.mpr rfl, Ordering.eq_then]
    exact compare_congr (by omega) (by omega)
  · have step := Nat.mul_le_mul_right place greater
    rw [Nat.succ_mul] at step
    rw [Nat.compare_eq_gt.mpr greater, Nat.compare_eq_gt.mpr (by omega)]
    rfl

/-- Digits of one length are ordered as their values. -/
theorem compareText_digits (first : isNumeric a) (second : isNumeric b)
    (length : a.length = b.length) :
    compareText a b = Ord.compare (digitsValue a) (digitsValue b) := by
  induction a generalizing b with
  | nil =>
    cases b with
    | nil => rfl
    | cons d bs => cases length
  | cons c as ih =>
    cases b with
    | nil => cases length
    | cons d bs =>
      obtain ⟨digit, digits⟩ := Bool.and_eq_true_iff.mp first
      obtain ⟨otherDigit, otherDigits⟩ := Bool.and_eq_true_iff.mp second
      have rest : as.length = bs.length := Nat.succ.inj length
      have low := digitsValue_lt digits
      have otherLow := digitsValue_lt otherDigits
      rw [rest] at low
      have bounds := digit_bounds digit
      have otherBounds := digit_bounds otherDigit
      have digitOrder : Ord.compare (c.toNat - '0'.toNat) (d.toNat - '0'.toNat) =
          Ord.compare c.toNat d.toNat := by
        show Ord.compare (c.toNat - 48) (d.toNat - 48) = _
        exact compare_congr (by omega) (by omega)
      rw [digitsValue_cons, digitsValue_cons, rest, compare_place low otherLow, digitOrder,
        ← ih digits otherDigits rest, compareText_cons_cons]

/-- **Digits that do not begin with a zero are ordered as their values** by their number and then by
their characters. -/
theorem compare_digits (first : isNumeric a) (second : isNumeric b)
    (long : b.length < a.length → 10 ^ b.length ≤ digitsValue a)
    (otherLong : a.length < b.length → 10 ^ a.length ≤ digitsValue b) :
    (Ord.compare a.length b.length).then (compareText a b) =
      Ord.compare (digitsValue a) (digitsValue b) := by
  have low := digitsValue_lt first
  have otherLow := digitsValue_lt second
  rcases Nat.lt_trichotomy a.length b.length with less | same | greater
  · have large := otherLong less
    rw [Nat.compare_eq_lt.mpr less, Nat.compare_eq_lt.mpr (by omega)]
    rfl
  · rw [Nat.compare_eq_eq.mpr same, Ordering.eq_then, compareText_digits first second same]
  · have large := long greater
    rw [Nat.compare_eq_gt.mpr greater, Nat.compare_eq_gt.mpr (by omega)]
    rfl

/-- Digits that begin with another digit than zero have a large value. -/
theorem le_digitsValue {c : Char} {rest : List Char} (digit : c.isDigit) (nonzero : c ≠ '0') :
    10 ^ rest.length ≤ digitsValue (c :: rest) := by
  have bounds := digit_bounds digit
  have apart : c.toNat ≠ 48 := fun zero => nonzero (Char.toNat_inj.mp zero)
  have positive : 1 ≤ c.toNat - '0'.toNat := by
    show 1 ≤ c.toNat - 48
    omega
  rw [digitsValue_cons]
  have scaled := Nat.mul_le_mul_right (10 ^ rest.length) positive
  omega

end Digits

/-! ### Identifiers -/

section Identifiers

variable {a b : List Char}

/-- An identifier of a pre-release as it is read. -/
structure IsPreIdentifier (identifier : List Char) : Prop where
  nonempty : identifier ≠ []
  leads : isNumeric identifier → hasLeadingZero identifier = false

/-- A number with more digits than another identifier has no zero in front. -/
theorem IsPreIdentifier.le_digitsValue (identifier : IsPreIdentifier a) (digits : isNumeric a)
    (nonempty : b ≠ []) (longer : b.length < a.length) : 10 ^ b.length ≤ digitsValue a := by
  cases a with
  | nil => exact absurd longer (Nat.not_lt_zero _)
  | cons c rest =>
    have fits : b.length ≤ rest.length := Nat.le_of_lt_succ longer
    have nonzero : c ≠ '0' := by
      rintro rfl
      -- A lone zero has no more digits than the other identifier has characters.
      cases rest with
      | nil => exact nonempty (List.eq_nil_of_length_eq_zero (Nat.le_zero.mp fits))
      | cons d others => cases identifier.leads digits
    exact Nat.le_trans (Nat.pow_le_pow_right (by decide) fits)
      (Version.le_digitsValue (Bool.and_eq_true_iff.mp digits).1 nonzero)

/-- An order that puts numbers before texts and compares texts by their characters. -/
def compareKinds (numbers : Ordering) (a b : List Char) : Ordering :=
  match isNumeric a, isNumeric b with
  | true, true => numbers
  | true, false => .lt
  | false, true => .gt
  | false, false => compareText a b

theorem compareKinds_eq_lt_iff {numbers : Ordering} {less : List Char → List Char → Prop}
    (agrees : isNumeric a → isNumeric b → (numbers = .lt ↔ less a b)) :
    compareKinds numbers a b = .lt ↔ Before less a b := by
  unfold compareKinds
  cases first : isNumeric a <;> cases second : isNumeric b
  · rw [compareText_eq_lt_iff]
    refine ⟨.texts (by simp [first]) (by simp [second]), fun before => ?_⟩
    cases before <;> simp_all
  · refine iff_of_false Ordering.noConfusion fun before => ?_
    cases before <;> simp_all
  · exact iff_of_true rfl (.mixed first (by simp [second]))
  · refine (agrees first second).trans ⟨.numbers first second, fun before => ?_⟩
    cases before <;> simp_all

/-- **The order of identifiers of pre-releases is their precedence.** -/
theorem comparePreIdentifier_eq_lt_iff (first : IsPreIdentifier a) (second : IsPreIdentifier b) :
    comparePreIdentifier a b = .lt ↔ PreBefore a b := by
  refine compareKinds_eq_lt_iff fun number otherNumber => ?_
  rw [compare_digits number otherNumber (first.le_digitsValue number second.nonempty)
    (second.le_digitsValue otherNumber first.nonempty), Nat.compare_eq_lt]

theorem digitsValue_significantDigits (digits : List Char) :
    digitsValue (significantDigits digits) = digitsValue digits := by
  unfold significantDigits
  induction digits with
  | nil => rfl
  | cons c rest ih =>
    rw [List.dropWhile_cons]
    split
    · rename_i zero
      rw [ih, beq_iff_eq.mp zero, digitsValue_cons, Nat.sub_self, Nat.zero_mul, Nat.zero_add]
    · rfl

theorem isNumeric_significantDigits (digits : isNumeric a) : isNumeric (significantDigits a) :=
  List.all_eq_true.mpr fun c inside =>
    List.all_eq_true.mp digits c ((List.dropWhile_sublist _).mem inside)

theorem le_digitsValue_significantDigits (digits : isNumeric a)
    (longer : b.length < (significantDigits a).length) :
    10 ^ b.length ≤ digitsValue (significantDigits a) := by
  have numeric := isNumeric_significantDigits digits
  cases isList : significantDigits a with
  | nil =>
    rw [isList] at longer
    exact absurd longer (Nat.not_lt_zero _)
  | cons c rest =>
    rw [isList] at longer numeric
    have nonzero : c ≠ '0' := by
      have head := List.head?_dropWhile_not (· == '0') a
      unfold significantDigits at isList
      rw [isList] at head
      simpa using head
    exact Nat.le_trans (Nat.pow_le_pow_right (by decide) (Nat.le_of_lt_succ longer))
      (le_digitsValue (Bool.and_eq_true_iff.mp numeric).1 nonzero)

/-- The order of identifiers of builds. -/
theorem compareBuildIdentifier_eq_lt_iff :
    compareBuildIdentifier a b = .lt ↔ BuildBefore a b := by
  refine compareKinds_eq_lt_iff fun number otherNumber => ?_
  rw [compare_digits (isNumeric_significantDigits number)
    (isNumeric_significantDigits otherNumber) (le_digitsValue_significantDigits number)
    (le_digitsValue_significantDigits otherNumber), digitsValue_significantDigits,
    digitsValue_significantDigits, Ordering.then_eq_lt, Nat.compare_eq_lt, Nat.compare_eq_eq,
    Nat.compare_eq_lt]

end Identifiers

/-! ### Versions -/

/-- A version as it is read: no identifier of its pre-release is empty or a number with leading
zeros. -/
def WellFormed (v : Version) : Prop := ∀ identifier ∈ v.preRelease, IsPreIdentifier identifier

variable {v w : Version}

theorem comparePreRelease_eq_lt_iff (first : v.WellFormed) (second : w.WellFormed) :
    comparePreRelease v.preRelease w.preRelease = .lt ↔ v.preRelease ≠ [] ∧
      (w.preRelease = [] ∨ List.Lex PreBefore v.preRelease w.preRelease) := by
  have lists : List.compareLex comparePreIdentifier v.preRelease w.preRelease = .lt ↔
      List.Lex PreBefore v.preRelease w.preRelease :=
    compareLex_eq_lt_iff fun a inside b other =>
      comparePreIdentifier_eq_lt_iff (first a inside) (second b other)
  rw [← lists, ← compareIdentifiers_eq]
  cases v.preRelease <;> cases w.preRelease <;> simp [comparePreRelease, compareIdentifiers]

/-- **When a version comes before another in the order**: by precedence, or by the builds where
precedence does not decide. -/
theorem compare_eq_lt_iff (first : v.WellFormed) (second : w.WellFormed) : v.compare w = .lt ↔
    v.Precedes w ∨ v.SamePrecedence w ∧ List.Lex BuildBefore v.build w.build := by
  have builds : List.compareLex compareBuildIdentifier v.build w.build = .lt ↔
      List.Lex BuildBefore v.build w.build :=
    compareLex_eq_lt_iff fun _ _ _ _ => compareBuildIdentifier_eq_lt_iff
  simp only [compare_eq, compareLex, compareOn, Ordering.then_eq_lt, Nat.compare_eq_lt,
    LawfulEqCmp.compare_eq_iff_eq, comparePreRelease_eq_lt_iff first second, builds]
  constructor
  · rintro (less | ⟨major, less | ⟨minor, less | ⟨patch, ⟨unreleased, released | less⟩ |
      ⟨preRelease, less⟩⟩⟩⟩)
    · exact .inl (.major less)
    · exact .inl (.minor major less)
    · exact .inl (.patch major minor less)
    · exact .inl (.release ⟨major, minor, patch⟩ unreleased released)
    · exact .inl (.preRelease ⟨major, minor, patch⟩ unreleased less)
    · exact .inr ⟨⟨⟨major, minor, patch⟩, preRelease⟩, less⟩
  · rintro (precedes | ⟨same, less⟩)
    · cases precedes with
      | major less => exact .inl less
      | minor major less => exact .inr ⟨major, .inl less⟩
      | patch major minor less => exact .inr ⟨major, .inr ⟨minor, .inl less⟩⟩
      | release numbers unreleased released =>
        exact .inr ⟨numbers.major, .inr ⟨numbers.minor, .inr ⟨numbers.patch,
          .inl ⟨unreleased, .inl released⟩⟩⟩⟩
      | preRelease numbers unreleased less =>
        exact .inr ⟨numbers.major, .inr ⟨numbers.minor, .inr ⟨numbers.patch,
          .inl ⟨unreleased, .inr less⟩⟩⟩⟩
    · exact .inr ⟨same.major, .inr ⟨same.minor, .inr ⟨same.patch,
        .inr ⟨same.preRelease, less⟩⟩⟩⟩

/-- **Of any two versions one comes first, by precedence or by its build, or they are the same.** -/
theorem precedes_trichotomy (first : v.WellFormed) (second : w.WellFormed) :
    v.Precedes w ∨ w.Precedes v ∨ v.SamePrecedence w ∧
      (v.build = w.build ∨ List.Lex BuildBefore v.build w.build ∨
        List.Lex BuildBefore w.build v.build) := by
  cases order : v.compare w with
  | lt =>
    rcases (compare_eq_lt_iff first second).mp order with precedes | ⟨same, before⟩
    · exact .inl precedes
    · exact .inr (.inr ⟨same, .inr (.inl before)⟩)
  | eq =>
    obtain rfl := LawfulEqCmp.eq_of_compare order
    exact .inr (.inr ⟨⟨⟨rfl, rfl, rfl⟩, rfl⟩, .inl rfl⟩)
  | gt =>
    rcases (compare_eq_lt_iff second first).mp (OrientedCmp.gt_iff_lt.mp order) with
      precedes | ⟨same, before⟩
    · exact .inr (.inl precedes)
    · exact .inr (.inr ⟨same.symm, .inr (.inr before)⟩)

/-! ### What is read -/

theorem ne_nil_of_takeIdentifiers {input rest : List Char} {identifiers : List (List Char)}
    (taken : takeIdentifiers input = some (identifiers, rest)) : ∀ a ∈ identifiers, a ≠ [] := by
  unfold takeIdentifiers at taken
  obtain ⟨filled, same⟩ := Option.ite_none_left_eq_some.mp taken
  cases same
  intro a inside empty
  exact filled (List.any_eq_true.mpr ⟨a, inside, List.isEmpty_iff.mpr empty⟩)

theorem isPreIdentifier_of_takePreRelease {input rest : List Char}
    {identifiers : List (List Char)} (taken : takePreRelease input = some (identifiers, rest)) :
    ∀ a ∈ identifiers, IsPreIdentifier a := by
  unfold takePreRelease at taken
  split at taken
  · obtain ⟨found, isFound, taken⟩ := Option.bind_eq_some_iff.mp taken
    obtain ⟨leads, same⟩ := Option.ite_none_left_eq_some.mp taken
    cases same
    intro a inside
    refine ⟨ne_nil_of_takeIdentifiers isFound a inside, fun number => ?_⟩
    by_contra zero
    exact leads (List.any_eq_true.mpr ⟨a, inside, by simp [number, zero]⟩)
  · cases taken
    exact List.forall_mem_nil _

/-- **Every version that is read is well-formed.** -/
theorem wellFormed_of_ofText? {text : String} (isRead : ofText? text = some v) : v.WellFormed := by
  unfold ofText? at isRead
  simp only [Option.bind_eq_bind, Option.bind_eq_some_iff, Option.pure_def,
    Option.ite_none_right_eq_some, Option.some.injEq, Prod.exists] at isRead
  obtain ⟨_, _, _, _, _, _, _, _, _, _, _, _, _, _, _, taken, _, _, _, _, rfl⟩ := isRead
  exact isPreIdentifier_of_takePreRelease taken

end Version

end FeatureFlags
