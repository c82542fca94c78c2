import FeatureFlags.Catalog.Basic
import FeatureFlags.Proofs.Flag.FirstMatch
import FeatureFlags.Proofs.Json.Places
import FeatureFlags.Proofs.Json.Records
import FeatureFlags.Proofs.Precomputed.Integers

/-!
**Whole numbers of 64 bits in the two kinds of configuration.**

A flag of a configuration has its values as scalars, so a whole number that it is written with is
rounded to a double before it is read as a whole number again. A precomputed flag has the value that
it is written with, and its codec reads a whole number as it is. So the two agree exactly on the
numbers that are doubles, and on the largest number of 64 bits, which is rounded up to `2 ^ 63` and
read as itself again.

* `Document.variationValue?`: what the document of a flag has for the value of a variation.
* `Document.exists_variation`: a flag that is read has that value as a scalar.
* `Flag.serves_written_integer`: what a flag serves for a whole number, and what a codec reads.
-/

namespace FeatureFlags

/-! ### The numbers that are served -/

namespace Double

variable {i served : Int64}

theorem natAbs_toInt_le (i : Int64) : i.toInt.natAbs ≤ 2 ^ 63 :=
  natAbs_le_of_bounds (bounds_toInt i).1 (bounds_toInt i).2

theorem isFinite_ofInt_toInt (i : Int64) : (ofInt i.toInt).isFinite :=
  isFinite_ofInt ((natAbs_toInt_le i).trans (by decide))

/-- What a whole number is rounded to is read as some whole number. -/
theorem exists_readsAs_ofInt (i : Int64) : ∃ served, (ofInt i.toInt).ReadsAs served := by
  have finite := isFinite_ofInt_toInt i
  obtain ⟨whole, value, size⟩ := exists_units_ofInt (natAbs_toInt_le i)
  have isValue := toRat?_eq_intCast_iff.mpr ⟨finite, value⟩
  by_cases limit : whole = 2 ^ 63
  · refine ⟨Int64.maxValue, .inr ⟨?_, rfl⟩⟩
    rw [isValue, limit]
    norm_num
  · refine ⟨Int64.ofInt whole, .inl ?_⟩
    rw [Int64.toInt_ofInt_of_le (by omega) (by omega), isValue]

/-- A whole number that is a double is rounded to itself. -/
theorem toRat?_ofInt_iff :
    (ofInt i.toInt).toRat? = some (i.toInt : ℚ) ↔ ∃ d : Double, d.toRat? = some (i.toInt : ℚ) := by
  constructor
  · intro isValue
    exact ⟨_, isValue⟩
  · rintro ⟨d, isValue⟩
    obtain ⟨_, value⟩ := toRat?_eq_intCast_iff.mp isValue
    exact toRat?_eq_intCast_iff.mpr ⟨isFinite_ofInt_toInt i,
      units_ofInt_of_eq (natAbs_toInt_le i) value⟩

theorem toRat?_ofInt_maxValue : (ofInt Int64.maxValue.toInt).toRat? = some (2 ^ 63) :=
  toRat?_eq_two_pow_iff.mpr ⟨isFinite_ofInt_toInt _, units_ofInt_maxInteger⟩

/-- **A whole number is served as itself exactly if it is a double or the largest one.** -/
theorem served_eq_iff (isServed : (ofInt i.toInt).ReadsAs served) :
    served = i ↔ (∃ d : Double, d.toRat? = some (i.toInt : ℚ)) ∨ i = Int64.maxValue := by
  rw [← toRat?_ofInt_iff]
  rcases isServed with value | ⟨value, rfl⟩
  · rw [value, Option.some.injEq, Int.cast_inj, Int64.toInt_inj]
    constructor
    · exact .inl
    · rintro (same | rfl)
      · exact same
      · -- the largest number is rounded to `2 ^ 63`, which is no number of 64 bits
        rw [toRat?_ofInt_maxValue, Option.some.injEq] at value
        have above : ((2 ^ 63 : Int) : ℚ) = served.toInt := by rw [← value]; norm_num
        have below := served.toInt_lt
        rw [Int.cast_inj] at above
        omega
  · rw [value, Option.some.injEq]
    constructor
    · rintro rfl
      exact .inr rfl
    · rintro (same | rfl)
      · have above : ((2 ^ 63 : Int) : ℚ) = i.toInt := by rw [← same]; norm_num
        have below := i.toInt_lt
        rw [Int.cast_inj] at above
        omega
      · rfl

/-- Every whole number below `2 ^ 53` is a double. -/
theorem exists_toRat?_of_lt (small : i.toInt.natAbs < 2 ^ 53) :
    ∃ d : Double, d.toRat? = some (i.toInt : ℚ) :=
  ⟨_, toRat?_eq_intCast_iff.mpr
    ⟨isFinite_ofInt_toInt i, units_ofInt_of_lt small⟩⟩

end Double

/-! ### The values in a document -/

namespace Document

variable {α : Type} {level : Nat} {read : Nat → Document → Option α}

/-- A document itself, with how many containers lie around it. -/
def placed? (level : Nat) (document : Document) : Option (Nat × Document) := some (level, document)

/-- Members that are read are members, and each is read of the document that it is. -/
theorem exists_placed_members {members : List (Octets × Document)} {entries : List (String × α)}
    (found : members.mapM (readMember? level read) = some entries) :
    ∃ places, members.mapM (readMember? level placed?) = some places ∧
      (places.map fun entry => (entry.1, read entry.2.1 entry.2.2)) =
        entries.map fun entry => (entry.1, some entry.2) := by
  induction members generalizing entries with
  | nil =>
    cases found
    exact ⟨[], rfl, rfl⟩
  | cons member rest ih =>
    rw [List.mapM_cons] at found
    obtain ⟨first, isFirst, found⟩ := Option.bind_eq_some_iff.mp found
    obtain ⟨others, areOthers, same⟩ := Option.bind_eq_some_iff.mp found
    cases same
    obtain ⟨key, isKey, isFirst⟩ := Option.bind_eq_some_iff.mp isFirst
    obtain ⟨value, isValue, same⟩ := Option.bind_eq_some_iff.mp isFirst
    cases same
    obtain ⟨places, arePlaces, alike⟩ := ih areOthers
    refine ⟨(key, (level + 1, member.2)) :: places, ?_, ?_⟩
    · rw [List.mapM_cons, arePlaces, readMember?, isKey]
      rfl
    · rw [List.map_cons, List.map_cons, alike, isValue]

/-- **The value of a map at a key is read of the document at that key.** -/
theorem get?_of_readDict? {document : Document} {dict : Dict α}
    (found : document.readDict? level read = some dict) :
    ∃ places, document.readDict? level placed? = some places ∧ ∀ key,
      ((places.get? key).map fun place => read place.1 place.2) = (dict.get? key).map some := by
  cases document with
  | object members =>
    obtain ⟨inside, found⟩ := Option.ite_none_right_eq_some.mp found
    obtain ⟨entries, areEntries, same⟩ := Option.bind_eq_some_iff.mp found
    cases same
    obtain ⟨places, arePlaces, alike⟩ := exists_placed_members areEntries
    refine ⟨Dict.ofList places, ?_, fun key => ?_⟩
    · rw [readDict?, if_pos inside]
      exact Option.bind_eq_some_iff.mpr ⟨places, arePlaces, rfl⟩
    · rw [Dict.get?_ofList, Dict.get?_ofList, ← Dict.latest?_map_values, ← Dict.latest?_map_values]
      exact congrArg (Dict.latest? · key) alike
  | null | bool | number | string | array => cases found

/-- What the document of a flag has for the value of a variation. -/
def variationValue? (source : Document) (key : String) : Option Document := do
  let record ← source.readRecord? Flag.fieldNames 0
  let places ← record.require "variations" fun level => readDict? level placed?
  let (level, variation) ← places.get? key
  let record ← variation.readRecord? ["key", "value"] level
  record.fields.lookup "value"

/-- **A flag has the value of a variation as the scalar that it is written as.** -/
theorem exists_variation {source value : Document} {flag : Flag} {key : String}
    (isFlag : Flag.read? 0 source = some flag) (written : source.variationValue? key = some value) :
    ∃ variation, flag.variations.get? key = some variation ∧
      Scalar.read? value = some variation.value := by
  unfold Flag.read? at isFlag
  simp only [Option.bind_eq_bind, Option.bind_eq_some_iff, Option.pure_def,
    Option.some.injEq] at isFlag
  obtain ⟨record, isRecord, _, _, _, _, _, _, variations, areVariations, _, _, _, _, _, _, rfl⟩ :=
    isFlag
  obtain ⟨members, areMembers, areVariations⟩ := Option.bind_eq_some_iff.mp areVariations
  obtain ⟨places, arePlaces, lookups⟩ := get?_of_readDict? areVariations
  unfold variationValue? Record.require at written
  simp only [isRecord, areMembers, arePlaces, Option.bind_eq_bind, Option.bind_some,
    Option.bind_eq_some_iff] at written
  obtain ⟨⟨level, variation⟩, isPlace, inner, isInner, isValue⟩ := written
  have isRead := lookups key
  rw [isPlace] at isRead
  obtain ⟨found, isFound, isRead⟩ := Option.map_eq_some_iff.mp isRead.symm
  refine ⟨found, isFound, ?_⟩
  unfold Variation.read? at isRead
  simp only [isInner, Option.bind_eq_bind, Option.bind_some] at isRead
  obtain ⟨name, _, isRead⟩ := Option.bind_eq_some_iff.mp isRead.symm
  obtain ⟨scalar, isScalar, same⟩ := Option.bind_eq_some_iff.mp isRead
  cases same
  rwa [Record.require_of_lookup isValue] at isScalar

/-- The decimal text of a whole number is a document. -/
theorem read?_toString (number : Int) :
    Document.read? (octetsOf (toString number)) = some (.number (.ofWhole number)) := by
  refine read?_eq_some_iff.mpr (Json.padded_of_spells ?_)
  rw [NumberText.octetsOf_toString]
  exact NumberText.spelledBy_spell (NumberText.wellFormed_ofWhole number)

end Document

namespace Catalog

variable {catalog : Catalog} {flagKey key : String}

/-- The number that a document has for the value of a variation of a flag. -/
def literal? (catalog : Catalog) (flagKey key : String) : Option NumberText :=
  match catalog.flags.get? flagKey with
  | some (.document source) =>
    match source.variationValue? key with
    | some (.number text) => some text
    | _ => none
  | _ => none

theorem exists_variation {flag : Flag} {text : NumberText}
    (decoded : catalog.flag? flagKey = some (.ok flag))
    (literal : catalog.literal? flagKey key = some text) :
    ∃ variation, flag.variations.get? key = some variation ∧
      Scalar.read? (.number text) = some variation.value := by
  unfold literal? at literal
  split at literal
  · rename_i source written
    split at literal
    · rename_i found isValue
      cases literal
      rw [flag?, written, Option.map_some, Option.some.injEq, RawFlag.decode] at decoded
      cases isFlag : Flag.read? 0 source with
      | none => simp [isFlag] at decoded
      | some other =>
        rw [isFlag] at decoded
        cases decoded
        exact Document.exists_variation isFlag isValue
    · cases literal
  · cases literal

end Catalog

theorem NumberText.read?_toInt (i : Int64) :
    (NumberText.ofWhole i.toInt).read? = some (.whole i.toInt) := by
  obtain ⟨least, most⟩ := Double.bounds_toInt i
  unfold Double.minInteger at least
  unfold Double.maxInteger at most
  exact NumberText.read?_ofWhole least (by omega)

/-! ### The two kinds of configuration -/

namespace Flag

variable {i : Int64} {catalog : Catalog} {key : String} {flag : Flag} {visit : Visit}
  {allocation : Allocation} {split : Split}

/-- An enabled flag with whole numbers for values serves what its scalar is read as. -/
theorem exists_served (enabled : flag.enabled) (type : flag.variationType = .integer)
    (chosen : flag.choice? visit = some (allocation, split)) {variation : Variation} {d : Double}
    (present : flag.variations.get? split.variationKey = some variation)
    (isNumber : variation.value = .number d) {served : Int64} (isServed : d.ReadsAs served) :
    ∃ evaluation, flag.evaluate visit = .ok evaluation ∧ evaluation.value = .integer served := by
  have converted : variation.value.toValue? flag.variationType = some (.integer served) := by
    rw [isNumber, type, Double.toValue?_integer, Double.whole?_eq_some_iff.mpr isServed]
    rfl
  unfold evaluate
  simp only [enabled, chosen, present, converted]
  exact ⟨_, rfl, rfl⟩

/-- **A whole number that a flag is written with is served as the double nearest to it**, while a
codec reads the same literal, its text and its text in quotes as the number itself.

The flag always serves some whole number, and it serves the one that is written exactly if that is a
double or the largest one, in particular below `2 ^ 53`. -/
theorem serves_written_integer (decoded : catalog.flag? key = some (.ok flag))
    (enabled : flag.enabled) (type : flag.variationType = .integer)
    (chosen : flag.choice? visit = some (allocation, split))
    (literal : catalog.literal? key split.variationKey = some (.ofWhole i.toInt)) :
    Document.read? (octetsOf (toString i.toInt)) = some (.number (.ofWhole i.toInt)) ∧
    (∃ evaluation served, flag.evaluate visit = .ok evaluation ∧
      evaluation.value = .integer served ∧
      (Double.ofInt i.toInt).IsNearest i.toInt ∧ (Double.ofInt i.toInt).ReadsAs served ∧
      (served = i ↔ (∃ d : Double, d.toRat? = some (i.toInt : ℚ)) ∨ i = Int64.maxValue) ∧
      (i.toInt.natAbs < 2 ^ 53 → served = i)) ∧
    ∀ codec : Codec,
      (∀ level, ((Document.number (.ofWhole i.toInt)).toJson? level).bind
        (codec.decodeValue? .integer) = some (.integer i)) ∧
      codec.decodeValue? .integer (.string (toString i.toInt)) = some (.integer i) ∧
      codec.decodeValue? .integer (.string ("\"" ++ toString i.toInt ++ "\"")) =
        some (.integer i) := by
  have isNumber := NumberText.read?_toInt i
  obtain ⟨variation, present, isScalar⟩ := Catalog.exists_variation decoded literal
  obtain ⟨served, isServed⟩ := Double.exists_readsAs_ofInt i
  refine ⟨Document.read?_toString _, ?_, fun codec => ?_⟩
  · have scalar : variation.value = .number (Double.ofInt i.toInt) := by
      rw [Scalar.read?, isNumber] at isScalar
      exact (Option.some.inj isScalar).symm
    obtain ⟨evaluation, isEvaluation, value⟩ :=
      exists_served enabled type chosen present scalar isServed
    have same := Double.served_eq_iff isServed
    exact ⟨evaluation, served, isEvaluation, value,
      Double.isNearest_ofInt (Double.natAbs_toInt_le i), isServed, same,
      fun small => same.mpr (.inl (Double.exists_toRat?_of_lt small))⟩
  · obtain ⟨number, text, quoted⟩ := codec.decodeValue?_integer i
    refine ⟨fun level => ?_, text, quoted⟩
    rw [Document.toJson?, Document.toJsonWith?, isNumber]
    exact number

/-- The text of a configuration with a flag that serves everyone a whole number, which is written in
decimal digits. -/
def limitText (digits : String) : String :=
  "\x7b\"flags\":\x7b\"limit\":\x7b\"key\":\"limit\",\"enabled\":true," ++
    "\"variationType\":\"INTEGER\",\"variations\":\x7b\"on\":\x7b\"key\":\"on\",\"value\":" ++
    digits ++ "\x7d\x7d,\"allocations\":[\x7b\"key\":\"everyone\"," ++
    "\"splits\":[\x7b\"variationKey\":\"on\"\x7d]\x7d],\"totalShards\":10000\x7d\x7d\x7d"

/-- The flag of that text, with the number that its digits are rounded to. -/
def limit (value : Double) : Flag where
  key := "limit"
  enabled := true
  variationType := .integer
  variations := ⟨[("on", ⟨"on", .number value⟩)], List.pairwise_singleton _ _⟩
  allocations := [⟨"everyone", [], none, none, [anybody], true⟩]
  totalShards := 10000
  entityId := none

/-- The catalog of that text. -/
def limitCatalog? (digits : String) : Option Catalog :=
  (Catalog.ofOctets .json (octetsOf (limitText digits))).toOption

/-- A flag that is written with the number 7 serves it. -/
theorem serves_written_integer_limit : ∃ catalog ∈ limitCatalog? "7", ∃ evaluation,
    catalog.flag? "limit" = some (.ok (limit (.ofInt 7))) ∧
      catalog.literal? "limit" "on" = some (.ofWhole 7) ∧
      (limit (.ofInt 7)).evaluate earlyVisit = .ok evaluation ∧ evaluation.value = .integer 7 := by
  obtain ⟨catalog, isCatalog, decoded, literal⟩ : ∃ catalog ∈ limitCatalog? "7",
      catalog.flag? "limit" = some (.ok (limit (.ofInt 7))) ∧
        catalog.literal? "limit" "on" = some (.ofWhole 7) := by decide +kernel
  have chosen : (limit (.ofInt 7)).choice? earlyVisit =
      some (⟨"everyone", [], none, none, [anybody], true⟩, anybody) := by decide +kernel
  obtain ⟨_, ⟨evaluation, served, isEvaluation, value, _, _, _, same⟩, _⟩ :=
    serves_written_integer (i := 7) decoded rfl rfl chosen literal
  rw [same (by decide)] at value
  exact ⟨catalog, isCatalog, evaluation, decoded, literal, isEvaluation, value⟩

/-- What the flag of that text serves. -/
def servedLimit? (digits : String) : Option Value := do
  let catalog ← limitCatalog? digits
  let flag ← (← catalog.flag? "limit").toOption
  let evaluation ← (flag.evaluate earlyVisit).toOption
  return evaluation.value

/-- A flag that is written with `2 ^ 53 + 1` serves `2 ^ 53`. -/
theorem limit_differs_from_literal : ¬ ∀ i : Int64,
    servedLimit? (toString i.toInt) = some (.integer i) := by
  intro same
  exact absurd (same 9007199254740993) (by decide +kernel)

end Flag

end FeatureFlags
