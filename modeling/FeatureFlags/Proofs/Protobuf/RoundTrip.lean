import FeatureFlags.Proofs.Flag.Listed
import FeatureFlags.Proofs.Protobuf.Record

/-!
**A protobuf message holds the flags that it was made of.**

The record of a listed flag makes what the flag carries, and every record is read back from its
octets. So a message holds the flags in whatever order their maps were listed.

* `FlagRecord.toFlag_ofListed`: from a listed flag to a record and back.
* `accepts_encodeProtobuf`, `carries_encodeProtobuf`: when a message is accepted, and what it gives
  back.
* `encodeProtobuf_decodes`: from flags to octets and back.
-/

namespace FeatureFlags

/-! ### Records of parts of flags -/

theorem Operator.ofWireId_wireId (operator : Operator) :
    Operator.ofWireId (Int32.ofInt operator.wireId).toInt = operator := by
  cases operator <;> rfl

theorem VariationType.ofWire_wireId (type : VariationType) :
    VariationType.ofWire (Int32.ofInt type.wireId).toInt = .ok type := by
  cases type <;> rfl

theorem ConditionRecord.toCondition_ofCondition (condition : Condition) :
    (ConditionRecord.ofCondition condition).toCondition = .ok condition := by
  obtain ⟨operator, attributeName, value⟩ := condition
  have same := operator.ofWireId_wireId
  cases value with
  | single value =>
    show Except.ok (Condition.mk (.ofWireId (Int32.ofInt operator.wireId).toInt) attributeName
      (.single value)) = _
    rw [same]
  | multiple values =>
    show Except.ok (Condition.mk (.ofWireId (Int32.ofInt operator.wireId).toInt) attributeName
      (.multiple values)) = _
    rw [same]

theorem AllocationRecord.toAllocation_ofListed (listed : ListedAllocation) :
    (AllocationRecord.ofListed listed).toAllocation = listed.carried := by
  have conditions : ∀ rule : Rule, (rule.conditions.map ConditionRecord.ofCondition).mapM
      ConditionRecord.toCondition = .ok rule.conditions := fun rule =>
    List.mapM_map_eq_self fun condition _ => ConditionRecord.toCondition_ofCondition condition
  have rules : (listed.rules.map fun rule => rule.conditions.map
      ConditionRecord.ofCondition).mapM (fun conditions =>
        (conditions.mapM ConditionRecord.toCondition).map Rule.mk) = .ok listed.rules := by
    refine List.mapM_map_eq_self fun rule _ => ?_
    rw [conditions rule]
    rfl
  rw [toAllocation, ofListed, rules]
  rfl

/-! ### Records of flags -/

/-- **The record of a listed flag makes what the flag carries.** -/
theorem FlagRecord.toFlag_ofListed (listed : ListedFlag) :
    (FlagRecord.ofListed listed).toFlag = listed.carried := by
  have variations : (listed.variations.map VariationRecord.ofVariation).mapM
      VariationRecord.toVariation = .ok listed.variations :=
    List.mapM_map_eq_self fun variation _ => rfl
  have allocations : (listed.allocations.map AllocationRecord.ofListed).mapM
      AllocationRecord.toAllocation = listed.allocations.mapM ListedAllocation.carried := by
    rw [List.mapM_map]
    exact congrArg (listed.allocations.mapM ·) (funext AllocationRecord.toAllocation_ofListed)
  rw [toFlag, ofListed, VariationType.ofWire_wireId]
  show ((listed.variations.map VariationRecord.ofVariation).mapM
    VariationRecord.toVariation).bind _ = _
  rw [variations]
  show ((listed.allocations.map AllocationRecord.ofListed).mapM
    AllocationRecord.toAllocation).bind _ = _
  rw [allocations]
  rfl

/-! ### Configurations -/

section Encoded

variable {createdAt : Option Instant} {environment : Option String}
variable {listings : List ListedFlag} {flags : List Flag}

/-- The catalog that a message holds, if its time can be read. -/
theorem ofOctets_encodeProtobuf
    (short : (encodeProtobuf createdAt environment listings).length < 2 ^ 64) :
    Catalog.ofOctets .protobuf (encodeProtobuf createdAt environment listings) =
      (optionalInstant (createdAt.map Instant.toWireMillis)).map fun made =>
        ⟨.protobuf, encodeProtobuf createdAt environment listings, made, environment,
          Dict.ofList ((listings.map FlagRecord.ofListed).map fun flag =>
            (flag.key, .record flag))⟩ := by
  rw [Catalog.ofOctets, Catalog.ofProtobuf, encodeProtobuf, ConfigRecord.ofOctets?_toOctets short]
  show (optionalInstant (createdAt.map Instant.toWireMillis)).bind _ = _
  cases optionalInstant (createdAt.map Instant.toWireMillis) <;> rfl

/-- **A message is accepted exactly if its time can be read.** -/
theorem accepts_encodeProtobuf
    (short : (encodeProtobuf createdAt environment listings).length < 2 ^ 64) :
    (∃ catalog, Catalog.ofOctets .protobuf (encodeProtobuf createdAt environment listings) =
      .ok catalog) ↔ ∃ made, optionalInstant (createdAt.map Instant.toWireMillis) = .ok made := by
  rw [ofOctets_encodeProtobuf short, Except.exists_map_eq_ok]

/-- **A message that is accepted gives back what is listed.** -/
theorem carries_encodeProtobuf
    (short : (encodeProtobuf createdAt environment listings).length < 2 ^ 64) {catalog : Catalog}
    (accepted : Catalog.ofOctets .protobuf (encodeProtobuf createdAt environment listings) =
      .ok catalog) : catalog.Carries createdAt environment listings := by
  rw [ofOctets_encodeProtobuf short] at accepted
  obtain ⟨made, created, rfl⟩ := Except.exists_of_map_eq_ok accepted
  refine .of_entries rfl created rfl ?_
  rw [List.map_map, List.map_map]
  refine List.map_congr_left fun listed _ => ?_
  show (listed.key, (FlagRecord.ofListed listed).toFlag) = (listed.key, listed.carried)
  rw [FlagRecord.toFlag_ofListed]

/-- **Protobuf decoding undoes protobuf encoding**, whatever the order in which the maps of the
flags are listed, up to the normal form of flags: it goes by the last flag with each key, and a flag
in normal form comes back as it is. The octets must be few enough to be counted with 64 bits. -/
theorem encodeProtobuf_decodes (listed : List.Forall₂ ListedFlag.Lists listings flags)
    (created : ∀ instant ∈ createdAt, instant.OnWire)
    (encodable : ∀ flag ∈ flags, flag.Encodable)
    (short : (encodeProtobuf createdAt environment listings).length < 2 ^ 64) :
    (∃ catalog, Catalog.ofOctets .protobuf (encodeProtobuf createdAt environment listings) =
      .ok catalog ∧ catalog.Holds createdAt environment flags) ∧
    (∀ flag ∈ flags, ∀ key variation, flag.normal.variations.get? key = some variation ↔
      variation ∈ flag.variations.values ∧ variation.key = key) ∧
    ∀ flag ∈ flags, flag.IsNormal → flag.normal = flag := by
  refine ⟨?_, fun flag inside => Flag.get?_normal (encodable flag inside),
    fun _ _ normal => Flag.normal_eq_self normal⟩
  obtain ⟨catalog, accepted⟩ :=
    (accepts_encodeProtobuf short).2 ⟨_, optionalInstant_toWireMillis created⟩
  exact ⟨catalog, accepted,
    (carries_encodeProtobuf short accepted).holds listed created encodable⟩

end Encoded

theorem encodeProtobuf_decodes_sample :
    [ListedFlag.sample] ≠ [Flag.sample.listed] ∧
    ∃ catalog, Catalog.ofOctets .protobuf
        (encodeProtobuf (some ⟨1700000000, 5⟩) (some "Production") [ListedFlag.sample]) =
      .ok catalog ∧ catalog.Holds (some ⟨1700000000, 5⟩) (some "Production") [Flag.sample] :=
  ⟨by decide, (encodeProtobuf_decodes (.cons ListedFlag.sample_lists .nil) (by decide)
    (by simpa using Flag.sample_encodable) (by decide +kernel)).1⟩

end FeatureFlags
