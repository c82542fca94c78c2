import FeatureFlags.Proofs.Json.Forms
import FeatureFlags.Proofs.Precomputed.Bootstrapping
import FeatureFlags.Proofs.Precomputed.Restoring

/-!
**Flags are read back from their JSON form.**

Each part of a flag is a record that is written with all of its fields, a list or a map, so it is
restored if its parts are. What is left are texts, truth values, whole numbers and instants, which
are always restored, and doubles, which are if they are read as they are written.

* `Flag.IsKept`: each double of a flag is read as it is written.
* `Condition.restores`, `Split.restores`, `Allocation.restores`: the parts of a flag.
* `Flag.restores`: every form of a flag is read as the flag.
-/

namespace FeatureFlags

open Document

/-! ### Numbers -/

namespace Json

variable {α : Type} {read : Document → Option α} {value : Json} {content : α}

theorem restores_word (word : UInt32) : (Json.int word.toNat).Restores readWord? word :=
  restores_of_alone (fun _ same => same) (PrecomputedEnvelope.readWord?_document word)

theorem restores_integer (value : Int64) : (Json.int value.toInt).Restores readInteger? value :=
  restores_of_alone (fun _ same => same) (Document.readInteger?_document value)

/-- What is restored, and is not null, is restored where it might have been null. -/
theorem Restores.nullable (restored : value.Restores read content)
    (notNull : read .null = none) : value.Restores (readNullable? read) (some content) := by
  intro form isForm
  have found := restored form isForm
  cases isDocument : form.document with
  | null =>
    rw [isDocument, notNull] at found
    cases found
  | bool | number | string | array | object =>
    rw [isDocument] at found
    simp only [readNullable?, found, Option.map_some]

end Json

/-! ### Scalars -/

/-- Whether a scalar is read as it is written; only a number may not be. -/
def Scalar.isKept : Scalar → Bool
  | number value => value.isKept
  | _ => true

theorem Scalar.read?_document {value : Scalar} (kept : value.isKept) :
    read? value.toJson.document = some value := by
  cases value with
  | boolean value => rfl
  | string value => simp [toJson, Json.document, read?, stringText?_escaped]
  | number value =>
    have found := readDouble?_document value |>.mpr kept
    rw [toJson]
    rcases document_double value with null | ⟨text, isNumber, _⟩
    · rw [null] at found
      cases found
    · rw [isNumber] at found ⊢
      obtain ⟨number, isRead, same⟩ := Option.map_eq_some_iff.mp found
      have isRead : text.read? = some number := isRead
      rw [read?, isRead, Option.map_some, same]

theorem Scalar.restores {value : Scalar} (kept : value.isKept) :
    value.toJson.Restores Scalar.read? value := by
  refine Json.restores_of_alone (fun form isForm => ?_) (read?_document kept)
  cases value with
  | boolean value => exact isForm
  | number value => exact isForm
  | string value => exact isForm

/-! ### Targeting -/

/-- Whether what an attribute is compared with is read as it is written. -/
def ConditionValue.isKept : ConditionValue → Bool
  | single value => value.isKept
  | multiple _ => true

variable {level : Nat}

theorem ConditionValue.restores {value : ConditionValue} (kept : value.isKept)
    (inside : level < nestingLimit) : value.toJson.Restores (ConditionValue.read? level) value := by
  intro form isForm
  cases value with
  | single value =>
    rw [read?, Scalar.restores kept form isForm]
  | multiple values =>
    have listed : readList? level (fun _ => readString?) form.document = some values :=
      Json.restores_list inside (fun text _ => Json.restores_string text) form isForm
    obtain ⟨others, rfl, _⟩ := isForm
    rw [read?, show Scalar.read? (Json.array others).document = none from rfl, listed]
    rfl

theorem Operator.ofName_name (operator : Operator) : ofName operator.name = operator := by
  cases operator <;> decide

theorem Condition.restores {condition : Condition} (kept : condition.value.isKept)
    (inside : level + 1 < nestingLimit) :
    condition.toJson.Restores (Condition.read? level) condition := by
  intro form isForm
  obtain ⟨record, isRecord, holds⟩ : ∃ record,
      form.document.readRecord? ["operator", "attribute", "value"] level = some record ∧
        record.Holds (level + 1) _ :=
    Json.exists_record_of_hasForm (by omega) (by simp) (by simp) isForm
  have operator : record.require "operator" (fun _ => readString?) =
      some condition.operator.name := holds.require (by simp) (Json.restores_string _)
  have attributeName : record.require "attribute" (fun _ => readString?) =
      some condition.attributeName := holds.require (by simp) (Json.restores_string _)
  have value : record.require "value" ConditionValue.read? = some condition.value :=
    holds.require (by simp) (ConditionValue.restores kept inside)
  rw [Condition.read?, isRecord]
  simp only [Option.bind_eq_bind, Option.bind_some, operator, attributeName, value,
    Operator.ofName_name, Option.pure_def]

theorem Rule.restores {rule : Rule} (kept : ∀ condition ∈ rule.conditions, condition.value.isKept)
    (inside : level + 3 < nestingLimit) : rule.toJson.Restores (Rule.read? level) rule := by
  intro form isForm
  obtain ⟨record, isRecord, holds⟩ : ∃ record,
      form.document.readRecord? ["conditions"] level = some record ∧ record.Holds (level + 1) _ :=
    Json.exists_record_of_hasForm (by omega) (by simp) (by simp) isForm
  have conditions : record.require "conditions" (fun level => readList? level Condition.read?) =
      some rule.conditions :=
    holds.require (by simp) (Json.restores_list (by omega) fun condition member =>
      Condition.restores (kept condition member) (by omega))
  rw [Rule.read?, isRecord]
  simp only [Option.bind_eq_bind, Option.bind_some, conditions, Option.pure_def]

/-! ### Serving -/

theorem ShardRange.restores {range : ShardRange} (inside : level < nestingLimit) :
    range.toJson.Restores (ShardRange.read? level) range := by
  intro form isForm
  obtain ⟨record, isRecord, holds⟩ : ∃ record,
      form.document.readRecord? ["start", "end"] level = some record ∧
        record.Holds (level + 1) _ :=
    Json.exists_record_of_hasForm inside (by simp) (by simp) isForm
  have start : record.require "start" (fun _ => readWord?) = some range.start :=
    holds.require (by simp) (Json.restores_word _)
  have stop : record.require "end" (fun _ => readWord?) = some range.stop :=
    holds.require (by simp) (Json.restores_word _)
  rw [ShardRange.read?, isRecord]
  simp only [Option.bind_eq_bind, Option.bind_some, start, stop, Option.pure_def]

theorem Shard.restores {shard : Shard} (inside : level + 2 < nestingLimit) :
    shard.toJson.Restores (Shard.read? level) shard := by
  intro form isForm
  obtain ⟨record, isRecord, holds⟩ : ∃ record,
      form.document.readRecord? ["salt", "ranges"] level = some record ∧
        record.Holds (level + 1) _ :=
    Json.exists_record_of_hasForm (by omega) (by simp) (by simp) isForm
  have salt : record.require "salt" (fun _ => readString?) = some shard.salt :=
    holds.require (by simp) (Json.restores_string _)
  have ranges : record.require "ranges" (fun level => readList? level ShardRange.read?) =
      some shard.ranges :=
    holds.require (by simp) (Json.restores_list (by omega) fun _ _ =>
      ShardRange.restores (by omega))
  rw [Shard.read?, isRecord]
  simp only [Option.bind_eq_bind, Option.bind_some, salt, ranges, Option.pure_def]

theorem Split.restores {split : Split} (inside : level + 4 < nestingLimit) :
    split.toJson.Restores (Split.read? level) split := by
  intro form isForm
  obtain ⟨record, isRecord, holds⟩ : ∃ record,
      form.document.readRecord? ["shards", "variationKey", "extraLogging"] level = some record ∧
        record.Holds (level + 1) _ :=
    Json.exists_record_of_hasForm (by omega) (by simp) (by simp) isForm
  have shards : record.optional "shards" [] (fun level => readList? level Shard.read?) =
      some split.shards :=
    holds.optional _ (by simp) (Json.restores_list (by omega) fun _ _ =>
      Shard.restores (by omega))
  have variationKey : record.require "variationKey" (fun _ => readString?) =
      some split.variationKey := holds.require (by simp) (Json.restores_string _)
  have extraLogging : record.optional "extraLogging" Dict.empty
      (fun level => readDict? level fun _ => readString?) = some split.extraLogging :=
    holds.optional _ (by simp) (Json.restores_dict (by omega) fun _ _ => Json.restores_string _)
  rw [Split.read?, isRecord]
  simp only [Option.bind_eq_bind, Option.bind_some, shards, variationKey, extraLogging,
    Option.pure_def]

/-! ### Allocations and variations -/

/-- **Each double of an allocation is read as it is written**, and its instants are on the
calendar. -/
structure Allocation.IsKept (allocation : Allocation) : Prop where
  conditions : ∀ rule ∈ allocation.rules, ∀ condition ∈ rule.conditions, condition.value.isKept
  starts : ∀ instant ∈ allocation.startAt, instant.IsValid
  ends : ∀ instant ∈ allocation.endAt, instant.IsValid

theorem Allocation.restores {allocation : Allocation} (kept : allocation.IsKept)
    (inside : level + 6 < nestingLimit) :
    allocation.toJson.Restores (Allocation.read? level) allocation := by
  intro form isForm
  obtain ⟨record, isRecord, holds⟩ : ∃ record,
      form.document.readRecord? ["key", "rules", "startAt", "endAt", "splits", "doLog"] level =
        some record ∧ record.Holds (level + 1) _ :=
    Json.exists_record_of_hasForm (by omega) (by simp) (by simp) isForm
  have key : record.require "key" (fun _ => readString?) = some allocation.key :=
    holds.require (by simp) (Json.restores_string _)
  have rules : record.optional "rules" [] (fun level => readList? level Rule.read?) =
      some allocation.rules :=
    holds.optional _ (by simp) (Json.restores_list (by omega) fun rule member =>
      Rule.restores (kept.conditions rule member) (by omega))
  have startAt : record.nullable "startAt" (fun _ => Instant.read?) = some allocation.startAt :=
    holds.nullable (by simp) (Json.restores_instant? kept.starts)
  have endAt : record.nullable "endAt" (fun _ => Instant.read?) = some allocation.endAt :=
    holds.nullable (by simp) (Json.restores_instant? kept.ends)
  have splits : record.require "splits" (fun level => readList? level Split.read?) =
      some allocation.splits :=
    holds.require (by simp) (Json.restores_list (by omega) fun _ _ => Split.restores (by omega))
  have doLog : record.optional "doLog" true (fun _ => readBool?) = some allocation.doLog :=
    holds.optional _ (by simp) (Json.restores_bool _)
  rw [Allocation.read?, isRecord]
  simp only [Option.bind_eq_bind, Option.bind_some, key, rules, startAt, endAt, splits, doLog,
    Option.pure_def]

theorem Variation.restores {variation : Variation} (kept : variation.value.isKept)
    (inside : level < nestingLimit) :
    variation.toJson.Restores (Variation.read? level) variation := by
  intro form isForm
  obtain ⟨record, isRecord, holds⟩ : ∃ record,
      form.document.readRecord? ["key", "value"] level = some record ∧
        record.Holds (level + 1) _ :=
    Json.exists_record_of_hasForm inside (by simp) (by simp) isForm
  have key : record.require "key" (fun _ => readString?) = some variation.key :=
    holds.require (by simp) (Json.restores_string _)
  have value : record.require "value" (fun _ => Scalar.read?) = some variation.value :=
    holds.require (by simp) (Scalar.restores kept)
  rw [Variation.read?, isRecord]
  simp only [Option.bind_eq_bind, Option.bind_some, key, value, Option.pure_def]

/-! ### Flags -/

theorem VariationType.restores (type : VariationType) :
    (Json.string type.name).Restores (VariationType.read? level) type :=
  Json.restores_of_alone (fun _ same => same) (VariationType.read?_document level type)

namespace Flag

/-- **Each double of a flag is read as it is written**, and its instants are on the calendar. -/
structure IsKept (flag : Flag) : Prop where
  variations : ∀ entry ∈ flag.variations.entries, entry.2.value.isKept
  allocations : ∀ allocation ∈ flag.allocations, allocation.IsKept

variable {flag : Flag}

/-- **Every form of a flag is read as the flag.** -/
theorem restores (kept : flag.IsKept) (inside : level + 8 < nestingLimit) :
    flag.toJson.Restores (read? level) flag := by
  intro form isForm
  obtain ⟨record, isRecord, holds⟩ : ∃ record,
      form.document.readRecord? fieldNames level = some record ∧ record.Holds (level + 1) _ := by
    refine Json.exists_record_of_hasForm (by omega) ?_ ?_ isForm
    · cases flag.entityId <;> simp [fieldNames]
    · cases flag.entityId <;> simp
  have key : record.require "key" (fun _ => readString?) = some flag.key :=
    holds.require (by simp) (Json.restores_string _)
  have enabled : record.require "enabled" (fun _ => readBool?) = some flag.enabled :=
    holds.require (by simp) (Json.restores_bool _)
  have variationType : record.require "variationType" VariationType.read? =
      some flag.variationType :=
    holds.require (by simp) (VariationType.restores _)
  have variations : record.require "variations" (fun level => readDict? level Variation.read?) =
      some flag.variations :=
    holds.require (by simp) (Json.restores_dict (by omega) fun entry member =>
      Variation.restores (kept.variations entry member) (by omega))
  have allocations : record.require "allocations" (fun level => readList? level Allocation.read?) =
      some flag.allocations :=
    holds.require (by simp) (Json.restores_list (by omega) fun allocation member =>
      Allocation.restores (kept.allocations allocation member) (by omega))
  have totalShards : record.require "totalShards" (fun _ => readWord?) = some flag.totalShards :=
    holds.require (by simp) (Json.restores_word _)
  have entityId : record.nullable "entityId" (fun _ => readInteger?) = some flag.entityId := by
    cases isId : flag.entityId with
    | none => exact holds.nullable_of_absent (by simp [isId]) _
    | some id =>
      exact holds.nullable (by simp [isId]) ((Json.restores_integer id).nullable rfl)
  rw [read?, isRecord]
  simp only [Option.bind_eq_bind, Option.bind_some, key, enabled, variationType, variations,
    allocations, totalShards, entityId, Option.pure_def]

end Flag

end FeatureFlags
