import FeatureFlags.Proofs.Dict
import FeatureFlags.Proofs.Protobuf.Pieces

/-!
**Every record is read back from the octets it is written to.**

There is one fact for each message, from the inside to the outside. A message is read back whatever
it holds, at any depth, if it takes fewer than `2 ^ 64` octets; whatever a message holds is shorter
than the message.

* `ConditionRecord.read?_fields`, `AllocationRecord.read?_fields`, `FlagRecord.read?_fields`: the
  messages of a flag.
* `ConfigRecord.ofOctets?_toOctets`: a configuration.
-/

namespace FeatureFlags

open Wire

/-! ### Single values -/

theorem readsBack_text : ReadsBack textField Payload.text? := fun _ value =>
  text?_octetsOf value

theorem readsBack_bool : ReadsBack boolField Payload.bool? := fun _ value => by
  cases value <;> rfl

theorem readsBack_int64 : ReadsBack int64Field Payload.int64? := fun _ value => by
  simp [int64Field, Payload.int64?]

theorem readsBack_word : ReadsBack wordField Payload.word? := fun _ value => by
  simp [wordField, Payload.word?]

/-- The sign of 32 bits is carried into 64 bits, and dropping the upper half takes it back. -/
theorem readsBack_int32 : ReadsBack int32Field Payload.int32? := fun _ value => by
  have narrow : (UInt32.ofNat value.toInt64.toUInt64.toNat).toInt32 = value.toInt64.toInt32 := by
    refine Int32.toBitVec.inj ?_
    rw [Int64.toBitVec_toInt32, BitVec.signExtend_eq_setWidth_of_le _ (by decide)]
    refine BitVec.eq_of_toNat_eq ?_
    simp
  show some (UInt32.ofNat value.toInt64.toUInt64.toNat).toInt32 = some value
  rw [narrow, Int32.toInt32_toInt64]

/-! ### Scalars and what attributes are compared with -/

theorem writable_scalarFields (value : Option Scalar) : Writable (scalarFields value) := by
  intro item member
  match value with
  | none => cases member
  | some (.boolean value) =>
    rw [List.mem_singleton.1 member]
    exact sure_bool 1 value (by decide) (by decide)
  | some (.number value) =>
    rw [List.mem_singleton.1 member]
    exact ⟨by simp, by simp, value.bits.toNat_lt⟩
  | some (.string text) =>
    rw [List.mem_singleton.1 member]
    exact sure_text 3 text (by decide) (by decide)

theorem readScalar?_scalarFields (value : Option Scalar) :
    readScalar? (scalarFields value) = some value := by
  match value with
  | none => rfl
  | some (.boolean value) => cases value <;> rfl
  | some (.number value) =>
    show some (some (Scalar.number ⟨UInt64.ofNat value.bits.toNat⟩)) = _
    rw [UInt64.ofNat_toNat]
  | some (.string text) =>
    show (([textField 3 text].mapM readScalarField?).map List.getLast?) = _
    have read : readScalarField? (textField 3 text) = some (.string text) := by
      show (Payload.text? (.delimited (octetsOf text))).map Scalar.string = _
      rw [show Payload.text? (.delimited (octetsOf text)) = some text from readsBack_text 3 text]
      rfl
    rw [List.mapM_cons, read]
    rfl

theorem writable_contentFields (content : ConditionContent) : Writable (contentFields content) := by
  intro item member
  cases content with
  | single value =>
    rw [List.mem_singleton.1 member]
    exact sure_message 1 _ (by decide) (by decide)
  | multiple values =>
    rw [List.mem_singleton.1 member]
    exact sure_message 2 _ (by decide) (by decide)

theorem readContent?_contentFields (depth : Nat) {content : ConditionContent}
    (short : (writeFields (contentFields content)).length < 2 ^ 64) :
    readContent? depth (contentFields content) = some (some content) := by
  cases content with
  | single value =>
    have inner := fields?_writeFields (depth + 1) (writable_scalarFields value)
      (Nat.lt_of_le_of_lt (length_message_le (List.mem_singleton_self _)) short)
    have read : readContentField? (depth + 1) (messageField 1 (scalarFields value)) =
        some (.single (scalarFields value)) := by
      rw [readContentField?, messageField, inner]
      show (readScalar? (scalarFields value)).bind _ = _
      rw [readScalar?_scalarFields]
      rfl
    have parts : ([messageField 1 (scalarFields value)].mapM (readContentField? (depth + 1))) =
        some [.single (scalarFields value)] := by
      rw [List.mapM_cons, read]
      rfl
    show (([messageField 1 (scalarFields value)].mapM (readContentField? (depth + 1))).bind _) = _
    rw [parts]
    show (readScalar? (scalarFields value)).bind _ = _
    rw [readScalar?_scalarFields]
    rfl
  | multiple values =>
    have writable : Writable (values.map (textField 1)) :=
      writable_map sure_text values id (by decide) (by decide)
    have inner := fields?_writeFields (depth + 1) writable
      (Nat.lt_of_le_of_lt (length_message_le (List.mem_singleton_self _)) short)
    have texts : occurrences (values.map (textField 1)) 1 Payload.text? = some values :=
      occurrences_eq readsBack_text (filter_map_field numbered_text values id 1 1)
    have read : readContentField? (depth + 1) (messageField 2 (values.map (textField 1))) =
        some (.multiple values) := by
      rw [readContentField?, messageField, inner]
      show (occurrences (values.map (textField 1)) 1 Payload.text?).bind _ = _
      rw [texts]
      rfl
    have parts : ([messageField 2 (values.map (textField 1))].mapM
        (readContentField? (depth + 1))) = some [.multiple values] := by
      rw [List.mapM_cons, read]
      rfl
    show (([messageField 2 (values.map (textField 1))].mapM
      (readContentField? (depth + 1))).bind _) = _
    rw [parts]
    rfl

/-! ### Conditions and rules -/

theorem ConditionRecord.writable (record : ConditionRecord) : Writable record.fields := by
  simp [ConditionRecord.fields, writable_otherThan, writable_whenSome]

theorem ConditionRecord.read?_fields (depth : Nat) {record : ConditionRecord}
    (short : (writeFields record.fields).length < 2 ^ 64) :
    ConditionRecord.read? depth (.delimited (writeFields record.fields)) = some record := by
  have fields := fields?_writeFields depth record.writable short
  have name : lastOr "" record.fields 1 Payload.text? = some record.attributeName :=
    lastOr_eq readsBack_text
      (by simp [ConditionRecord.fields, filter_otherThan, filter_whenSome])
  have operator : lastOr 0 record.fields 2 Payload.int32? = some record.operatorId :=
    lastOr_eq readsBack_int32
      (by simp [ConditionRecord.fields, filter_otherThan, filter_whenSome])
  have here : record.fields.filter (fun item => item.number == 3) =
      whenSome messageField 3 (record.content.map contentFields) := by
    simp [ConditionRecord.fields, filter_otherThan, filter_whenSome]
  have content : joined? (depth + 1) record.fields 3 =
      some (record.content.map contentFields) := by
    refine joined?_eq (depth + 1) here (fun inner same => ?_) short
    obtain ⟨content, _, rfl⟩ := Option.map_eq_some_iff.1 same
    exact writable_contentFields content
  have comparison : readContent? (depth + 1) ((record.content.map contentFields).getD []) =
      some record.content := by
    cases present : record.content with
    | none => rfl
    | some content =>
      have inside : messageField 3 (contentFields content) ∈ record.fields := by
        refine (List.mem_filter.1 (?_ : _ ∈ record.fields.filter fun item => item.number == 3)).1
        rw [here, present]
        exact List.mem_singleton_self _
      exact readContent?_contentFields (depth + 1)
        (Nat.lt_of_le_of_lt (length_message_le inside) short)
  simp only [ConditionRecord.read?, fields, name, operator, content, comparison,
    Option.bind_eq_bind, Option.bind_some]
  rfl

theorem readRule?_fields (depth : Nat) {conditions : List ConditionRecord}
    (short : (writeFields (conditions.map fun condition => messageField 1 condition.fields)).length <
      2 ^ 64) :
    readRule? depth
        (.delimited (writeFields (conditions.map fun condition => messageField 1 condition.fields))) =
      some conditions := by
  have fields := fields?_writeFields depth
    (writable_messages conditions ConditionRecord.fields (by decide) (by decide)) short
  simp only [readRule?, fields, Option.bind_eq_bind, Option.bind_some]
  exact occurrences_messages (filter_messages conditions ConditionRecord.fields 1 1) short
    fun condition _ small => ConditionRecord.read?_fields (depth + 1) small

/-! ### Splits -/

theorem ShardRange.writable (range : ShardRange) : Writable range.fields := by
  simp [ShardRange.fields, writable_otherThan]

theorem ShardRange.readMessage?_fields (depth : Nat) {range : ShardRange}
    (short : (writeFields range.fields).length < 2 ^ 64) :
    ShardRange.readMessage? depth (.delimited (writeFields range.fields)) = some range := by
  have fields := fields?_writeFields depth range.writable short
  have start : lastOr 0 range.fields 1 Payload.word? = some range.start :=
    lastOr_eq readsBack_word (by simp [ShardRange.fields, filter_otherThan])
  have stop : lastOr 0 range.fields 2 Payload.word? = some range.stop :=
    lastOr_eq readsBack_word (by simp [ShardRange.fields, filter_otherThan])
  simp only [ShardRange.readMessage?, fields, start, stop, Option.bind_eq_bind, Option.bind_some]
  rfl

theorem Shard.writable (shard : Shard) : Writable shard.fields := by
  simp [Shard.fields, writable_otherThan, writable_messages]

theorem Shard.readMessage?_fields (depth : Nat) {shard : Shard}
    (short : (writeFields shard.fields).length < 2 ^ 64) :
    Shard.readMessage? depth (.delimited (writeFields shard.fields)) = some shard := by
  have fields := fields?_writeFields depth shard.writable short
  have salt : lastOr "" shard.fields 1 Payload.text? = some shard.salt :=
    lastOr_eq readsBack_text (by simp [Shard.fields, filter_otherThan, filter_messages])
  have ranges : occurrences shard.fields 2 (ShardRange.readMessage? (depth + 1)) =
      some shard.ranges :=
    occurrences_messages (by simp [Shard.fields, filter_otherThan, filter_messages]) short
      fun range _ small => ShardRange.readMessage?_fields (depth + 1) small
  simp only [Shard.readMessage?, fields, salt, ranges, Option.bind_eq_bind, Option.bind_some]
  rfl

theorem readPair?_fields (depth : Nat) {entry : String × String}
    (short : (writeFields (entryFields entry)).length < 2 ^ 64) :
    readPair? depth (.delimited (writeFields (entryFields entry))) = some entry := by
  have writable : Writable (entryFields entry) := by
    simp [entryFields, writable_otherThan]
  have fields := fields?_writeFields depth writable short
  have key : lastOr "" (entryFields entry) 1 Payload.text? = some entry.1 :=
    lastOr_eq readsBack_text (by simp [entryFields, filter_otherThan])
  have value : lastOr "" (entryFields entry) 2 Payload.text? = some entry.2 :=
    lastOr_eq readsBack_text (by simp [entryFields, filter_otherThan])
  simp only [readPair?, fields, key, value, Option.bind_eq_bind, Option.bind_some]
  rfl

theorem ListedSplit.writable (listed : ListedSplit) : Writable listed.fields := by
  simp [ListedSplit.fields, writable_otherThan, writable_messages]

/-- The field that is delimited whatever shape is written is written delimited. -/
theorem ListedSplit.delimited {listed : ListedSplit} {field : MessageField}
    (member : field ∈ listed.fields) (third : field.number == 3) : field.payload.shape = 2 := by
  have inside : field ∈ listed.fields.filter fun item => item.number == 3 :=
    List.mem_filter.2 ⟨member, third⟩
  simp only [ListedSplit.fields, List.filter_append, filter_otherThan numbered_text,
    filter_messages, Nat.reduceEqDiff, if_false, if_true, List.nil_append] at inside
  obtain ⟨entry, _, rfl⟩ := List.mem_map.1 inside
  rfl

theorem ListedSplit.readMessage?_fields (depth : Nat) {listed : ListedSplit}
    (short : (writeFields listed.fields).length < 2 ^ 64) :
    ListedSplit.readMessage? depth (.delimited (writeFields listed.fields)) = some listed := by
  have fields : readFields? (· == 3) depth (writeFields listed.fields) = some listed.fields :=
    readFields?_writeFields depth listed.writable (fun _ => ListedSplit.delimited) short
  have variationKey : lastOr "" listed.fields 1 Payload.text? = some listed.variationKey :=
    lastOr_eq readsBack_text (by simp [ListedSplit.fields, filter_otherThan, filter_messages])
  have shards : occurrences listed.fields 2 (Shard.readMessage? (depth + 1)) =
      some listed.shards :=
    occurrences_messages (by simp [ListedSplit.fields, filter_otherThan, filter_messages]) short
      fun shard _ small => Shard.readMessage?_fields (depth + 1) small
  have entries : occurrences listed.fields 3 (readPair? (depth + 1)) =
      some listed.extraLogging :=
    occurrences_messages (by simp [ListedSplit.fields, filter_otherThan, filter_messages]) short
      fun entry _ small => readPair?_fields (depth + 1) small
  simp only [ListedSplit.readMessage?, Payload.octets?, fields, variationKey, shards, entries,
    Option.bind_eq_bind, Option.bind_some]
  rfl

/-! ### Flags -/

theorem AllocationRecord.writable (record : AllocationRecord) : Writable record.fields := by
  simp [AllocationRecord.fields, writable_otherThan, writable_whenSome, writable_messages]

theorem AllocationRecord.read?_fields (depth : Nat) {record : AllocationRecord}
    (short : (writeFields record.fields).length < 2 ^ 64) :
    AllocationRecord.read? depth (.delimited (writeFields record.fields)) = some record := by
  have fields := fields?_writeFields depth record.writable short
  have key : lastOr "" record.fields 1 Payload.text? = some record.key :=
    lastOr_eq readsBack_text (by
      simp [AllocationRecord.fields, filter_otherThan, filter_whenSome, filter_messages])
  have rules : occurrences record.fields 2 (readRule? (depth + 1)) = some record.rules :=
    occurrences_messages (by
        simp [AllocationRecord.fields, filter_otherThan, filter_whenSome, filter_messages]) short
      fun conditions _ small => readRule?_fields (depth + 1) small
  have startMillis : last? record.fields 3 Payload.int64? = some record.startMillis :=
    last?_eq readsBack_int64 (by
      simp [AllocationRecord.fields, filter_otherThan, filter_whenSome, filter_messages])
  have endMillis : last? record.fields 4 Payload.int64? = some record.endMillis :=
    last?_eq readsBack_int64 (by
      simp [AllocationRecord.fields, filter_otherThan, filter_whenSome, filter_messages])
  have splits : occurrences record.fields 5 (ListedSplit.readMessage? (depth + 1)) =
      some record.splits :=
    occurrences_messages (by
        simp [AllocationRecord.fields, filter_otherThan, filter_whenSome, filter_messages]) short
      fun listed _ small => ListedSplit.readMessage?_fields (depth + 1) small
  have doLog : last? record.fields 6 Payload.bool? = some record.doLog :=
    last?_eq readsBack_bool (by
      simp [AllocationRecord.fields, filter_otherThan, filter_whenSome, filter_messages])
  simp only [AllocationRecord.read?, fields, key, rules, startMillis, endMillis, splits, doLog,
    Option.bind_eq_bind, Option.bind_some]
  rfl

theorem VariationRecord.writable (record : VariationRecord) : Writable record.fields := by
  simp [VariationRecord.fields, writable_otherThan, writable_whenSome]

theorem VariationRecord.read?_fields (depth : Nat) {record : VariationRecord}
    (short : (writeFields record.fields).length < 2 ^ 64) :
    VariationRecord.read? depth (.delimited (writeFields record.fields)) = some record := by
  obtain ⟨key, value⟩ := record
  have fields := fields?_writeFields depth (VariationRecord.writable ⟨key, value⟩) short
  have name : lastOr "" (VariationRecord.fields ⟨key, value⟩) 1 Payload.text? = some key :=
    lastOr_eq readsBack_text
      (by simp [VariationRecord.fields, filter_otherThan, filter_whenSome])
  have content : joined? (depth + 1) (VariationRecord.fields ⟨key, value⟩) 2 =
      some (value.map scalarFields) := by
    refine joined?_eq (depth + 1) ?_ (fun inner same => ?_) short
    · simp [VariationRecord.fields, filter_otherThan, filter_whenSome]
    · obtain ⟨scalar, _, rfl⟩ := Option.map_eq_some_iff.1 same
      exact writable_scalarFields scalar
  simp only [VariationRecord.read?, fields, name, content, Option.bind_eq_bind, Option.bind_some]
  cases value with
  | none => rfl
  | some scalar =>
    show (readScalar? (scalarFields scalar)).bind _ = _
    rw [readScalar?_scalarFields]
    rfl

theorem FlagRecord.writable (record : FlagRecord) : Writable record.fields := by
  simp [FlagRecord.fields, writable_otherThan, writable_whenSome, writable_messages]

theorem FlagRecord.read?_fields (depth : Nat) {record : FlagRecord}
    (short : (writeFields record.fields).length < 2 ^ 64) :
    FlagRecord.read? depth (.delimited (writeFields record.fields)) = some record := by
  have fields := fields?_writeFields depth record.writable short
  have key : lastOr "" record.fields 1 Payload.text? = some record.key :=
    lastOr_eq readsBack_text (by
      simp [FlagRecord.fields, filter_otherThan, filter_whenSome, filter_messages])
  have enabled : lastOr false record.fields 2 Payload.bool? = some record.enabled :=
    lastOr_eq readsBack_bool (by
      simp [FlagRecord.fields, filter_otherThan, filter_whenSome, filter_messages])
  have typeId : lastOr 0 record.fields 3 Payload.int32? = some record.typeId :=
    lastOr_eq readsBack_int32 (by
      simp [FlagRecord.fields, filter_otherThan, filter_whenSome, filter_messages])
  have variations : occurrences record.fields 4 (VariationRecord.read? (depth + 1)) =
      some record.variations :=
    occurrences_messages (by
        simp [FlagRecord.fields, filter_otherThan, filter_whenSome, filter_messages]) short
      fun variation _ small => VariationRecord.read?_fields (depth + 1) small
  have allocations : occurrences record.fields 5 (AllocationRecord.read? (depth + 1)) =
      some record.allocations :=
    occurrences_messages (by
        simp [FlagRecord.fields, filter_otherThan, filter_whenSome, filter_messages]) short
      fun allocation _ small => AllocationRecord.read?_fields (depth + 1) small
  have totalShards : lastOr 0 record.fields 6 Payload.word? = some record.totalShards :=
    lastOr_eq readsBack_word (by
      simp [FlagRecord.fields, filter_otherThan, filter_whenSome, filter_messages])
  have entityId : last? record.fields 7 Payload.int64? = some record.entityId :=
    last?_eq readsBack_int64 (by
      simp [FlagRecord.fields, filter_otherThan, filter_whenSome, filter_messages])
  simp only [FlagRecord.read?, fields, key, enabled, typeId, variations, allocations, totalShards,
    entityId, Option.bind_eq_bind, Option.bind_some]
  rfl

/-! ### Configurations -/

theorem ConfigRecord.writable (record : ConfigRecord) : Writable record.fields := by
  simp [ConfigRecord.fields, writable_whenSome, writable_messages]

/-- **A configuration is read back from its octets.** -/
theorem ConfigRecord.ofOctets?_toOctets {record : ConfigRecord}
    (short : record.toOctets.length < 2 ^ 64) : ofOctets? record.toOctets = some record := by
  have fields : readFields? (fun _ => false) 0 (writeFields record.fields) = some record.fields :=
    readFields?_writeFields 0 record.writable (fun _ _ impossible => by cases impossible) short
  have createdMillis : last? record.fields 1 Payload.int64? = some record.createdMillis :=
    last?_eq readsBack_int64 (by simp [ConfigRecord.fields, filter_whenSome, filter_messages])
  have environment : last? record.fields 2 Payload.text? = some record.environment :=
    last?_eq readsBack_text (by simp [ConfigRecord.fields, filter_whenSome, filter_messages])
  have flags : occurrences record.fields 3 (FlagRecord.read? 1) = some record.flags :=
    occurrences_messages (by simp [ConfigRecord.fields, filter_whenSome, filter_messages]) short
      fun flag _ small => FlagRecord.read?_fields 1 small
  simp only [ConfigRecord.ofOctets?, ConfigRecord.toOctets, fields, createdMillis, environment,
    flags, Option.bind_eq_bind, Option.bind_some]
  rfl

end FeatureFlags
