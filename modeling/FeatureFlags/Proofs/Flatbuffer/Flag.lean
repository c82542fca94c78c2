import FeatureFlags.Proofs.Flag.Listed
import FeatureFlags.Proofs.Flatbuffer.Part

/-!
**Every part of a flag is read back from the table it is written to.**

There is one fact for each kind of table, from the inside to the outside: the step that writes a
part gives a table that serves the reader of the part, at a cost that is a function of the part. A
listed flag is read back as what it carries.

* `Scalar.visits`, `ListedSplit.visits`, `ListedAllocation.visits`, `ListedFlag.visits`: what it
  costs to visit a part.
* `Builder.scalar_outcome`, `Builder.split_outcome`, `Builder.allocation_outcome`,
  `Builder.flag_outcome`: writing and reading.
-/

namespace FeatureFlags

open Buffer

/-! ### Costs -/

/-- What it costs to visit a scalar. -/
def Scalar.visits : Scalar → Budget
  | .boolean _ => tableVisits 2 + ⟨0, 2⟩
  | .number _ => tableVisits 3 + ⟨0, 9⟩
  | .string text => tableVisits 4 + ⟨0, 1⟩ + textVisits text

/-- What it costs to visit a variation. -/
def Variation.visits (variation : Variation) : Budget :=
  tableVisits 2 + textVisits variation.key + (⟨0, 4⟩ + variation.value.visits)

/-- What it costs to visit what an attribute is compared with. -/
def ConditionValue.visits : ConditionValue → Budget
  | .single value => tableVisits 1 + (⟨0, 4⟩ + value.visits)
  | .multiple values =>
    tableVisits 2 + vectorVisits (values.map fun text => ⟨0, 4 + (octetsOf text).length⟩)

/-- What it costs to visit a condition. -/
def Condition.visits (condition : Condition) : Budget :=
  tableVisits 3 + textVisits condition.attributeName +
    numberVisits 1 (Builder.otherwise 0 condition.operator.wireId) +
    (⟨0, 4⟩ + condition.value.visits)

/-- What it costs to visit a rule. -/
def Rule.visits (rule : Rule) : Budget :=
  tableVisits 1 + vectorVisits (rule.conditions.map Condition.visits)

/-- What it costs to visit a range of shards; bounds that are zero are left out. -/
def ShardRange.visits (range : ShardRange) : Budget :=
  tableVisits (if range.stop = 0 then if range.start = 0 then 0 else 1 else 2) +
    numberVisits 4 (Builder.otherwise 0 range.start.toNat) +
    numberVisits 4 (Builder.otherwise 0 range.stop.toNat)

/-- What it costs to visit shards. -/
def Shard.visits (shard : Shard) : Budget :=
  tableVisits 2 + textVisits shard.salt + vectorVisits (shard.ranges.map ShardRange.visits)

/-- What it costs to visit an entry of extra logging. -/
def entryVisits (entry : String × String) : Budget :=
  tableVisits 2 + textVisits entry.1 + textVisits entry.2

/-- What it costs to visit a split. -/
def ListedSplit.visits (listed : ListedSplit) : Budget :=
  tableVisits 3 + textVisits listed.variationKey + vectorVisits (listed.shards.map Shard.visits) +
    vectorVisits (listed.extraLogging.map entryVisits)

/-- What it costs to visit an instant, if there is one. -/
def windowVisits (window : Option Instant) : Budget := if window.isSome then ⟨0, 8⟩ else 0

/-- What it costs to visit an allocation; that it is logged is left out. -/
def ListedAllocation.visits (listed : ListedAllocation) : Budget :=
  tableVisits (if listed.doLog then 5 else 6) + textVisits listed.key +
    vectorVisits (listed.rules.map Rule.visits) + windowVisits listed.startAt +
    windowVisits listed.endAt + vectorVisits (listed.splits.map ListedSplit.visits) +
    numberVisits 1 (Builder.otherwise 1 (Builder.bit listed.doLog))

/-- What it costs to visit a flag; what its absence stands for is left out. -/
def ListedFlag.visits (listed : ListedFlag) : Budget :=
  tableVisits (if listed.entityId.isSome then 7 else if listed.totalShards = 0 then 5 else 6) +
    textVisits listed.key + numberVisits 1 (Builder.otherwise 0 (Builder.bit listed.enabled)) +
    numberVisits 1 (Builder.otherwise 0 listed.variationType.wireId) +
    vectorVisits (listed.variations.map Variation.visits) +
    vectorVisits (listed.allocations.map ListedAllocation.visits) +
    numberVisits 4 (Builder.otherwise 0 listed.totalShards.toNat) +
    if listed.entityId.isSome then ⟨0, 8⟩ else 0

namespace Builder

variable {builder : Builder}

/-! ### Scalars and variations -/

theorem scalar_outcome (sound : builder.Sound) (value : Scalar) :
    Outcome builder (scalar value)
      (Stands (Serves Buffer.scalar Slots.value (.ok value) value.visits)) := by
  cases value with
  | boolean value =>
    have small : bit value < 256 ^ 1 := by
      cases value <;> decide
    have fit : Fitting builder.used 2 [(4, .number 1 1), (6, .number 1 (bit value))] :=
      .cons (by decide) ⟨.inl rfl, by decide⟩ (.cons (by decide) ⟨.inl rfl, small⟩ .nil)
    rw [scalar]
    refine table_outcome sound (fit.fieldsFit (by decide)) fun buffer _ position isTable => ⟨?_, ?_⟩
    · have kind := isTable.number (by decide : IsSlot 4) (some 1) 0 rfl
      have content := isTable.bool (by decide : IsSlot 6) (some (bit value)) false rfl
      simp only [Buffer.scalar, kind, content]
      cases value <;> rfl
    · refine (isTable.costs fun layout isTableAt =>
        isTableAt.costs_absent (by decide) rfl <|
        isTableAt.costs_absent (by decide) rfl <|
        isTableAt.costs_number (some (bit value)) (by decide) rfl <|
        isTableAt.costs_number (some 1) (by decide) rfl <| costs_none _).of_eq ?_ ?_
      all_goals simp [Scalar.visits, tableVisits, layoutLength, slotCost, numberVisits]
  | number value =>
    have fit : Fitting builder.used 2 [(4, .number 1 2), (8, .number 8 value.bits.toNat)] :=
      .cons (by decide) ⟨.inl rfl, by decide⟩
        (.cons (by decide) ⟨.inr (.inr rfl), value.bits.toNat_lt⟩ .nil)
    rw [scalar]
    refine table_outcome sound (fit.fieldsFit (by decide)) fun buffer _ position isTable => ⟨?_, ?_⟩
    · have kind := isTable.number (by decide : IsSlot 4) (some 2) 0 rfl
      have content := isTable.number (by decide : IsSlot 8) (some value.bits.toNat) 0 rfl
      simp only [Buffer.scalar, kind, content]
      show Except.ok (Scalar.number ⟨UInt64.ofNat value.bits.toNat⟩) = _
      rw [UInt64.ofNat_toNat]
    · refine (isTable.costs fun layout isTableAt =>
        isTableAt.costs_absent (by decide) rfl <|
        isTableAt.costs_number (some value.bits.toNat) (by decide) rfl <|
        isTableAt.costs_absent (by decide) rfl <|
        isTableAt.costs_number (some 2) (by decide) rfl <| costs_none _).of_eq ?_ ?_
      all_goals simp [Scalar.visits, tableVisits, layoutLength, slotCost, numberVisits]
  | string text =>
    rw [scalar]
    refine (text_outcome sound text).bind fun after place soundAfter _ stands => ?_
    have fit : Fitting after.used 2 [(4, .number 1 3), (10, .offset place)] :=
      .cons (by decide) ⟨.inl rfl, by decide⟩ (.offset (by decide) stands.1 .nil)
    refine table_outcome soundAfter (fit.fieldsFit (by decide))
      fun buffer completed position isTable => ⟨?_, ?_⟩
    · have kind := isTable.number (by decide : IsSlot 4) (some 3) 0 rfl
      have content : buffer.requiredText "value.string_value" position 10 = .ok text :=
        isTable.requiredText (by decide : IsSlot 10) rfl (stands.2 buffer completed)
      simp only [Buffer.scalar, kind, content]
      rfl
    · refine (isTable.costs fun layout isTableAt =>
        isTableAt.costs_text (by decide) rfl (stands.2 buffer completed) <|
        isTableAt.costs_absent (by decide) rfl <|
        isTableAt.costs_absent (by decide) rfl <|
        isTableAt.costs_number (some 3) (by decide) rfl <| costs_none _).of_eq ?_ ?_
      all_goals simp [Scalar.visits, tableVisits, layoutLength, slotCost, numberVisits]
      omega

theorem variation_outcome (sound : builder.Sound) (variation : Variation) :
    Outcome builder (Builder.variation variation)
      (Stands (Serves Buffer.variation Slots.variation (.ok variation) variation.visits)) := by
  rw [Builder.variation]
  refine (text_outcome sound variation.key).bind fun _ key sound _ keyStands => ?_
  refine (scalar_outcome sound variation.value).bind fun after value sound grown valueStands => ?_
  have keyStands := keyStands.extend grown
  have fit : Fitting after.used 2 [(4, .offset key), (6, .offset value)] :=
    .offset (by decide) keyStands.1 (.offset (by decide) valueStands.1 .nil)
  refine table_outcome sound (fit.fieldsFit (by decide)) fun buffer completed position isTable => ?_
  have isKey := keyStands.2 buffer completed
  have isValue := valueStands.2 buffer completed
  refine ⟨?_, ?_⟩
  · have readKey : buffer.requiredText "variation.key" position 4 = .ok variation.key :=
      isTable.requiredText (by decide) rfl isKey
    have readValue : buffer.table? position 6 = .ok (some (buffer.size - value)) :=
      isTable.table? (by decide) rfl
    simp only [Buffer.variation, readKey, readValue]
    show (buffer.scalar (buffer.size - value)).bind _ = _
    rw [isValue.reads]
    rfl
  · refine (isTable.costs fun layout isTableAt =>
      isTableAt.costs_table (by decide) rfl isValue.costs <|
      isTableAt.costs_text (by decide) rfl isKey <| costs_none _).of_eq ?_ ?_
    all_goals simp [Variation.visits, tableVisits, layoutLength, slotCost]
    all_goals omega

/-! ### Conditions and rules -/

theorem conditionValue_outcome (sound : builder.Sound) (value : ConditionValue) :
    Outcome builder (conditionValue value)
      (Stands (Serves Buffer.conditionValue Slots.conditionValue (.ok value) value.visits)) := by
  cases value with
  | single value =>
    rw [conditionValue]
    refine (scalar_outcome sound value).bind fun after single sound _ stands => ?_
    have fit : Fitting after.used 1 [(4, .offset single)] := .offset (by decide) stands.1 .nil
    refine table_outcome sound (fit.fieldsFit (by decide))
      fun buffer completed position isTable => ?_
    have isSingle := stands.2 buffer completed
    refine ⟨?_, ?_⟩
    · have read : buffer.table? position 4 = .ok (some (buffer.size - single)) :=
        isTable.table? (by decide) rfl
      simp only [Buffer.conditionValue, read]
      show (buffer.scalar (buffer.size - single)).map ConditionValue.single = _
      rw [isSingle.reads]
      rfl
    · refine (isTable.costs fun layout isTableAt =>
        isTableAt.costs_absent (by decide) rfl <|
        isTableAt.costs_table (by decide) rfl isSingle.costs <| costs_none _).of_eq ?_ ?_
      all_goals simp [ConditionValue.visits, tableVisits, layoutLength, slotCost]
      all_goals omega
  | multiple values =>
    rw [conditionValue]
    refine vectorOf_bind sound (fun text _ _ sound => text_outcome sound text)
      fun after multiple sound _ stands => ?_
    have fit : Fitting after.used 1 [(6, .offset multiple)] := .offset (by decide) stands.1 .nil
    refine table_outcome sound (fit.fieldsFit (by decide))
      fun buffer completed position isTable => ?_
    obtain ⟨targets, isVector, reads, costs⟩ := vectorOf_texts (stands.2 buffer completed)
    refine ⟨?_, ?_⟩
    · have nothing : buffer.table? position 4 = .ok none :=
        isTable.field?_none (by decide) rfl
      have read : buffer.texts? position 6 = .ok (some values) :=
        isTable.texts? (by decide) rfl isVector reads
      simp only [Buffer.conditionValue, nothing, read]
      rfl
    · refine (isTable.costs fun layout isTableAt =>
        isTableAt.costs_texts (by decide) rfl isVector costs <|
        isTableAt.costs_absent (by decide) rfl <| costs_none _).of_eq ?_ ?_
      all_goals simp [ConditionValue.visits, tableVisits, layoutLength, slotCost]
      all_goals omega

/-- The fields of a condition, given the places of its texts and its value. -/
def conditionFields (condition : Condition) (name value : Nat) : List (Nat × SlotContent) :=
  [(4, .offset name)] ++ slotWhenSome 6 1 (otherwise 0 condition.operator.wireId) ++
    [(8, .offset value)]

theorem condition_outcome (sound : builder.Sound) (condition : Condition) :
    Outcome builder (Builder.condition condition)
      (Stands (Serves Buffer.condition Slots.condition (.ok condition) condition.visits)) := by
  rw [Builder.condition, numberUnless_eq]
  refine (text_outcome sound condition.attributeName).bind fun _ name sound _ nameStands => ?_
  refine (conditionValue_outcome sound condition.value).bind
    fun after value sound grown valueStands => ?_
  have nameStands := nameStands.extend grown
  have wireId : condition.operator.wireId < 256 ^ 1 := by
    cases condition.operator <;> decide
  have fit : Fitting after.used 3 (conditionFields condition name value) :=
    ((Fitting.nil.offset (by decide) nameStands.1).append
      (.slotWhenSome (by decide) (.inl rfl) (otherwise_lt wireId))).append
        (.offset (by decide) valueStands.1 .nil)
  have at4 : (conditionFields condition name value).lookup 4 = some (.offset name) := by
    simp [conditionFields]
  have at6 : (conditionFields condition name value).lookup 6 =
      (otherwise 0 condition.operator.wireId).map (.number 1) := by
    simp [conditionFields, List.lookup_cons, List.lookup_append]
  have at8 : (conditionFields condition name value).lookup 8 = some (.offset value) := by
    simp [conditionFields, List.lookup_cons, List.lookup_append]
  have length : layoutLength ((conditionFields condition name value).map Prod.fst) = 10 := by
    unfold conditionFields
    cases otherwise 0 condition.operator.wireId <;> simp [layoutLength, slotWhenSome]
  show Outcome after (table (conditionFields condition name value)) _
  refine table_outcome sound (fit.fieldsFit (by decide)) fun buffer completed position isTable => ?_
  have isName := nameStands.2 buffer completed
  have isValue := valueStands.2 buffer completed
  refine ⟨?_, ?_⟩
  · have readValue := isTable.table? (by decide) at8
    have readName : buffer.requiredText "condition.attribute" position 4 =
        .ok condition.attributeName := isTable.requiredText (by decide) at4 isName
    have readOperator := isTable.number (by decide) _ 0 at6
    have same : Operator.ofWireId condition.operator.wireId = condition.operator := by
      cases condition.operator <;> rfl
    rw [getD_otherwise] at readOperator
    simp only [Buffer.condition, readValue, readName, readOperator]
    show (buffer.conditionValue (buffer.size - value)).bind _ = _
    rw [isValue.reads]
    show Except.ok (Condition.mk (.ofWireId condition.operator.wireId) _ _) = _
    rw [same]
  · refine (isTable.costs fun layout isTableAt =>
      isTableAt.costs_table (by decide) at8 isValue.costs <|
      isTableAt.costs_number _ (by decide) at6 <|
      isTableAt.costs_text (by decide) at4 isName <| costs_none _).of_eq ?_ ?_
    all_goals rw [length]
    all_goals simp [Condition.visits, tableVisits, slotCost]
    all_goals omega

theorem rule_outcome (sound : builder.Sound) (rule : Rule) :
    Outcome builder (Builder.rule rule)
      (Stands (Serves Buffer.rule Slots.rule (.ok rule) rule.visits)) := by
  rw [Builder.rule]
  refine vectorOf_bind sound (fun condition _ _ sound => condition_outcome sound condition)
    fun after conditions sound _ stands => ?_
  have fit : Fitting after.used 1 [(4, .offset conditions)] := .offset (by decide) stands.1 .nil
  refine table_outcome sound (fit.fieldsFit (by decide)) fun buffer completed position isTable => ?_
  obtain ⟨targets, isVector, reads, costs⟩ := vectorOf_serves (stands.2 buffer completed)
  refine ⟨?_, ?_⟩
  · have read : buffer.tables position 4 = .ok targets := isTable.tables (by decide) rfl isVector
    simp only [Buffer.rule, read]
    show (targets.mapM buffer.condition).map Rule.mk = _
    rw [reads, List.map_id']
    rfl
  · refine (isTable.costs fun layout isTableAt =>
      isTableAt.costs_tables (by decide) rfl isVector costs <| costs_none _).of_eq ?_ ?_
    all_goals simp [Rule.visits, tableVisits, layoutLength, slotCost]
    all_goals omega

/-! ### Splits -/

theorem toNat_eq_zero (word : UInt32) : word.toNat = 0 ↔ word = 0 :=
  ⟨fun zero => UInt32.toNat.inj zero, fun zero => by rw [zero]; rfl⟩

/-- The fields of a range of shards. -/
def shardRangeFields (range : ShardRange) : List (Nat × SlotContent) :=
  slotWhenSome 4 4 (otherwise 0 range.start.toNat) ++
    slotWhenSome 6 4 (otherwise 0 range.stop.toNat)

/-- How many slots the layout of a range of shards lists. -/
theorem layoutLength_shardRangeFields (range : ShardRange) :
    layoutLength ((shardRangeFields range).map Prod.fst) =
      4 + 2 * if range.stop = 0 then if range.start = 0 then 0 else 1 else 2 := by
  unfold shardRangeFields otherwise
  simp only [toNat_eq_zero]
  by_cases start : range.start = 0
  · by_cases stop : range.stop = 0 <;> simp [start, stop, layoutLength, slotWhenSome]
  · by_cases stop : range.stop = 0 <;> simp [start, stop, layoutLength, slotWhenSome]

theorem shardRange_outcome (sound : builder.Sound) (range : ShardRange) :
    Outcome builder (Builder.shardRange range)
      (Stands (Serves Buffer.shardRange Slots.shardRange (.ok range) range.visits)) := by
  rw [Builder.shardRange, numberUnless_eq, numberUnless_eq]
  have fit : Fitting builder.used 2 (shardRangeFields range) :=
    (Fitting.slotWhenSome (by decide) (.inr (.inl rfl)) (otherwise_lt range.start.toNat_lt)).append
      (.slotWhenSome (by decide) (.inr (.inl rfl)) (otherwise_lt range.stop.toNat_lt))
  have at4 : (shardRangeFields range).lookup 4 =
      (otherwise 0 range.start.toNat).map (.number 4) := by
    simp [shardRangeFields, List.lookup_append]
  have at6 : (shardRangeFields range).lookup 6 =
      (otherwise 0 range.stop.toNat).map (.number 4) := by
    simp [shardRangeFields, List.lookup_append]
  show Outcome builder (table (shardRangeFields range)) _
  refine table_outcome sound (fit.fieldsFit (by decide)) fun buffer _ position isTable => ⟨?_, ?_⟩
  · simp only [Buffer.shardRange, isTable.word32 (by decide) range.start at4,
      isTable.word32 (by decide) range.stop at6]
    rfl
  · refine (isTable.costs fun layout isTableAt =>
      isTableAt.costs_number _ (by decide) at6 <|
      isTableAt.costs_number _ (by decide) at4 <| costs_none _).of_eq ?_ ?_
    all_goals rw [layoutLength_shardRangeFields]
    all_goals by_cases stop : range.stop = 0
    all_goals by_cases start : range.start = 0
    all_goals simp [ShardRange.visits, tableVisits, slotCost, start, stop]
    all_goals omega

theorem shard_outcome (sound : builder.Sound) (shard : Shard) :
    Outcome builder (Builder.shard shard)
      (Stands (Serves Buffer.shard Slots.shard (.ok shard) shard.visits)) := by
  rw [Builder.shard]
  refine (text_outcome sound shard.salt).bind fun _ salt sound _ saltStands => ?_
  refine vectorOf_bind sound (fun range _ _ sound => shardRange_outcome sound range)
    fun after ranges sound grown rangesStand => ?_
  have saltStands := saltStands.extend grown
  have fit : Fitting after.used 2 [(4, .offset salt), (6, .offset ranges)] :=
    .offset (by decide) saltStands.1 (.offset (by decide) rangesStand.1 .nil)
  refine table_outcome sound (fit.fieldsFit (by decide)) fun buffer completed position isTable => ?_
  have isSalt := saltStands.2 buffer completed
  obtain ⟨targets, isVector, reads, costs⟩ := vectorOf_serves (rangesStand.2 buffer completed)
  refine ⟨?_, ?_⟩
  · have readSalt : buffer.requiredText "shard.salt" position 4 = .ok shard.salt :=
      isTable.requiredText (by decide) rfl isSalt
    have readRanges : buffer.tables position 6 = .ok targets :=
      isTable.tables (by decide) rfl isVector
    simp only [Buffer.shard, readSalt, readRanges]
    show (targets.mapM buffer.shardRange).bind _ = _
    rw [reads, List.map_id']
    rfl
  · refine (isTable.costs fun layout isTableAt =>
      isTableAt.costs_tables (by decide) rfl isVector costs <|
      isTableAt.costs_text (by decide) rfl isSalt <| costs_none _).of_eq ?_ ?_
    all_goals simp [Shard.visits, tableVisits, layoutLength, slotCost]
    all_goals omega

theorem entry_outcome (sound : builder.Sound) (entry : String × String) :
    Outcome builder (Builder.entry entry)
      (Stands (Serves Buffer.pair? Slots.entry (.ok (some entry)) (entryVisits entry))) := by
  rw [Builder.entry]
  refine (text_outcome sound entry.1).bind fun _ key sound _ keyStands => ?_
  refine (text_outcome sound entry.2).bind fun after value sound grown valueStands => ?_
  have keyStands := keyStands.extend grown
  have fit : Fitting after.used 2 [(4, .offset key), (6, .offset value)] :=
    .offset (by decide) keyStands.1 (.offset (by decide) valueStands.1 .nil)
  refine table_outcome sound (fit.fieldsFit (by decide)) fun buffer completed position isTable => ?_
  have isKey := keyStands.2 buffer completed
  have isValue := valueStands.2 buffer completed
  refine ⟨?_, ?_⟩
  · have readKey : buffer.text? position 4 = .ok (some entry.1) :=
      isTable.text? (by decide) rfl isKey
    have readValue : buffer.text? position 6 = .ok (some entry.2) :=
      isTable.text? (by decide) rfl isValue
    simp only [Buffer.pair?, readKey, readValue]
    rfl
  · refine (isTable.costs fun layout isTableAt =>
      isTableAt.costs_text (by decide) rfl isValue <|
      isTableAt.costs_text (by decide) rfl isKey <| costs_none _).of_eq ?_ ?_
    all_goals simp [entryVisits, tableVisits, layoutLength, slotCost]
    all_goals omega

theorem split_outcome (sound : builder.Sound) (listed : ListedSplit) :
    Outcome builder (Builder.split listed)
      (Stands (Serves Buffer.split Slots.split (.ok listed.split) listed.visits)) := by
  rw [Builder.split]
  refine (text_outcome sound listed.variationKey).bind fun _ key sound _ keyStands => ?_
  refine vectorOf_bind sound (fun shard _ _ sound => shard_outcome sound shard)
    fun _ shards sound grown shardsStand => ?_
  have keyStands := keyStands.extend grown
  refine vectorOf_bind sound (fun entry _ _ sound => entry_outcome sound entry)
    fun after entries sound grown entriesStand => ?_
  have keyStands := keyStands.extend grown
  have shardsStand := shardsStand.extend grown
  have fit : Fitting after.used 3 [(4, .offset key), (6, .offset shards), (8, .offset entries)] :=
    .offset (by decide) keyStands.1 (.offset (by decide) shardsStand.1
      (.offset (by decide) entriesStand.1 .nil))
  refine table_outcome sound (fit.fieldsFit (by decide)) fun buffer completed position isTable => ?_
  have isKey := keyStands.2 buffer completed
  obtain ⟨shardTargets, areShards, readShards, shardCosts⟩ :=
    vectorOf_serves (shardsStand.2 buffer completed)
  obtain ⟨entryTargets, areEntries, readEntries, entryCosts⟩ :=
    vectorOf_serves (entriesStand.2 buffer completed)
  refine ⟨?_, ?_⟩
  · have readKey : buffer.requiredText "split.variation_key" position 4 =
        .ok listed.variationKey := isTable.requiredText (by decide) rfl isKey
    have findShards : buffer.tables position 6 = .ok shardTargets :=
      isTable.tables (by decide) rfl areShards
    have findEntries : buffer.tables position 8 = .ok entryTargets :=
      isTable.tables (by decide) rfl areEntries
    have present : (listed.extraLogging.map some).filterMap id = listed.extraLogging := by
      rw [List.filterMap_map, Function.id_comp, List.filterMap_some]
    simp only [Buffer.split, findShards, findEntries, readKey]
    show (shardTargets.mapM buffer.shard).bind _ = _
    rw [readShards, List.map_id']
    show (entryTargets.mapM buffer.pair?).bind _ = _
    rw [readEntries]
    show Except.ok (Split.mk _ _ (Dict.ofList _)) = _
    rw [present]
    rfl
  · refine (isTable.costs fun layout isTableAt =>
      isTableAt.costs_tables (by decide) rfl areEntries entryCosts <|
      isTableAt.costs_tables (by decide) rfl areShards shardCosts <|
      isTableAt.costs_text (by decide) rfl isKey <| costs_none _).of_eq ?_ ?_
    all_goals simp [ListedSplit.visits, tableVisits, layoutLength, slotCost]
    all_goals omega

/-! ### Allocations -/

/-- The milliseconds of an instant as they are written, if there is one. -/
def windowBits (window : Option Instant) : Option Nat :=
  (window.map Instant.toWireMillis).map fun millis => millis.toUInt64.toNat

theorem windowBits_lt (window : Option Instant) :
    ∀ number ∈ windowBits window, number < 256 ^ 8 := by
  cases window with
  | none => exact fun _ impossible => by cases impossible
  | some instant =>
    intro number member
    cases member
    exact instant.toWireMillis.toUInt64.toNat_lt

@[simp] theorem numberVisits_windowBits (window : Option Instant) :
    numberVisits 8 (windowBits window) = windowVisits window := by
  cases window <;> rfl

theorem instant?_eq {buffer : Buffer} {fields : List (Nat × SlotContent)} {table slot : Nat}
    (isTable : buffer.IsTable fields table) (isSlot : IsSlot slot) {window : Option Instant}
    (here : fields.lookup slot = (windowBits window).map (.number 8)) :
    buffer.instant? table slot = optionalInstant (window.map Instant.toWireMillis) := by
  rw [Buffer.instant?, isTable.int64? isSlot (window.map Instant.toWireMillis) here]
  rfl

/-- The fields of an allocation, given the places of its key, its rules and its splits. -/
def allocationFields (listed : ListedAllocation) (key rules splits : Nat) :
    List (Nat × SlotContent) :=
  [(4, .offset key), (6, .offset rules)] ++ slotWhenSome 8 8 (windowBits listed.startAt) ++
    slotWhenSome 10 8 (windowBits listed.endAt) ++ [(12, .offset splits)] ++
    slotWhenSome 14 1 (otherwise 1 (bit listed.doLog))

theorem layoutLength_allocationFields (listed : ListedAllocation) (key rules splits : Nat) :
    layoutLength ((allocationFields listed key rules splits).map Prod.fst) =
      4 + 2 * if listed.doLog then 5 else 6 := by
  unfold allocationFields
  cases windowBits listed.startAt <;> cases windowBits listed.endAt <;>
    cases listed.doLog <;> simp [layoutLength, slotWhenSome, otherwise, bit]

section AllocationTable

variable {listed : ListedAllocation} {key rules splits : Nat}

theorem fitting_allocationFields (listed : ListedAllocation) {used : Nat} (keyInside : key ≤ used)
    (rulesInside : rules ≤ used) (splitsInside : splits ≤ used) :
    Fitting used 6 (allocationFields listed key rules splits) := by
  have logged : bit listed.doLog < 256 ^ 1 := by
    cases listed.doLog <;> decide
  exact ((((Fitting.nil.offset (by decide) rulesInside).offset (by decide) keyInside).append
    (.slotWhenSome (by decide) (.inr (.inr rfl)) (windowBits_lt _))).append
    (.slotWhenSome (by decide) (.inr (.inr rfl)) (windowBits_lt _))).append
    (.offset (by decide) splitsInside .nil) |>.append
    (.slotWhenSome (by decide) (.inl rfl) (otherwise_lt logged))

/-- What stands in the slots of an allocation. -/
theorem lookup_allocationFields (listed : ListedAllocation) (key rules splits : Nat) :
    let fields := allocationFields listed key rules splits
    fields.lookup 4 = some (.offset key) ∧ fields.lookup 6 = some (.offset rules) ∧
      fields.lookup 8 = (windowBits listed.startAt).map (.number 8) ∧
      fields.lookup 10 = (windowBits listed.endAt).map (.number 8) ∧
      fields.lookup 12 = some (.offset splits) ∧
      fields.lookup 14 = (otherwise 1 (bit listed.doLog)).map (.number 1) := by
  simp [allocationFields, List.lookup_cons, List.lookup_append]

variable {buffer : Buffer} {position : Nat} {ruleTargets splitTargets : List Nat}

theorem allocation_reads
    (isTable : buffer.IsTable (allocationFields listed key rules splits) position)
    (isKey : buffer.IsText listed.key (buffer.size - key))
    (areRules : buffer.IsVector ruleTargets (buffer.size - rules))
    (readRules : ruleTargets.mapM buffer.rule = .ok listed.rules)
    (areSplits : buffer.IsVector splitTargets (buffer.size - splits))
    (readSplits : splitTargets.mapM buffer.split = .ok (listed.splits.map ListedSplit.split)) :
    buffer.allocation position = listed.carried := by
  obtain ⟨at4, at6, at8, at10, at12, at14⟩ := lookup_allocationFields listed key rules splits
  have readKey : buffer.requiredText "allocation.key" position 4 = .ok listed.key :=
    isTable.requiredText (by decide) at4 isKey
  have findRules := isTable.tables (by decide) at6 areRules
  have findSplits := isTable.tables (by decide) at12 areSplits
  have readStart := instant?_eq isTable (by decide) at8
  have readEnd := instant?_eq isTable (by decide) at10
  have readLogged := isTable.bool (by decide) _ true at14
  have isLogged : ((otherwise 1 (bit listed.doLog)).map (· != 0)).getD true =
      listed.doLog := by
    cases listed.doLog <;> rfl
  rw [isLogged] at readLogged
  simp only [Buffer.allocation, findRules, findSplits, readKey, readStart, readEnd, readLogged]
  show (ruleTargets.mapM buffer.rule).bind _ = _
  rw [readRules]
  show (splitTargets.mapM buffer.split).bind _ = _
  rw [readSplits]
  rfl

theorem allocation_costs
    (isTable : buffer.IsTable (allocationFields listed key rules splits) position)
    (isKey : buffer.IsText listed.key (buffer.size - key))
    (areRules : buffer.IsVector ruleTargets (buffer.size - rules))
    (ruleCosts : List.Forall₂ (fun target cost => Costs (buffer.visitTable Slots.rule target) cost)
      ruleTargets (listed.rules.map Rule.visits))
    (areSplits : buffer.IsVector splitTargets (buffer.size - splits))
    (splitCosts : List.Forall₂
      (fun target cost => Costs (buffer.visitTable Slots.split target) cost)
      splitTargets (listed.splits.map ListedSplit.visits)) :
    Costs (buffer.visitTable Slots.allocation position) listed.visits := by
  obtain ⟨at4, at6, at8, at10, at12, at14⟩ := lookup_allocationFields listed key rules splits
  refine (isTable.costs fun layout isTableAt =>
    isTableAt.costs_number _ (by decide) at14 <|
    isTableAt.costs_tables (by decide) at12 areSplits splitCosts <|
    isTableAt.costs_number _ (by decide) at10 <|
    isTableAt.costs_number _ (by decide) at8 <|
    isTableAt.costs_tables (by decide) at6 areRules ruleCosts <|
    isTableAt.costs_text (by decide) at4 isKey <| costs_none _).of_eq ?_ ?_
  all_goals rw [layoutLength_allocationFields]
  all_goals cases logged : listed.doLog
  all_goals simp [ListedAllocation.visits, tableVisits, slotCost, logged]
  all_goals omega

end AllocationTable

theorem allocation_outcome (sound : builder.Sound) (listed : ListedAllocation) :
    Outcome builder (Builder.allocation listed)
      (Stands (Serves Buffer.allocation Slots.allocation listed.carried listed.visits)) := by
  rw [Builder.allocation, numberUnless_eq, int64Slot_eq, int64Slot_eq]
  refine (text_outcome sound listed.key).bind fun _ key sound _ keyStands => ?_
  refine vectorOf_bind sound (fun rule _ _ sound => rule_outcome sound rule)
    fun _ rules sound grown rulesStand => ?_
  have keyStands := keyStands.extend grown
  refine vectorOf_bind sound (fun split _ _ sound => split_outcome sound split)
    fun after splits sound grown splitsStand => ?_
  have keyStands := keyStands.extend grown
  have rulesStand := rulesStand.extend grown
  have fit := fitting_allocationFields listed keyStands.1 rulesStand.1 splitsStand.1
  show Outcome after (table (allocationFields listed key rules splits)) _
  refine table_outcome sound (fit.fieldsFit (by decide))
    fun buffer completed position isTable => ?_
  have isKey := keyStands.2 buffer completed
  obtain ⟨ruleTargets, areRules, readRules, ruleCosts⟩ :=
    vectorOf_serves (rulesStand.2 buffer completed)
  obtain ⟨splitTargets, areSplits, readSplits, splitCosts⟩ :=
    vectorOf_serves (splitsStand.2 buffer completed)
  rw [List.map_id'] at readRules
  exact ⟨allocation_reads isTable isKey areRules readRules areSplits readSplits,
    allocation_costs isTable isKey areRules ruleCosts areSplits splitCosts⟩

/-! ### Flags -/

/-- The fields of a flag, given the places of its key, its variations and its allocations. -/
def flagFields (listed : ListedFlag) (key variations allocations : Nat) :
    List (Nat × SlotContent) :=
  [(4, .offset key)] ++ slotWhenSome 6 1 (otherwise 0 (bit listed.enabled)) ++
    slotWhenSome 8 1 (otherwise 0 listed.variationType.wireId) ++
    [(10, .offset variations), (12, .offset allocations)] ++
    slotWhenSome 14 4 (otherwise 0 listed.totalShards.toNat) ++
    slotWhenSome 16 8 (listed.entityId.map fun value => value.toUInt64.toNat)

theorem layoutLength_flagFields (listed : ListedFlag) (key variations allocations : Nat) :
    layoutLength ((flagFields listed key variations allocations).map Prod.fst) =
      4 + 2 * if listed.entityId.isSome then 7 else if listed.totalShards = 0 then 5 else 6 := by
  have zero := toNat_eq_zero listed.totalShards
  unfold flagFields
  by_cases shards : listed.totalShards = 0
  all_goals cases otherwise 0 (bit listed.enabled) <;>
    cases otherwise 0 listed.variationType.wireId <;> cases listed.entityId <;>
    simp [layoutLength, slotWhenSome, otherwise, zero, shards]

section FlagTable

variable {listed : ListedFlag} {key variations allocations : Nat}

theorem fitting_flagFields (listed : ListedFlag) {used : Nat} (keyInside : key ≤ used)
    (variationsInside : variations ≤ used) (allocationsInside : allocations ≤ used) :
    Fitting used 7 (flagFields listed key variations allocations) := by
  have enabled : bit listed.enabled < 256 ^ 1 := by
    cases listed.enabled <;> decide
  have wireId : listed.variationType.wireId < 256 ^ 1 := by
    cases listed.variationType <;> decide
  have entity : ∀ number ∈ listed.entityId.map fun value => value.toUInt64.toNat,
      number < 256 ^ 8 := by
    intro number member
    obtain ⟨value, _, rfl⟩ := Option.map_eq_some_iff.1 member
    exact value.toUInt64.toNat_lt
  exact ((((Fitting.nil.offset (by decide) keyInside).append
    (.slotWhenSome (by decide) (.inl rfl) (otherwise_lt enabled))).append
    (.slotWhenSome (by decide) (.inl rfl) (otherwise_lt wireId))).append
    (.offset (by decide) variationsInside (.offset (by decide) allocationsInside .nil))).append
    (.slotWhenSome (by decide) (.inr (.inl rfl)) (otherwise_lt listed.totalShards.toNat_lt))
    |>.append (.slotWhenSome (by decide) (.inr (.inr rfl)) entity)

/-- What stands in the slots of a flag. -/
theorem lookup_flagFields (listed : ListedFlag) (key variations allocations : Nat) :
    let fields := flagFields listed key variations allocations
    fields.lookup 4 = some (.offset key) ∧
      fields.lookup 6 = (otherwise 0 (bit listed.enabled)).map (.number 1) ∧
      fields.lookup 8 = (otherwise 0 listed.variationType.wireId).map (.number 1) ∧
      fields.lookup 10 = some (.offset variations) ∧
      fields.lookup 12 = some (.offset allocations) ∧
      fields.lookup 14 = (otherwise 0 listed.totalShards.toNat).map (.number 4) ∧
      fields.lookup 16 =
        (listed.entityId.map fun value => value.toUInt64.toNat).map (.number 8) := by
  simp [flagFields, List.lookup_cons, List.lookup_append]

variable {buffer : Buffer} {position : Nat} {variationTargets allocationTargets : List Nat}

theorem flagKey_reads
    (isTable : buffer.IsTable (flagFields listed key variations allocations) position)
    (isKey : buffer.IsText listed.key (buffer.size - key)) :
    buffer.requiredText "flag.key" position 4 = .ok listed.key :=
  isTable.requiredText (by decide) (lookup_flagFields listed key variations allocations).1 isKey

theorem flag_reads
    (isTable : buffer.IsTable (flagFields listed key variations allocations) position)
    (isKey : buffer.IsText listed.key (buffer.size - key))
    (areVariations : buffer.IsVector variationTargets (buffer.size - variations))
    (readVariations : variationTargets.mapM buffer.variation = .ok listed.variations)
    (areAllocations : buffer.IsVector allocationTargets (buffer.size - allocations))
    (readAllocations : allocationTargets.mapM buffer.allocation =
      listed.allocations.mapM ListedAllocation.carried) :
    buffer.flag position = listed.carried := by
  obtain ⟨_, at6, at8, at10, at12, at14, at16⟩ :=
    lookup_flagFields listed key variations allocations
  have readKey := flagKey_reads isTable isKey
  have readType := isTable.number (by decide) _ 0 at8
  have isType : VariationType.ofWire listed.variationType.wireId = .ok listed.variationType := by
    cases listed.variationType <;> rfl
  have findVariations := isTable.tables (by decide) at10 areVariations
  have findAllocations := isTable.tables (by decide) at12 areAllocations
  have readEnabled := isTable.bool (by decide) _ false at6
  have isEnabled : ((otherwise 0 (bit listed.enabled)).map (· != 0)).getD false =
      listed.enabled := by
    cases listed.enabled <;> rfl
  have readShards := isTable.word32 (by decide) listed.totalShards at14
  have readEntity := isTable.int64? (by decide) listed.entityId at16
  rw [getD_otherwise] at readType
  rw [isEnabled] at readEnabled
  simp only [Buffer.flag, readType, findVariations, findAllocations, readKey, readEnabled,
    readShards, readEntity]
  show (VariationType.ofWire listed.variationType.wireId).bind _ = _
  rw [isType]
  show (variationTargets.mapM buffer.variation).bind _ = _
  rw [readVariations]
  show (allocationTargets.mapM buffer.allocation).bind _ = _
  rw [readAllocations]
  rfl

theorem flag_costs
    (isTable : buffer.IsTable (flagFields listed key variations allocations) position)
    (isKey : buffer.IsText listed.key (buffer.size - key))
    (areVariations : buffer.IsVector variationTargets (buffer.size - variations))
    (variationCosts : List.Forall₂
      (fun target cost => Costs (buffer.visitTable Slots.variation target) cost)
      variationTargets (listed.variations.map Variation.visits))
    (areAllocations : buffer.IsVector allocationTargets (buffer.size - allocations))
    (allocationCosts : List.Forall₂
      (fun target cost => Costs (buffer.visitTable Slots.allocation target) cost)
      allocationTargets (listed.allocations.map ListedAllocation.visits)) :
    Costs (buffer.visitTable Slots.flag position) listed.visits := by
  obtain ⟨at4, at6, at8, at10, at12, at14, at16⟩ :=
    lookup_flagFields listed key variations allocations
  refine (isTable.costs fun layout isTableAt =>
    isTableAt.costs_number _ (by decide) at16 <|
    isTableAt.costs_number _ (by decide) at14 <|
    isTableAt.costs_tables (by decide) at12 areAllocations allocationCosts <|
    isTableAt.costs_tables (by decide) at10 areVariations variationCosts <|
    isTableAt.costs_number _ (by decide) at8 <|
    isTableAt.costs_number _ (by decide) at6 <|
    isTableAt.costs_text (by decide) at4 isKey <| costs_none _).of_eq ?_ ?_
  all_goals rw [layoutLength_flagFields]
  all_goals cases entity : listed.entityId
  all_goals by_cases shards : listed.totalShards = 0
  all_goals simp [ListedFlag.visits, tableVisits, slotCost, numberVisits, entity, shards]
  all_goals omega

end FlagTable

theorem flag_outcome (sound : builder.Sound) (listed : ListedFlag) :
    Outcome builder (Builder.flag listed)
      (Stands fun buffer position =>
        Serves Buffer.flag Slots.flag listed.carried listed.visits buffer position ∧
          buffer.requiredText "flag.key" position 4 = .ok listed.key) := by
  rw [Builder.flag, numberUnless_eq, numberUnless_eq, numberUnless_eq, int64Slot_eq]
  refine (text_outcome sound listed.key).bind fun _ key sound _ keyStands => ?_
  refine vectorOf_bind sound (fun variation _ _ sound => variation_outcome sound variation)
    fun _ variations sound grown variationsStand => ?_
  have keyStands := keyStands.extend grown
  refine vectorOf_bind sound (fun allocation _ _ sound => allocation_outcome sound allocation)
    fun after allocations sound grown allocationsStand => ?_
  have keyStands := keyStands.extend grown
  have variationsStand := variationsStand.extend grown
  have fit := fitting_flagFields listed keyStands.1 variationsStand.1 allocationsStand.1
  show Outcome after (table (flagFields listed key variations allocations)) _
  refine table_outcome sound (fit.fieldsFit (by decide))
    fun buffer completed position isTable => ?_
  have isKey := keyStands.2 buffer completed
  obtain ⟨variationTargets, areVariations, readVariations, variationCosts⟩ :=
    vectorOf_serves (variationsStand.2 buffer completed)
  obtain ⟨allocationTargets, areAllocations, readAllocations, allocationCosts⟩ :=
    vectorOf_results (allocationsStand.2 buffer completed)
  rw [List.map_id'] at readVariations
  exact ⟨⟨flag_reads isTable isKey areVariations readVariations areAllocations readAllocations,
    flag_costs isTable isKey areVariations variationCosts areAllocations allocationCosts⟩,
    flagKey_reads isTable isKey⟩

end Builder

end FeatureFlags
