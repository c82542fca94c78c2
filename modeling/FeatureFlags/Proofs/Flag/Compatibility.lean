import FeatureFlags.Flag.Json
import FeatureFlags.Proofs.Flag.FirstMatch
import FeatureFlags.Proofs.Json.Contexts
import FeatureFlags.Proofs.Json.Documents

/-!
**The JSON form of flags may grow.**

A reader of flags passes over what it does not know. Members with unknown names can be put into any
record of a flag, and no reader of a record around it sees them. A condition with an unknown operator
is read with an operator that never holds, and nothing else of the flag is read otherwise.

* `FlagPart`, `FlagPart.Within`: the records of a flag, and their places in its JSON form.
* `FlagPart.Within.read?_congr`: flags with parts that are read alike are read alike.
* `Flag.exists_condition_place`: what is read of a flag with another condition at one place.
* `Flag.evaluate_withCondition`: conditions that hold alike may stand for each other.
* `Flag.json_is_forward_compatible`: unknown members, and unknown operators.
-/

namespace FeatureFlags

open Document

/-! ### The parts of flags -/

/-- The records in the JSON form of a flag. -/
inductive FlagPart where
  | flag
  | variation
  | allocation
  | rule
  | condition
  | split
  | shard
  | range

namespace FlagPart

/-- The names of the fields of a part. -/
def names : FlagPart → List String
  | flag => Flag.fieldNames
  | variation => ["key", "value"]
  | allocation => ["key", "rules", "startAt", "endAt", "splits", "doLog"]
  | rule => ["conditions"]
  | condition => ["operator", "attribute", "value"]
  | split => ["shards", "variationKey", "extraLogging"]
  | shard => ["salt", "ranges"]
  | range => ["start", "end"]

/-- What a part is read as. -/
def Content : FlagPart → Type
  | flag => Flag
  | variation => Variation
  | allocation => Allocation
  | rule => Rule
  | condition => Condition
  | split => Split
  | shard => Shard
  | range => ShardRange

/-- The reader of a part. -/
def read? : (part : FlagPart) → Nat → Document → Option part.Content
  | flag => Flag.read?
  | variation => Variation.read?
  | allocation => Allocation.read?
  | rule => Rule.read?
  | condition => Condition.read?
  | split => Split.read?
  | shard => Shard.read?
  | range => ShardRange.read?

/-- The fields of parts that hold other parts. -/
inductive Holds : FlagPart → String → Holding → FlagPart → Prop
  | variations : Holds flag "variations" .map variation
  | allocations : Holds flag "allocations" .list allocation
  | rules : Holds allocation "rules" .list rule
  | conditions : Holds rule "conditions" .list condition
  | splits : Holds allocation "splits" .list split
  | shards : Holds split "shards" .list shard
  | ranges : Holds shard "ranges" .list range

/-- The documents of a flag with some value in the place of a part. The place is given by the counts
of the entries around it, from the inside out. -/
inductive Within : FlagPart → List Nat → (Document → Document) → Prop
  | whole : Within flag [] fun hole => hole
  | deeper {outer inner : FlagPart} {name : String} {holding : Holding} {path : List Nat}
      {index : Nat} {fill field entry : Document → Document} (outside : Within outer path fill)
      (holds : Holds outer name holding inner) (isField : FieldPlace outer.names name field)
      (isEntry : EntryPlace holding index entry) :
      Within inner (index :: path) fun hole => fill (field (entry hole))

variable {part outer inner : FlagPart} {path : List Nat} {fill : Document → Document}

/-- A part in a flag is a part of the document. -/
theorem Within.hasPart (within : Within part path fill) (document : Document) :
    (fill document).HasPart document fill := by
  induction within generalizing document with
  | whole => exact hasPart_self document
  | deeper outside holds isField isEntry ih =>
    exact (ih _).trans ((isField.hasPart _).trans (isEntry.hasPart document))

/-! ### Parts that are read alike -/

theorem nodup_names (part : FlagPart) : part.names.Nodup := by
  cases part <;> decide

theorem Holds.isField {name : String} {holding : Holding} (holds : Holds outer name holding inner) :
    name ∈ outer.names := by
  cases holds <;> decide

/-- A part is read by the fields of its record, and by nothing else. -/
theorem read?_of_readRecord? {first second : Document} {level : Nat}
    (same : second.readRecord? part.names level = first.readRecord? part.names level) :
    part.read? level second = part.read? level first := by
  -- every reader starts with the record of its fields
  cases part <;> exact congrArg (Option.bind · _) same

/-- **A part is read alike if the parts that it holds are.** -/
theorem Holds.read?_congr {name : String} {holding : Holding} {index : Nat}
    {field entry : Document → Document} {old new : Document}
    (holds : Holds outer name holding inner) (isField : FieldPlace outer.names name field)
    (isEntry : EntryPlace holding index entry)
    (same : ∀ level, inner.read? level new = inner.read? level old) (level : Nat) :
    outer.read? level (field (entry new)) = outer.read? level (field (entry old)) := by
  obtain ⟨isNone, isNone'⟩ | ⟨first, second, isFirst, isSecond, swaps⟩ :=
    isField.readRecord? holds.isField outer.nodup_names level (entry old) (entry new)
  · exact read?_of_readRecord? (isNone'.trans isNone.symm)
  -- the field that holds the part is read alike, and the others are the same
  cases holds <;> simp only [names] at isFirst isSecond
  case variations =>
    have alike : second.require "variations" (fun level => readDict? level Variation.read?) =
        first.require "variations" fun level => readDict? level Variation.read? :=
      swaps.require_same (isEntry.read?_congr same first.level)
    show Flag.read? level (field (entry new)) = Flag.read? level (field (entry old))
    simp (disch := decide) only [Flag.read?, isFirst, isSecond, Option.bind_eq_bind,
      Option.bind_some, swaps.require_other, swaps.nullable_other, alike]
  case allocations =>
    have alike : second.require "allocations" (fun level => readList? level Allocation.read?) =
        first.require "allocations" fun level => readList? level Allocation.read? :=
      swaps.require_same (isEntry.read?_congr same first.level)
    show Flag.read? level (field (entry new)) = Flag.read? level (field (entry old))
    simp (disch := decide) only [Flag.read?, isFirst, isSecond, Option.bind_eq_bind,
      Option.bind_some, swaps.require_other, swaps.nullable_other, alike]
  case rules =>
    have alike : second.optional "rules" [] (fun level => readList? level Rule.read?) =
        first.optional "rules" [] fun level => readList? level Rule.read? :=
      swaps.optional_same [] (isEntry.read?_congr same first.level)
    show Allocation.read? level (field (entry new)) = Allocation.read? level (field (entry old))
    simp (disch := decide) only [Allocation.read?, isFirst, isSecond, Option.bind_eq_bind,
      Option.bind_some, swaps.require_other, swaps.nullable_other, swaps.optional_other, alike]
  case conditions =>
    have alike : second.require "conditions" (fun level => readList? level Condition.read?) =
        first.require "conditions" fun level => readList? level Condition.read? :=
      swaps.require_same (isEntry.read?_congr same first.level)
    show Rule.read? level (field (entry new)) = Rule.read? level (field (entry old))
    simp only [Rule.read?, isFirst, isSecond, Option.bind_eq_bind, Option.bind_some, alike]
  case splits =>
    have alike : second.require "splits" (fun level => readList? level Split.read?) =
        first.require "splits" fun level => readList? level Split.read? :=
      swaps.require_same (isEntry.read?_congr same first.level)
    show Allocation.read? level (field (entry new)) = Allocation.read? level (field (entry old))
    simp (disch := decide) only [Allocation.read?, isFirst, isSecond, Option.bind_eq_bind,
      Option.bind_some, swaps.require_other, swaps.nullable_other, swaps.optional_other, alike]
  case shards =>
    have alike : second.optional "shards" [] (fun level => readList? level Shard.read?) =
        first.optional "shards" [] fun level => readList? level Shard.read? :=
      swaps.optional_same [] (isEntry.read?_congr same first.level)
    show Split.read? level (field (entry new)) = Split.read? level (field (entry old))
    simp (disch := decide) only [Split.read?, isFirst, isSecond, Option.bind_eq_bind,
      Option.bind_some, swaps.require_other, swaps.optional_other, alike]
  case ranges =>
    have alike : second.require "ranges" (fun level => readList? level ShardRange.read?) =
        first.require "ranges" fun level => readList? level ShardRange.read? :=
      swaps.require_same (isEntry.read?_congr same first.level)
    show Shard.read? level (field (entry new)) = Shard.read? level (field (entry old))
    simp (disch := decide) only [Shard.read?, isFirst, isSecond, Option.bind_eq_bind,
      Option.bind_some, swaps.require_other, alike]

/-- **A flag is read alike if one of its parts is**, wherever the part stands. -/
theorem Within.read?_congr (within : Within part path fill) {old new : Document}
    (same : ∀ level, part.read? level new = part.read? level old) (level : Nat) :
    Flag.read? level (fill new) = Flag.read? level (fill old) := by
  induction within generalizing old new level with
  | whole => exact same level
  | deeper outside holds isField isEntry ih =>
    exact ih (fun level => holds.read?_congr isField isEntry same level) level

/-- **A member with an unknown name is not seen by the reader of a flag**, in whichever part. -/
theorem Within.read?_insert (within : Within part path fill) {key : Octets} {name : String}
    (isName : stringText? key = some name) (unknown : name ∉ part.names) (value : Document)
    (front back : List (Octets × Document)) (level : Nat) :
    Flag.read? level (fill (.object (front ++ (key, value) :: back))) =
      Flag.read? level (fill (.object (front ++ back))) :=
  within.read?_congr (fun level =>
    part.read?_of_readRecord? (readRecord?_insert isName unknown value front back level)) level

end FlagPart

/-! ### Another condition at one place -/

/-- A rule with another condition. -/
def Rule.withCondition (rule : Rule) (index : Nat) (condition : Condition) : Rule :=
  { rule with conditions := rule.conditions.modify index fun _ => condition }

/-- An allocation with another condition in one of its rules. -/
def Allocation.withCondition (allocation : Allocation) (second third : Nat)
    (condition : Condition) : Allocation :=
  { allocation with
    rules := allocation.rules.modify second fun rule => rule.withCondition third condition }

namespace Flag

/-- The condition at a place, which is told by the counts of the allocation, of the rule and of the
condition. -/
def condition? (flag : Flag) (first second third : Nat) : Option Condition := do
  let allocation ← flag.allocations[first]?
  let rule ← allocation.rules[second]?
  rule.conditions[third]?

/-- The flag with another condition at a place. -/
def withCondition (flag : Flag) (first second third : Nat) (condition : Condition) : Flag :=
  { flag with
    allocations := flag.allocations.modify first fun allocation =>
      allocation.withCondition second third condition }

end Flag

/-! #### How it is read -/

section Reading

variable {level index : Nat} {document : Document}

/-- A condition of a rule has its place, and what is read of the rule is changed with it. -/
theorem Rule.exists_condition {rule : Rule} {condition : Condition}
    (isRule : Rule.read? level document = some rule)
    (isCondition : rule.conditions[index]? = some condition) :
    ∃ inner field entry old, FieldPlace FlagPart.rule.names "conditions" field ∧
      EntryPlace .list index entry ∧ document = field (entry old) ∧
      Condition.read? inner old = some condition ∧
      ∀ {new : Document} {change : Condition → Condition},
        Condition.read? inner new = some (change condition) →
        Rule.read? level (field (entry new)) =
          some { rule with conditions := rule.conditions.modify index change } := by
  obtain ⟨record, isRecord, found⟩ := Option.bind_eq_some_iff.mp isRule
  obtain ⟨conditions, areConditions, same⟩ := Option.bind_eq_some_iff.mp found
  cases same
  obtain ⟨field, entry, old, isField, isEntry, rfl, isRead, replace⟩ :=
    exists_listed_part (by decide) (by decide) isRecord areConditions isCondition
  refine ⟨_, field, entry, old, isField, isEntry, rfl, isRead, fun isOther => ?_⟩
  obtain ⟨changed, isChanged, swaps, areChanged⟩ := replace isOther
  simp only [Rule.read?, isChanged, swaps.require_new, areChanged, Option.bind_eq_bind,
    Option.bind_some, Option.pure_def]

/-- A rule of an allocation has its place, and what is read of the allocation is changed with it. -/
theorem Allocation.exists_rule {allocation : Allocation} {rule : Rule}
    (isAllocation : Allocation.read? level document = some allocation)
    (isRule : allocation.rules[index]? = some rule) :
    ∃ inner field entry old, FieldPlace FlagPart.allocation.names "rules" field ∧
      EntryPlace .list index entry ∧ document = field (entry old) ∧
      Rule.read? inner old = some rule ∧
      ∀ {new : Document} {change : Rule → Rule}, Rule.read? inner new = some (change rule) →
        Allocation.read? level (field (entry new)) =
          some { allocation with rules := allocation.rules.modify index change } := by
  obtain ⟨record, isRecord, found⟩ := Option.bind_eq_some_iff.mp isAllocation
  obtain ⟨key, isKey, found⟩ := Option.bind_eq_some_iff.mp found
  obtain ⟨rules, areRules, found⟩ := Option.bind_eq_some_iff.mp found
  obtain ⟨startAt, isStart, found⟩ := Option.bind_eq_some_iff.mp found
  obtain ⟨endAt, isEnd, found⟩ := Option.bind_eq_some_iff.mp found
  obtain ⟨splits, areSplits, found⟩ := Option.bind_eq_some_iff.mp found
  obtain ⟨doLog, isLogged, same⟩ := Option.bind_eq_some_iff.mp found
  cases same
  obtain ⟨field, entry, old, isField, isEntry, rfl, isRead, replace⟩ :=
    exists_listed_part (by decide) (by decide) isRecord
      (Record.require_of_optional areRules isRule) isRule
  refine ⟨_, field, entry, old, isField, isEntry, rfl, isRead, fun isOther => ?_⟩
  obtain ⟨changed, isChanged, swaps, areChanged⟩ := replace isOther
  simp (disch := decide) only [Allocation.read?, isChanged, swaps.require_other,
    swaps.nullable_other, swaps.optional_other, swaps.optional_new, areChanged, isKey, isStart,
    isEnd, areSplits, isLogged, Option.bind_eq_bind, Option.bind_some, Option.pure_def]

namespace Flag

/-- An allocation of a flag has its place, and what is read of the flag is changed with it. -/
theorem exists_allocation {flag : Flag} {allocation : Allocation}
    (isFlag : read? level document = some flag)
    (isAllocation : flag.allocations[index]? = some allocation) :
    ∃ inner field entry old, FieldPlace fieldNames "allocations" field ∧
      EntryPlace .list index entry ∧ document = field (entry old) ∧
      Allocation.read? inner old = some allocation ∧
      ∀ {new : Document} {change : Allocation → Allocation},
        Allocation.read? inner new = some (change allocation) →
        read? level (field (entry new)) =
          some { flag with allocations := flag.allocations.modify index change } := by
  obtain ⟨record, isRecord, found⟩ := Option.bind_eq_some_iff.mp isFlag
  obtain ⟨key, isKey, found⟩ := Option.bind_eq_some_iff.mp found
  obtain ⟨enabled, isEnabled, found⟩ := Option.bind_eq_some_iff.mp found
  obtain ⟨type, isType, found⟩ := Option.bind_eq_some_iff.mp found
  obtain ⟨variations, areVariations, found⟩ := Option.bind_eq_some_iff.mp found
  obtain ⟨allocations, areAllocations, found⟩ := Option.bind_eq_some_iff.mp found
  obtain ⟨total, isTotal, found⟩ := Option.bind_eq_some_iff.mp found
  obtain ⟨entity, isEntity, same⟩ := Option.bind_eq_some_iff.mp found
  cases same
  obtain ⟨field, entry, old, isField, isEntry, rfl, isRead, replace⟩ :=
    exists_listed_part (by decide) (by decide) isRecord areAllocations isAllocation
  refine ⟨_, field, entry, old, isField, isEntry, rfl, isRead, fun isOther => ?_⟩
  obtain ⟨changed, isChanged, swaps, areChanged⟩ := replace isOther
  simp (disch := decide) only [read?, isChanged, swaps.require_other, swaps.nullable_other,
    swaps.require_new, areChanged, isKey, isEnabled, isType, areVariations, isTotal, isEntity,
    Option.bind_eq_bind, Option.bind_some, Option.pure_def]

/-- **A condition of a flag has its place**, and what is read of the flag is changed with it. -/
theorem exists_condition_place {flag : Flag} {condition : Condition} {first second third : Nat}
    (isFlag : read? level document = some flag)
    (isCondition : flag.condition? first second third = some condition) :
    ∃ inner fill old, FlagPart.condition.Within [third, second, first] fill ∧
      document = fill old ∧ Condition.read? inner old = some condition ∧
      ∀ {new : Document} {other : Condition}, Condition.read? inner new = some other →
        read? level (fill new) = some (flag.withCondition first second third other) := by
  obtain ⟨allocation, isAllocation, found⟩ := Option.bind_eq_some_iff.mp isCondition
  obtain ⟨rule, isRule, isCondition⟩ := Option.bind_eq_some_iff.mp found
  obtain ⟨_, _, _, _, allocations, firstPlace, rfl, readAllocation, replaceAllocation⟩ :=
    exists_allocation isFlag isAllocation
  obtain ⟨_, _, _, _, rules, secondPlace, rfl, readRule, replaceRule⟩ :=
    Allocation.exists_rule readAllocation isRule
  obtain ⟨inner, _, _, old, conditions, thirdPlace, rfl, readCondition, replaceCondition⟩ :=
    Rule.exists_condition readRule isCondition
  have inFlag := FlagPart.Within.deeper .whole .allocations allocations firstPlace
  have inAllocation := inFlag.deeper .rules rules secondPlace
  have inRule := inAllocation.deeper .conditions conditions thirdPlace
  refine ⟨inner, _, old, inRule, rfl, readCondition, fun {new other} isOther => ?_⟩
  have changed : Condition.read? inner new = some ((fun _ => other) condition) := isOther
  exact replaceAllocation (replaceRule (replaceCondition changed))

end Flag

/-- **The operator of a condition has its place**, and another name there leaves the rest of the
condition. -/
theorem Condition.exists_operator {condition : Condition}
    (isCondition : Condition.read? level document = some condition) :
    ∃ field raw name, FieldPlace FlagPart.condition.names "operator" field ∧
      document = field (.string raw) ∧ stringText? raw = some name ∧
      condition.operator = .ofName name ∧
      ∀ {raw name}, stringText? raw = some name →
        Condition.read? level (field (.string raw)) =
          some { condition with operator := .ofName name } := by
  obtain ⟨record, isRecord, found⟩ := Option.bind_eq_some_iff.mp isCondition
  obtain ⟨operator, isOperator, found⟩ := Option.bind_eq_some_iff.mp found
  obtain ⟨attributeName, isAttribute, found⟩ := Option.bind_eq_some_iff.mp found
  obtain ⟨value, isValue, same⟩ := Option.bind_eq_some_iff.mp found
  cases same
  obtain ⟨written, isWritten, isText⟩ := Option.bind_eq_some_iff.mp isOperator
  cases written with
  | string raw =>
    obtain ⟨field, isField, rfl⟩ := exists_fieldPlace isRecord isWritten
    refine ⟨field, raw, operator, isField, rfl, isText, rfl, fun {raw name} isName => ?_⟩
    obtain ⟨changed, isChanged, swaps⟩ :=
      isField.exists_record (by decide) (by decide) isRecord (.string raw)
    simp (disch := decide) only [Condition.read?, isChanged, swaps.require_other,
      swaps.require_new, readString?, isName, isAttribute, isValue, Option.bind_eq_bind,
      Option.bind_some, Option.pure_def]
  | null | bool | number | array | object => cases isText

/-- A name that no operator has is not recognized. -/
theorem Operator.ofName_of_unknown {name : String}
    (unknown : ∀ operator ∈ Operator.known, operator.name ≠ name) :
    Operator.ofName name = .unrecognized := by
  have absent : (Operator.known.find? fun operator => operator.name == name) = none := by
    simpa using unknown
  rw [Operator.ofName, absent, Option.getD_none]

end Reading

/-! #### How it is evaluated -/

/-- Elements that look alike may stand for each other at a place. -/
theorem map_modify_congr {α β : Type} (view : α → β) {first second : α → α}
    (alike : ∀ item, view (first item) = view (second item)) (items : List α) (index : Nat) :
    (items.modify index first).map view = (items.modify index second).map view := by
  induction items generalizing index with
  | nil => simp only [List.modify_nil]
  | cons item items ih =>
    cases index with
    | zero => simp only [List.modify_zero_cons, List.map_cons, alike]
    | succ index => simp only [List.modify_succ_cons, List.map_cons, ih]

theorem all_modify_congr {α : Type} (test : α → Bool) {first second : α → α}
    (alike : ∀ item, test (first item) = test (second item)) (items : List α) (index : Nat) :
    (items.modify index first).all test = (items.modify index second).all test := by
  have answers := congrArg (List.all · id) (map_modify_congr test alike items index)
  simpa only [List.all_map, Function.id_comp] using answers

section Evaluating

variable {visit : Visit} {one other : Condition}

theorem Rule.holds_withCondition {attributes : Attributes}
    (alike : one.holds attributes = other.holds attributes) (rule : Rule) (third : Nat) :
    (rule.withCondition third one).holds attributes =
      (rule.withCondition third other).holds attributes :=
  all_modify_congr (fun condition : Condition => condition.holds attributes) (fun _ => alike)
    rule.conditions third

theorem Allocation.select_withCondition
    (alike : one.holds visit.attributes = other.holds visit.attributes) (allocation : Allocation)
    (second third : Nat) (total : UInt32) :
    (allocation.withCondition second third one).select total visit =
      (allocation.withCondition second third other).select total visit := by
  have answers := all_modify_congr (fun rule => Rule.holds rule visit.attributes)
    (fun rule => rule.holds_withCondition alike third) allocation.rules second
  simp only [Allocation.select, Allocation.withCondition, answers]
  rfl

theorem Allocation.isEmpty_rules_withCondition (allocation : Allocation) (second third : Nat)
    (condition : Condition) :
    (allocation.withCondition second third condition).rules.isEmpty =
      allocation.rules.isEmpty := by
  rw [Bool.eq_iff_iff, List.isEmpty_iff, List.isEmpty_iff]
  exact List.modify_eq_nil_iff

/-- Conditions that hold alike make an allocation contribute the same to answers. -/
theorem Allocation.gist_withCondition
    (alike : one.holds (Flag.identified visit).attributes =
      other.holds (Flag.identified visit).attributes) (allocation : Allocation)
    (second third : Nat) (total : UInt32) :
    ((allocation.withCondition second third one).candidate? total visit).map Flag.gist =
      ((allocation.withCondition second third other).candidate? total visit).map Flag.gist := by
  rw [candidate?, candidate?, allocation.select_withCondition alike]
  cases (allocation.withCondition second third other).select total (Flag.identified visit) with
  | error reason => rfl
  | ok split =>
    simp only [Option.map_some, Flag.gist, Flag.reasonOf, isEmpty_rules_withCondition]
    rfl

namespace Flag

/-- What is skipped depends on the keys of the allocations and on what they select. -/
theorem walk_congr {flag flag' : Flag} (total : flag'.totalShards = flag.totalShards)
    {allocations others : List Allocation}
    (same : (others.map fun allocation =>
        (allocation.key, allocation.select flag.totalShards (identified visit))) =
      allocations.map fun allocation =>
        (allocation.key, allocation.select flag.totalShards (identified visit))) :
    skipped.walk flag' visit others = skipped.walk flag visit allocations := by
  induction allocations generalizing others with
  | nil =>
    rw [List.map_eq_nil_iff.mp same]
    rfl
  | cons allocation allocations ih =>
    obtain ⟨head, rest, rfl, same, areRest⟩ := List.map_eq_cons_iff.mp same
    obtain ⟨key, selected⟩ := Prod.mk.inj same
    rw [skipped.walk, skipped.walk, total, selected, key, ih areRest]

variable (alike : one.holds (identified visit).attributes = other.holds (identified visit).attributes)
  (flag : Flag) (first second third : Nat)

include alike

theorem gist_withCondition :
    ((flag.withCondition first second third one).choice? visit).map gist =
      ((flag.withCondition first second third other).choice? visit).map gist := by
  have gists := map_modify_congr
    (fun allocation => (Allocation.candidate? allocation flag.totalShards visit).map gist)
    (fun allocation => allocation.gist_withCondition alike second third flag.totalShards)
    flag.allocations first
  have chosen := congrArg (List.findSome? id) gists
  simp only [List.findSome?_map, choice?_eq, List.map_findSome?] at chosen ⊢
  exact chosen

/-- **Conditions that hold alike may stand for each other** in a flag. -/
theorem evaluate_withCondition :
    (flag.withCondition first second third one).evaluate visit =
      (flag.withCondition first second third other).evaluate visit :=
  evaluate_of_gist rfl rfl (flag.gist_withCondition alike first second third) fun _ _ _ => rfl

theorem skipped_withCondition :
    (flag.withCondition first second third one).skipped visit =
      (flag.withCondition first second third other).skipped visit := by
  have total : (flag.withCondition first second third one).totalShards =
      (flag.withCondition first second third other).totalShards := rfl
  refine walk_congr total (map_modify_congr _ (fun allocation => ?_) flag.allocations first)
  rw [allocation.select_withCondition alike second third]
  rfl

/-- What is noted does not tell conditions apart that hold alike, either. -/
theorem evaluationNotices_withCondition :
    (flag.withCondition first second third one).evaluationNotices visit =
      (flag.withCondition first second third other).evaluationNotices visit := by
  have skips := flag.skipped_withCondition alike first second third
  have chosen := flag.gist_withCondition alike first second third
  unfold evaluationNotices
  rw [skips]
  cases isOne : (flag.withCondition first second third one).choice? visit with
  | none =>
    rw [isOne] at chosen
    rw [Option.map_eq_none_iff.mp chosen.symm]
    rfl
  | some choice =>
    rw [isOne] at chosen
    obtain ⟨choice', isOther, same⟩ := Option.map_eq_some_iff.mp chosen.symm
    simp only [gist, Prod.mk.injEq, Split.mk.injEq] at same
    rw [isOther]
    simp only [same]
    rfl

end Flag

end Evaluating

/-! ### Forward compatibility -/

/-- A member is written by its name and by any text of its value. -/
theorem spellsMember_of_read? (name : String) {written : String} {value : Document}
    (isValue : Document.read? (octetsOf written) = some value) :
    SpellsMember (escaped name) value.Spells (octetsOf (Json.quote name ++ ":" ++ written)) := by
  have colon : octetsOf ":" = [58] := by decide
  refine ⟨[], [], octetsOf written, areBlanks_nil, body_escaped name, areBlanks_nil,
    read?_eq_some_iff.mp isValue, ?_⟩
  simp [octetsOf_quote, colon]

/-- A condition with an operator that is not recognized. -/
def Condition.unknown (condition : Condition) : Condition :=
  { condition with operator := .unrecognized }

/-- Such a condition never holds. -/
theorem Condition.holds_unknown (condition : Condition) (attributes : Attributes) :
    condition.unknown.holds attributes = false := rfl

namespace Flag

/-- The text of a flag tells the document and the flag. -/
theorem read?_of_readText? {text : String} {flag : Flag} {document : Document}
    (isFlag : readText? text = some flag)
    (isDocument : Document.read? (octetsOf text) = some document) : read? 0 document = some flag := by
  obtain ⟨other, isOther, found⟩ := Option.bind_eq_some_iff.mp isFlag
  obtain rfl := Option.some.inj (isDocument.symm.trans isOther)
  exact found

theorem readText?_of_read? {text : String} {document : Document}
    (isDocument : Document.read? (octetsOf text) = some document) :
    readText? text = read? 0 document :=
  congrArg (Option.bind · (read? 0)) isDocument

/-- **The JSON form of flags may grow.**

Let the text of a flag be given, and in it any object that stands for a part of the flag: the flag,
a variation, an allocation, a rule, a condition, a split, shards or a range. Between any members of
the object there is a place in the text where a member can be put, parted by a comma from a
neighbour, whose name is none of the fields of the part and whose value is any document at all; the
longer text is read as the same flag. So is any other text with this member at this place.

The operator of each condition stands at a place in the text where any name of no operator can stand
instead. The text is then read as the flag in which the operator of this condition alone is not
recognized. The condition never holds, and the flag serves and notes the same as with any other
condition in its place that does not hold. -/
theorem json_is_forward_compatible :
    (∀ {text : String} {flag : Flag} {part : FlagPart} {path : List Nat}
        {fill : Document → Document} {front back : List (Octets × Document)},
      readText? text = some flag → part.Within path fill →
      Document.read? (octetsOf text) = some (fill (.object (front ++ back))) →
      (∀ {key : Octets} {name : String} {value : Document} {longer : String},
        stringText? key = some name → name ∉ part.names →
        Document.read? (octetsOf longer) =
          some (fill (.object (front ++ (key, value) :: back))) →
        readText? longer = some flag) ∧
      ∃ before after : String, text = before ++ after ∧
        ∀ {key : Octets} {name : String} {value : Document} {written : String},
          stringText? key = some name → name ∉ part.names →
          SpellsMember key value.Spells (octetsOf written) →
          Document.read? (octetsOf (before ++ joinedText front back written ++ after)) =
            some (fill (.object (front ++ (key, value) :: back))) ∧
          readText? (before ++ joinedText front back written ++ after) = some flag) ∧
    ∀ {text : String} {flag : Flag} {first second third : Nat} {condition : Condition},
      readText? text = some flag → flag.condition? first second third = some condition →
      (∃ before written after : String, text = before ++ written ++ after ∧
        (∃ raw name, (Document.string raw).Spells (octetsOf written) ∧
          stringText? raw = some name ∧ condition.operator = .ofName name) ∧
        ∀ {raw : Octets} {name new : String}, (Document.string raw).SpellsPadded (octetsOf new) →
          stringText? raw = some name → (∀ operator ∈ Operator.known, operator.name ≠ name) →
          readText? (before ++ new ++ after) =
            some (flag.withCondition first second third condition.unknown)) ∧
      ∀ visit : Visit, condition.unknown.holds (identified visit).attributes = false ∧
        ∀ other : Condition, other.holds (identified visit).attributes = false →
          (flag.withCondition first second third condition.unknown).evaluate visit =
            (flag.withCondition first second third other).evaluate visit ∧
          (flag.withCondition first second third condition.unknown).evaluationNotices visit =
            (flag.withCondition first second third other).evaluationNotices visit := by
  constructor
  · intro text flag part path fill front back isFlag within isDocument
    have passedOver {key : Octets} {name : String} {value : Document} {longer : String}
        (isName : stringText? key = some name) (unknown : name ∉ part.names)
        (isLonger : Document.read? (octetsOf longer) =
          some (fill (.object (front ++ (key, value) :: back)))) : readText? longer = some flag := by
      rw [readText?_of_read? isLonger, within.read?_insert isName unknown]
      exact read?_of_readText? isFlag isDocument
    obtain ⟨before, after, same, insert⟩ := (within.hasPart _).exists_text_gap isDocument
    refine ⟨passedOver, before, after, same, fun isName unknown isMember => ?_⟩
    exact ⟨insert isMember, passedOver isName unknown (insert isMember)⟩
  · intro text flag first second third condition isFlag isCondition
    constructor
    · obtain ⟨document, isDocument, isRead⟩ := Option.bind_eq_some_iff.mp isFlag
      obtain ⟨inner, fill, _, within, rfl, readCondition, replace⟩ :=
        exists_condition_place isRead isCondition
      obtain ⟨field, raw, name, isField, rfl, isName, isOperator, rename⟩ :=
        Condition.exists_operator readCondition
      have isPart := (within.hasPart _).trans (isField.hasPart (.string raw))
      obtain ⟨before, written, after, same, spelled, insert⟩ := isPart.exists_text_place isDocument
      refine ⟨before, written, after, same, ⟨raw, name, spelled, isName, isOperator⟩,
        fun padded isNew unknown => ?_⟩
      have isOther := rename isNew
      rw [Operator.ofName_of_unknown unknown] at isOther
      rw [readText?_of_read? (insert padded)]
      exact replace isOther
    · refine fun visit => ⟨condition.holds_unknown _, fun other fails => ?_⟩
      have alike : condition.unknown.holds (identified visit).attributes =
          other.holds (identified visit).attributes := (condition.holds_unknown _).trans fails.symm
      exact ⟨flag.evaluate_withCondition alike first second third,
        flag.evaluationNotices_withCondition alike first second third⟩

/-- The document of the launch with any value for its variations. -/
def launchDocument (variations : Document) : Document :=
  .object (Json.memberDocuments [("key", .string "launch"), ("enabled", .bool true),
      ("variationType", .string "STRING")] ++ (escaped "variations", variations) ::
    Json.memberDocuments [("allocations", .array (launch.allocations.map Allocation.toJson)),
      ("totalShards", .int launch.totalShards.toNat)])

/-- The document of its variations with any value for the first. -/
def launchVariations (variation : Document) : Document :=
  .object [(escaped "off", variation),
    (escaped "on", (Variation.toJson ⟨"on", .string "yes"⟩).document)]

theorem within_launch : FlagPart.variation.Within [0] fun hole =>
    launchDocument (launchVariations hole) := by
  have isField : FieldPlace FlagPart.flag.names "variations" launchDocument :=
    .member _ _ _ (stringText?_escaped "variations")
  have isEntry : EntryPlace .map 0 launchVariations := .entry [] _ _
  have place := FlagPart.Within.deeper .whole .variations isField isEntry
  exact place

/-- Who sees the launch may be asked by an operator of another time, and a variation may have a rank
that is out of range. -/
theorem json_is_forward_compatible_launch :
    (∃ before after : String, launch.toJson.render = before ++ after ∧
      readText? (before ++ "\"rank\":1e999," ++ after) = some launch) ∧
    ∃ before written after : String, launch.toJson.render = before ++ written ++ after ∧
      readText? (before ++ Json.quote "SOUNDS_LIKE" ++ after) =
        some (launch.withCondition 1 0 0 ⟨.unrecognized, "id", .multiple ["visitor"]⟩) ∧
      (launch.withCondition 1 0 0 ⟨.unrecognized, "id", .multiple ["visitor"]⟩).evaluate
        earlyVisit = .error .noAllocation := by
  have isLaunch : readText? launch.toJson.render = some launch := by decide +kernel
  obtain ⟨insert, replace⟩ := json_is_forward_compatible
  constructor
  · have isDocument : Document.read? (octetsOf launch.toJson.render) =
        some (launchDocument (launchVariations (.object ([(escaped "key", .string (escaped "off"))] ++
          [(escaped "value", .string (escaped "no"))])))) := read?_toOctets launch.toJson
    obtain ⟨_, before, after, same, longer⟩ := insert isLaunch within_launch isDocument
    obtain ⟨value, isValue⟩ := Option.isSome_iff_exists.mp
      (show (Document.read? (octetsOf "1e999")).isSome by decide +kernel)
    refine ⟨before, after, same, ?_⟩
    have rank : joinedText [(escaped "key", Document.string (escaped "off"))]
        [(escaped "value", Document.string (escaped "no"))] (Json.quote "rank" ++ ":" ++ "1e999") =
          "\"rank\":1e999," := by decide
    rw [← rank]
    exact (longer (stringText?_escaped "rank") (by decide)
      (spellsMember_of_read? "rank" isValue)).2
  · obtain ⟨⟨before, written, after, same, _, rename⟩, _⟩ :=
      replace isLaunch (show launch.condition? 1 0 0 = some _ from rfl)
    have spelled : (Document.string (escaped "SOUNDS_LIKE")).SpellsPadded
        (octetsOf (Json.quote "SOUNDS_LIKE")) := by
      rw [octetsOf_quote]
      exact Json.padded_of_spells ⟨body_escaped "SOUNDS_LIKE", rfl⟩
    refine ⟨before, written, after, same, ?_, by decide +kernel⟩
    exact rename spelled (stringText?_escaped _) (by decide)

end Flag

end FeatureFlags
