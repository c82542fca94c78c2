import FeatureFlags.Proofs.Flag.FirstMatch
import Mathlib.Data.List.Find

/-!
**A flag depends on nothing but what it mentions.**

A flag looks at a visit through its conditions, its shards and its windows. A condition finds the
value of one attribute and cannot tell a missing one from null, a shard finds the bucket into which
its salt puts the subject, and a window finds the side of its bounds on which the time lies. Two
visits of one subject that look alike in these respects are served the same, for the same reason, or
refused with the same error.

* `AttributeValue.Alike`: values that no condition can tell apart.
* `Flag.mentioned`, `Flag.salts`, `Flag.bounds`: the attributes of the conditions, the salts of the
  shards and the bounds of the windows.
* `Flag.SeesAlike`: visits that look alike to a flag.
* `Flag.SeesAlike.select_eq`: an allocation selects the same split, or is skipped for the same
  reason.
* `Flag.evaluate_eq_of_alike`: the answer of a flag, and what does not bear on it.
-/

namespace FeatureFlags

/-! ### What a flag looks at -/

namespace AttributeValue

/-- The value of an attribute, where there is one, is missing or null. -/
def IsVoid (value : Option AttributeValue) : Prop := value = none ∨ value = some .null

/-- What two subjects have for an attribute is the same value, or each of them has none or null. -/
def Alike (first second : Option AttributeValue) : Prop :=
  first = second ∨ IsVoid first ∧ IsVoid second

instance (first second : Option AttributeValue) : Decidable (Alike first second) :=
  inferInstanceAs (Decidable (_ ∨ (_ ∨ _) ∧ (_ ∨ _)))

end AttributeValue

namespace Flag

/-- The attributes that the conditions of a flag test. -/
def mentioned (flag : Flag) : List String :=
  flag.allocations.flatMap fun allocation => allocation.rules.flatMap fun rule =>
    rule.conditions.map Condition.attributeName

/-- The salts of the shards of a flag. -/
def salts (flag : Flag) : List String :=
  flag.allocations.flatMap fun allocation => allocation.splits.flatMap fun split =>
    split.shards.map Shard.salt

/-- The instants at which a window of a flag begins or ends. -/
def bounds (flag : Flag) : List Instant :=
  flag.allocations.flatMap fun allocation =>
    allocation.startAt.toList ++ allocation.endAt.toList

/-- Two visits of one subject look alike to a flag: the attributes that it mentions are alike, its
salts put the subject into the same buckets, the second visit is not before the first one, and no
window begins or ends after the first and not after the second. Buckets count only if there are
any. -/
structure SeesAlike (flag : Flag) (first second : Visit) : Prop where
  subject : second.subjectKey = first.subjectKey
  attributes : ∀ name ∈ flag.mentioned,
    AttributeValue.Alike (first.attribute? name) (second.attribute? name)
  buckets : flag.totalShards ≠ 0 → ∀ salt ∈ flag.salts,
    first.bucket flag.totalShards salt = second.bucket flag.totalShards salt
  later : ¬ second.now.before first.now
  windows : ∀ bound ∈ flag.bounds, ¬ (first.now.before bound ∧ ¬ second.now.before bound)

instance (flag : Flag) (first second : Visit) : Decidable (flag.SeesAlike first second) :=
  decidable_of_iff
    (second.subjectKey = first.subjectKey ∧
      (∀ name ∈ flag.mentioned,
        AttributeValue.Alike (first.attribute? name) (second.attribute? name)) ∧
      (flag.totalShards ≠ 0 → ∀ salt ∈ flag.salts,
        first.bucket flag.totalShards salt = second.bucket flag.totalShards salt) ∧
      ¬ second.now.before first.now ∧
      ∀ bound ∈ flag.bounds, ¬ (first.now.before bound ∧ ¬ second.now.before bound))
    ⟨fun ⟨subject, attributes, buckets, later, windows⟩ =>
        ⟨subject, attributes, buckets, later, windows⟩,
      fun alike => ⟨alike.subject, alike.attributes, alike.buckets, alike.later, alike.windows⟩⟩

end Flag

/-! ### Conditions -/

section Conditions

variable {first second : Option AttributeValue}

open AttributeValue (Alike IsVoid)

/-- A reader of attributes that has nothing for null has the same for values that are alike. -/
theorem AttributeValue.bind_of_alike {α : Type} {read? : AttributeValue → Option α}
    (null : read? .null = none) (alike : Alike first second) :
    first.bind read? = second.bind read? := by
  have void : ∀ value, IsVoid value → value.bind read? = none := by
    rintro value (missing | isNull)
    · rw [missing]
      rfl
    · rw [isNull]
      exact null
  rcases alike with same | ⟨voidFirst, voidSecond⟩
  · rw [same]
  · rw [void first voidFirst, void second voidSecond]

theorem matchTest?_of_alike (expected : ConditionValue) (alike : Alike first second) :
    matchTest? first expected = matchTest? second expected := by
  have void : ∀ value, IsVoid value → matchTest? value expected = none := by
    rintro value (missing | isNull)
    · rw [missing]
      rfl
    · rw [isNull]
      rfl
  rcases alike with same | ⟨voidFirst, voidSecond⟩
  · rw [same]
  · rw [void first voidFirst, void second voidSecond]

theorem oneOfTest?_of_alike (expected : ConditionValue) (alike : Alike first second) :
    oneOfTest? first expected = oneOfTest? second expected := by
  have texts : first.bind AttributeValue.lookupText? = second.bind AttributeValue.lookupText? :=
    AttributeValue.bind_of_alike rfl alike
  unfold oneOfTest?
  rw [texts]

theorem nullTest?_of_alike (expected : ConditionValue) (alike : Alike first second) :
    nullTest? first expected = nullTest? second expected := by
  have void : ∀ value, IsVoid value → (value == none || value == some .null) = true := by
    rintro value (missing | isNull)
    · rw [missing]
      rfl
    · rw [isNull]
      rfl
  have same : (first == none || first == some .null) =
      (second == none || second == some .null) := by
    rcases alike with same | ⟨voidFirst, voidSecond⟩
    · rw [same]
    · rw [void first voidFirst, void second voidSecond]
  unfold nullTest?
  rw [same]

theorem orderTest?_of_alike (expected : ConditionValue) (alike : Alike first second) :
    orderTest? first expected = orderTest? second expected := by
  have texts : first.bind AttributeValue.text? = second.bind AttributeValue.text? :=
    AttributeValue.bind_of_alike rfl alike
  have magnitudes : first.bind AttributeValue.magnitude? =
      second.bind AttributeValue.magnitude? :=
    AttributeValue.bind_of_alike rfl alike
  unfold orderTest?
  rw [texts, magnitudes]

/-- **No operator tells values apart that are alike.** -/
theorem Operator.outcome?_of_alike (operator : Operator) (expected : ConditionValue)
    (alike : Alike first second) :
    operator.outcome? first expected = operator.outcome? second expected := by
  have matched := matchTest?_of_alike expected alike
  have listed := oneOfTest?_of_alike expected alike
  have void := nullTest?_of_alike expected alike
  have ordered := orderTest?_of_alike expected alike
  unfold outcome?
  rw [matched, listed, void, ordered]

end Conditions

/-! ### Allocations -/

/-- Of two times the earlier one lies before whatever the later one lies before. -/
theorem Instant.before_of_before {first second bound : Instant} (later : ¬ second.before first)
    (before : second.before bound) : first.before bound := by
  simp only [Instant.before, Bool.or_eq_true, Bool.and_eq_true, decide_eq_true_eq, beq_iff_eq,
    not_or, not_and, not_lt] at *
  omega

namespace Flag.SeesAlike

variable {flag : Flag} {first second : Visit} {allocation : Allocation}

/-- Both times lie on the same side of every bound. -/
theorem before_eq (alike : flag.SeesAlike first second) {bound : Instant}
    (isBound : bound ∈ flag.bounds) : first.now.before bound = second.now.before bound := by
  have unpassed := alike.windows bound isBound
  by_cases early : second.now.before bound
  · rw [early, Instant.before_of_before alike.later early]
  · rw [Bool.eq_false_iff.mpr early]
    exact Bool.eq_false_iff.mpr fun before => unpassed ⟨before, early⟩

/-- Either both times are in a window or neither is. -/
theorem any_eq (alike : flag.SeesAlike first second) {window : Option Instant}
    (bounds : ∀ bound ∈ window, bound ∈ flag.bounds) (test : Bool → Bool) :
    (window.any fun bound => test (first.now.before bound)) =
      window.any fun bound => test (second.now.before bound) := by
  cases window with
  | none => rfl
  | some bound => exact congrArg test (alike.before_eq (bounds bound rfl))

theorem rules_eq (alike : flag.SeesAlike first second) (inside : allocation ∈ flag.allocations) :
    (allocation.rules.all fun rule => rule.holds (identified first).attributes) =
      allocation.rules.all fun rule => rule.holds (identified second).attributes := by
  rw [Bool.eq_iff_iff, List.all_eq_true, List.all_eq_true]
  refine forall₂_congr fun rule isRule => ?_
  unfold Rule.holds
  rw [List.all_eq_true, List.all_eq_true]
  refine forall₂_congr fun condition isCondition => ?_
  have mentions : condition.attributeName ∈ flag.mentioned :=
    List.mem_flatMap.mpr ⟨allocation, inside, List.mem_flatMap.mpr ⟨rule, isRule,
      List.mem_map.mpr ⟨condition, isCondition, rfl⟩⟩⟩
  unfold Condition.holds Condition.outcome?
  rw [Visit.get?_identified, Visit.get?_identified,
    condition.operator.outcome?_of_alike condition.value (alike.attributes _ mentions)]

theorem serves_eq (alike : flag.SeesAlike first second) (inside : allocation ∈ flag.allocations)
    {split : Split} (isSplit : split ∈ allocation.splits) :
    split.serves first.sharder flag.totalShards first.subjectKey =
      split.serves second.sharder flag.totalShards second.subjectKey := by
  unfold Split.serves
  rw [Bool.eq_iff_iff, List.all_eq_true, List.all_eq_true]
  refine forall₂_congr fun shard isShard => ?_
  unfold Shard.serves ShardRange.serves shardInput
  by_cases none : flag.totalShards = 0
  · simp [none]
  · have salted : shard.salt ∈ flag.salts :=
      List.mem_flatMap.mpr ⟨allocation, inside, List.mem_flatMap.mpr ⟨split, isSplit,
        List.mem_map.mpr ⟨shard, isShard, rfl⟩⟩⟩
    have bucket := alike.buckets none shard.salt salted
    unfold Visit.bucket at bucket
    rw [bucket]

/-- **An allocation selects the same split for visits that look alike**, or is skipped for the same
reason. -/
theorem select_eq (alike : flag.SeesAlike first second) (inside : allocation ∈ flag.allocations) :
    allocation.select flag.totalShards (identified first) =
      allocation.select flag.totalShards (identified second) := by
  have bounds : ∀ bound ∈ allocation.startAt.toList ++ allocation.endAt.toList,
      bound ∈ flag.bounds := fun bound isBound =>
    List.mem_flatMap.mpr ⟨allocation, inside, isBound⟩
  have starts : (allocation.startAt.any fun bound => id (first.now.before bound)) = _ :=
    alike.any_eq (fun bound isBound => bounds bound
      (List.mem_append_left _ (Option.mem_toList.mpr isBound))) id
  have ends : (allocation.endAt.any fun bound => not (first.now.before bound)) = _ :=
    alike.any_eq (fun bound isBound => bounds bound
      (List.mem_append_right _ (Option.mem_toList.mpr isBound))) not
  have splits : (allocation.splits.find? fun split =>
        split.serves first.sharder flag.totalShards first.subjectKey) =
      allocation.splits.find? fun split =>
        split.serves second.sharder flag.totalShards second.subjectKey :=
    List.find?_congr fun split isSplit => alike.serves_eq inside isSplit
  have rules := alike.rules_eq inside
  simp only [id, identified] at starts ends splits rules
  simp only [Allocation.select, identified, starts, ends, splits, rules]
  rfl

end Flag.SeesAlike

/-! ### Flags -/

namespace Flag

variable {flag : Flag} {first second : Visit}

theorem SeesAlike.choice?_eq (alike : flag.SeesAlike first second) :
    flag.choice? first = flag.choice? second := by
  unfold choice?
  rw [← List.head?_filterMap, ← List.head?_filterMap]
  refine congrArg List.head? (List.filterMap_congr fun allocation inside => ?_)
  rw [alike.select_eq inside]

/-- An attribute is found as before if it is kept, and so is the subject's key. -/
theorem attribute?_of_get? {visit : Visit} {attributes : Attributes} {name : String}
    (kept : attributes.get? name = visit.attributes.get? name) :
    ({ visit with attributes } : Visit).attribute? name = visit.attribute? name := by
  unfold Visit.attribute?
  rw [kept]

theorem evaluate_of_alike (alike : flag.SeesAlike first second) :
    flag.evaluate first = flag.evaluate second := by
  unfold evaluate
  rw [alike.choice?_eq]

/-- A visit looks like itself with other attributes, if those that are mentioned are alike. -/
theorem seesAlike_of_attributes {visit : Visit} {attributes : Attributes}
    (alike : ∀ name ∈ flag.mentioned,
      AttributeValue.Alike (({ visit with attributes } : Visit).attribute? name)
        (visit.attribute? name)) :
    flag.SeesAlike { visit with attributes } visit where
  subject := rfl
  attributes := alike
  buckets _ _ _ := rfl
  later := by simp [Instant.before]
  windows _ _ := fun ⟨before, passed⟩ => passed before

/-- **What a flag does not mention does not bear on its answer.**

Visits that look alike are answered alike: with the same value, keys, extra logging and reason, or
with the same error. So the attributes that no condition tests may be anything, an attribute other
than the subject's `id` may be null or missing, and the answer changes in the course of time only
where a window begins or ends. -/
theorem evaluate_eq_of_alike (flag : Flag) :
    (∀ first second, flag.SeesAlike first second → flag.evaluate first = flag.evaluate second) ∧
    (∀ (visit : Visit) (attributes : Attributes),
      (∀ name ∈ flag.mentioned, attributes.get? name = visit.attributes.get? name) →
        flag.evaluate { visit with attributes } = flag.evaluate visit) ∧
    (∀ (visit : Visit) (name : String), name ≠ "id" → visit.attributes.get? name = none →
      flag.evaluate { visit with attributes := visit.attributes.insert name .null } =
        flag.evaluate visit) ∧
    ∀ (visit : Visit) (now : Instant), ¬ now.before visit.now →
      (∀ bound ∈ flag.bounds, ¬ (visit.now.before bound ∧ ¬ now.before bound)) →
        flag.evaluate { visit with now } = flag.evaluate visit := by
  refine ⟨fun first second => evaluate_of_alike, fun visit attributes kept => ?_,
    fun visit name other missing => ?_, fun visit now later windows => ?_⟩
  · exact evaluate_of_alike (seesAlike_of_attributes fun name mentions =>
      .inl (attribute?_of_get? (kept name mentions)))
  · refine evaluate_of_alike (seesAlike_of_attributes fun tested _ => ?_)
    by_cases same : tested = name
    · subst same
      refine .inr ⟨.inr ?_, .inl ?_⟩
      · simp [Visit.attribute?]
      · simp [Visit.attribute?, missing, other]
    · refine .inl (attribute?_of_get? ?_)
      rw [Dict.get?_insert, if_neg same]
  · have alike : flag.SeesAlike visit { visit with now } :=
      ⟨rfl, fun _ _ => .inl rfl, fun _ _ _ => rfl, later, windows⟩
    exact (evaluate_of_alike alike).symm

/-! ### Two visits that look alike -/

/-- A flag for one country and for subjects without a plan, with a window and a shard. -/
def abroad : Flag :=
  { launch with allocations :=
    [⟨"abroad",
      [⟨[⟨.oneOf, "country", .multiple ["CH"]⟩]⟩,
        ⟨[⟨.isNull, "plan", .single (.boolean true)⟩]⟩],
      some ⟨1700000000, 0⟩, some ⟨1800000000, 0⟩,
      [⟨[⟨"abroad", [⟨0, 9000⟩]⟩], "on", Dict.empty⟩], true⟩] }

/-- A sharder that agrees with the digest on one text. -/
def narrowSharder : Sharder := fun input total =>
  if input = octetsOf "abroad-visitor" then digestSharder input total else 0

/-- A visit when the window begins. -/
def firstVisit : Visit :=
  ⟨digestSharder, "visitor", ⟨[("age", .number .zero), ("country", .string "CH")], by decide⟩,
    ⟨1700000000, 0⟩⟩

/-- A visit just before the window ends. -/
def lastVisit : Visit :=
  ⟨narrowSharder, "visitor", ⟨[("country", .string "CH"), ("plan", .null)], by decide⟩,
    ⟨1799999999, 999999999⟩⟩

theorem evaluate_eq_of_alike_abroad :
    abroad.SeesAlike firstVisit lastVisit ∧
    abroad.evaluate firstVisit = abroad.evaluate lastVisit ∧
    (abroad.evaluate firstVisit).toOption.isSome ∧
    abroad.evaluate { firstVisit with attributes := ⟨[("country", .string "CH")], by decide⟩ } =
      abroad.evaluate firstVisit ∧
    abroad.evaluate
      { firstVisit with attributes := firstVisit.attributes.insert "plan" .null } =
        abroad.evaluate firstVisit ∧
    abroad.evaluate { firstVisit with now := lastVisit.now } = abroad.evaluate firstVisit := by
  obtain ⟨alike, unmentioned, void, time⟩ := evaluate_eq_of_alike abroad
  have looksAlike : abroad.SeesAlike firstVisit lastVisit := by decide +kernel
  refine ⟨looksAlike, alike _ _ looksAlike, by decide +kernel, ?_, ?_, ?_⟩
  · exact unmentioned firstVisit _ (by decide +kernel)
  · exact void firstVisit "plan" (by decide) (by decide +kernel)
  · exact time firstVisit lastVisit.now looksAlike.later looksAlike.windows

end Flag

end FeatureFlags
