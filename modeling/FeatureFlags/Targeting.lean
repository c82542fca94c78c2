import FeatureFlags.Attributes
import FeatureFlags.Pattern.Reader
import FeatureFlags.Version

/-!
**Whether a subject satisfies the rules of an allocation.**

A condition tests one attribute. A test has an answer only where the attribute and the value of the
condition are of a kind that the operator can compare; a test without an answer fails, also when it
is a negation.

* `Condition.outcome?`: the answer of a test.
* `Condition.holds`, `Rule.holds`: whether a test, or every test of a rule, holds.
-/

namespace FeatureFlags

/-! ### Tests -/

/-- Whether the text of an attribute holds a stretch that a pattern matches. -/
def matchTest? (actual : Option AttributeValue) (expected : ConditionValue) : Option Bool :=
  match actual, expected with
  | some (.string text), .single (.string pattern) =>
    (Pattern.ofText? pattern).map fun pattern => pattern.occursIn text
  | _, _ => none

/-- The text by which an attribute is looked up in a list. -/
def AttributeValue.lookupText? : AttributeValue → Option String
  | string value => some value
  | number value => some value.plain
  | boolean value => some (boolText value)
  | null => none

/-- Whether an attribute is one of a list of texts. -/
def oneOfTest? (actual : Option AttributeValue) (expected : ConditionValue) : Option Bool :=
  match expected with
  | .multiple candidates => (actual.bind AttributeValue.lookupText?).map candidates.contains
  | .single _ => none

/-- Whether an attribute is missing or null, as a condition expects. -/
def nullTest? (actual : Option AttributeValue) (expected : ConditionValue) : Option Bool :=
  match expected with
  | .single (.boolean expectNull) =>
    some ((actual == none || actual == some .null) == expectNull)
  | _ => none

/-- The number of a scalar, which may be spelled by a text. -/
def Scalar.magnitude? : Scalar → Option Double
  | number value => some value
  | string text => Double.ofText? text
  | boolean _ => none

/-- The number of an attribute, which may be spelled by a text. -/
def AttributeValue.magnitude? : AttributeValue → Option Double
  | number value => some value
  | string text => Double.ofText? text
  | _ => none

/-- The version that a scalar spells. -/
def Scalar.version? : Scalar → Option Version
  | string text => Version.ofText? text
  | _ => none

/-- The order of an attribute and the value of a condition: as versions if the condition gives a
version, and else as numbers. -/
def orderTest? (actual : Option AttributeValue) (expected : ConditionValue) : Option Ordering :=
  match expected with
  | .single expected =>
    match expected.version? with
    | some expected => do
      let text ← actual.bind AttributeValue.text?
      let actual ← Version.ofText? text
      return actual.compare expected
    | none => do
      let expected ← expected.magnitude?
      let actual ← actual.bind AttributeValue.magnitude?
      actual.compare? expected
  | .multiple _ => none

/-! ### Conditions and rules -/

/-- The answer of an operator for an attribute, which may be missing, and the value of a
condition. -/
def Operator.outcome? (operator : Operator) (actual : Option AttributeValue)
    (expected : ConditionValue) : Option Bool :=
  match operator with
  | isMatch => matchTest? actual expected
  | notMatch => (matchTest? actual expected).map not
  | oneOf => oneOfTest? actual expected
  | notOneOf => (oneOfTest? actual expected).map not
  | isNull => nullTest? actual expected
  | greater => (orderTest? actual expected).map Ordering.isGT
  | greaterOrEqual => (orderTest? actual expected).map Ordering.isGE
  | less => (orderTest? actual expected).map Ordering.isLT
  | lessOrEqual => (orderTest? actual expected).map Ordering.isLE
  | unrecognized => none

/-- The answer of a condition. -/
def Condition.outcome? (condition : Condition) (attributes : Attributes) : Option Bool :=
  condition.operator.outcome? (attributes.get? condition.attributeName) condition.value

/-- Whether a condition holds; one without an answer does not. -/
def Condition.holds (condition : Condition) (attributes : Attributes) : Bool :=
  (condition.outcome? attributes).getD false

/-- Whether all conditions of a rule hold. -/
def Rule.holds (rule : Rule) (attributes : Attributes) : Bool :=
  rule.conditions.all fun condition => condition.holds attributes

end FeatureFlags
