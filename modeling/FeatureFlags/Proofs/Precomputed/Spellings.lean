import FeatureFlags.Proofs.Json.Range
import FeatureFlags.Proofs.Precomputed.Integers

/-!
**Truth values and numbers are decoded alike, however they are spelled.**

A truth value or a number is never hidden, and may be given by its text, in quotes or not. A number
is read in three ways, as a whole number, as a double, and from a text that is tried as a whole
number first and as a double then. They agree because the text of a number tells it again: a whole
number of 64 signed bits is read as itself, one beyond them as the double nearest to it, which is
what the number counts as, and a double as the same double, which its text cannot hide behind a
whole number, since it has a point or an exponent.

* `Codec.type_of_decodeValue?`: a decoded value has the type that was asked for.
* `Json.IsNative`: truth values and numbers.
* `Codec.native_and_quoted_alike`: they are decoded alike in all spellings.
-/

namespace FeatureFlags

/-- A truth value, or a number of a document. -/
def Json.IsNative : Json → Prop
  | .bool _ => True
  | .number value => value.InRange
  | _ => False

namespace Codec

/-- **The codec converts to the type that it is given.** -/
theorem type_of_decodeValue? {codec : Codec} {type : VariationType} {written : Json}
    {value : Value} (found : codec.decodeValue? type written = some value) : value.type = type := by
  unfold decodeValue? at found
  cases type with
  | string =>
    dsimp only at found
    split at found
    · obtain ⟨_, _, rfl⟩ := Option.map_eq_some_iff.mp found
      rfl
    · cases found
  | boolean | integer | numeric | json =>
    obtain ⟨_, _, rfl⟩ := Option.map_eq_some_iff.mp found
    rfl

/-! ### Texts of numbers -/

section Number

variable {number : Number} {text : String} (inRange : number.InRange)
  (isText : number.text? = some text)

include isText

theorem unquote_text : unquote text = text := by
  obtain ⟨_, _, _, isList, digit⟩ := Number.exists_toList isText
  exact unquote_of_digit isList digit

/-- The text of a number is no truth value. -/
theorem readBoolean?_text : readBoolean? (.string text) = none := by
  obtain ⟨negative, c, rest, isList, digit⟩ := Number.exists_toList isText
  have apart (name : String)
      (other : name.toList.head?.any (fun first => first == '-' || first.isDigit) = false) :
      text ≠ name := by
    rintro rfl
    rw [isList] at other
    cases negative with
    | true => cases other
    | false =>
      have isFirst : (c == '-' || c.isDigit) = false := other
      rw [digit, Bool.or_true] at isFirst
      cases isFirst
  rw [readBoolean?, unquote_text isText]
  split
  · exact absurd rfl (apart "true" (by decide))
  · exact absurd rfl (apart "false" (by decide))
  · rfl

include inRange

/-- **The text of a number is read as the whole number that the number is.** -/
theorem readInteger?_text : readInteger? (.string text) = readInteger? (.number number) := by
  rw [readInteger?, readInteger?, unquote_text isText, wholeOfText?,
    number.integerOfText?_text inRange isText]
  cases number.integer? with
  | some whole => rfl
  | none =>
    simp only
    rw [number.ofText?_text inRange isText, Option.bind_some]

/-- **And as the double that it is.** -/
theorem readNumeric?_text : readNumeric? (.string text) = readNumeric? (.number number) := by
  rw [readNumeric?, readNumeric?, unquote_text isText, number.ofText?_text inRange isText,
    Option.filter_some, if_pos (number.isFinite_toDouble inRange)]

end Number

/-! ### All spellings -/

section Spelling

variable {written : Json}

/-- A truth value or a number in range, with its text. -/
theorem cases_isNative (native : written.IsNative) : (∃ value, written = .bool value) ∨
    ∃ number text, written = .number number ∧ number.InRange ∧ number.text? = some text ∧
      written.render = text := by
  cases written with
  | bool value => exact .inl ⟨value, rfl⟩
  | number number =>
    obtain ⟨text, isText⟩ := Number.exists_text native
    exact .inr ⟨number, text, rfl, native, isText, by rw [Json.render, isText, Option.getD_some]⟩
  | null | string | array | object => exact native.elim

/-- The text of a truth value or a number is not in quotes. -/
theorem unquote_render (native : written.IsNative) : unquote written.render = written.render := by
  obtain ⟨value, rfl⟩ | ⟨_, _, _, _, isText, render⟩ := cases_isNative native
  · cases value <;> rfl
  · rw [render, unquote_text isText]

theorem readBoolean?_render (native : written.IsNative) :
    readBoolean? (.string written.render) = readBoolean? written := by
  obtain ⟨value, rfl⟩ | ⟨_, _, rfl, _, isText, render⟩ := cases_isNative native
  · cases value <;> rfl
  · rw [render, readBoolean?_text isText]
    rfl

theorem readInteger?_render (native : written.IsNative) :
    readInteger? (.string written.render) = readInteger? written := by
  obtain ⟨value, rfl⟩ | ⟨_, _, rfl, inRange, isText, render⟩ := cases_isNative native
  · cases value <;> rfl
  · rw [render, readInteger?_text inRange isText]

theorem readNumeric?_render (native : written.IsNative) :
    readNumeric? (.string written.render) = readNumeric? written := by
  obtain ⟨value, rfl⟩ | ⟨_, _, rfl, inRange, isText, render⟩ := cases_isNative native
  · cases value <;> rfl
  · rw [render, readNumeric?_text inRange isText]

/-- **The text of a truth value or a number stands for the value itself.** -/
theorem decodeValue?_render {codec : Codec} {type : VariationType}
    (shown : type ∈ [VariationType.boolean, .integer, .numeric]) (native : written.IsNative) :
    codec.decodeValue? type (.string written.render) = codec.decodeValue? type written := by
  cases type with
  | string | json => simp at shown
  | boolean => exact congrArg (Option.map Value.boolean) (readBoolean?_render native)
  | integer => exact congrArg (Option.map Value.integer) (readInteger?_render native)
  | numeric => exact congrArg (Option.map Value.numeric) (readNumeric?_render native)

/-- Quotes around a text that is not in quotes change nothing. -/
theorem decodeValue?_quoted {codec : Codec} {type : VariationType} {text : String}
    (shown : type ∈ [VariationType.boolean, .integer, .numeric]) (bare : unquote text = text) :
    codec.decodeValue? type (.string ("\"" ++ text ++ "\"")) =
      codec.decodeValue? type (.string text) := by
  have quoted := unquote_quoted text
  cases type with
  | string | json => simp at shown
  | boolean => rw [decodeValue?, decodeValue?, readBoolean?, readBoolean?, quoted, bare]
  | integer => rw [decodeValue?, decodeValue?, readInteger?, readInteger?, quoted, bare]
  | numeric => rw [decodeValue?, decodeValue?, readNumeric?, readNumeric?, quoted, bare]

/-- A double that is read is finite. -/
theorem isFinite_of_readNumeric? {d : Double}
    (inRange : ∀ number, written = .number number → number.InRange)
    (found : readNumeric? written = some d) : d.isFinite := by
  cases written with
  | number number => exact Option.some.inj found ▸ number.isFinite_toDouble (inRange number rfl)
  | string text => exact (Option.filter_eq_some_iff.mp found).2
  | null | bool | array | object => cases found

end Spelling

/-- **Truth values and numbers are decoded alike in all spellings.** What is decoded has the type
that was asked for, and a double is finite. No codec hides a truth value, a whole number or a
double, and such a value may be written natively, as its text, or as its text in quotes. The numbers
that documents hold are all in the range for which this is said. -/
theorem native_and_quoted_alike (codec : Codec) (written : Json) :
    (∀ type value, codec.decodeValue? type written = some value → value.type = type) ∧
    (∀ d, (∀ number, written = .number number → number.InRange) →
      codec.decodeValue? .numeric written = some (.numeric d) → d.isFinite) ∧
    (∀ type ∈ [VariationType.boolean, .integer, .numeric],
      (∀ other : Codec, other.decodeValue? type written = codec.decodeValue? type written) ∧
      (written.IsNative →
        codec.decodeValue? type (.string written.render) = codec.decodeValue? type written ∧
        codec.decodeValue? type (.string ("\"" ++ written.render ++ "\"")) =
          codec.decodeValue? type written)) ∧
    ∀ level document, Document.toJson? level document = some written →
      ∀ number, written = .number number → number.InRange := by
  refine ⟨fun _ _ => type_of_decodeValue?, fun d inRange found => ?_,
    fun type shown => ⟨fun other => ?_, fun native => ?_⟩, fun level document isRead number same =>
      Document.inRange_of_toJson? (same ▸ isRead)⟩
  · obtain ⟨_, isRead, same⟩ := Option.map_eq_some_iff.mp found
    cases same
    exact isFinite_of_readNumeric? inRange isRead
  · cases type with
    | string | json => simp at shown
    | boolean | integer | numeric => rfl
  · have alike := @decodeValue?_render _ codec type shown native
    exact ⟨alike, (decodeValue?_quoted shown (unquote_render native)).trans alike⟩

/-- The texts of a large whole number and of a large double are decoded as the numbers are. -/
theorem native_and_quoted_alike_large :
    Codec.plain.decodeValue? .integer (.string "9007199254740993") =
      some (.integer 9007199254740993) ∧
    Codec.plain.decodeValue? .integer (.string "\"1e+16\"") =
      some (.integer 10000000000000000) ∧
    (Double.ofNat (10 ^ 16)).isFinite := by
  have whole := (native_and_quoted_alike .plain (.number (.whole 9007199254740993))).2.2.1
  have double := native_and_quoted_alike .plain (.number (.float (.ofNat (10 ^ 16))))
  have render : (Json.number (.float (.ofNat (10 ^ 16)))).render = "1e+16" := by decide +kernel
  have finite : (Double.ofNat (10 ^ 16)).isFinite := Double.isFinite_ofNat (by decide)
  have quoted := ((double.2.2.1 .integer (by decide)).2 finite).2
  rw [render] at quoted
  refine ⟨((whole .integer (by decide)).2 ⟨by decide, by decide⟩).1.trans ?_,
    quoted.trans ?_, double.2.1 _ ?_ ?_⟩
  · decide +kernel
  · decide +kernel
  · rintro _ ⟨⟩
    exact finite
  · rfl

end Codec

end FeatureFlags
