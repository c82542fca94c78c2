import FeatureFlags.Proofs.Precomputed.Isolation
import FeatureFlags.Proofs.Text.Base64

/-!
**What is wrong with one field of a flag stays in this field.**

A flag of a response is dropped for two reasons: it has the wrong shape, or its value cannot be
decoded. All other damage is kept where it is. A key that cannot be decoded is missing, and an entry
of extra logging that cannot be decoded is left out. Hidden texts have one spelling, so no two
entries of a written map decode to the same key, and a change to one of them is a change to one
entry of the decoded map.

* `WrittenPrecomputedFlag.ofJson?_eq_some_iff`: an entry is read field by field.
* `Codec.get?_decodeExtraLogging`: what a decoded map has at a key.
* `Configuration.assignPrecomputed_of_flag?`: a flag that is found is assigned.
* `PrecomputedFlag.damage_stays_in_its_field`: what each field has a bearing on.
-/

namespace FeatureFlags

/-! ### Texts and maps -/

namespace Codec

variable {codec : Codec}

/-- **What does not decode is a hidden text that is no base64 form.** -/
theorem decodeText?_eq_none_iff {text : String} :
    codec.decodeText? text = none ↔
      codec.isObfuscated = true ∧ ∀ original, text ≠ Base64.encodeText original := by
  cases codec with
  | plain => simp [decodeText?, isObfuscated]
  | obfuscated salt =>
    simp [decodeText?, isObfuscated, Option.eq_none_iff_forall_ne_some,
      Base64.decodeText?_eq_some_iff]

/-- A text is written in one way. -/
theorem decodeText?_inj {first second text : String} (isFirst : codec.decodeText? first = some text)
    (isSecond : codec.decodeText? second = some text) : first = second := by
  cases codec with
  | plain => exact (Option.some.inj isFirst).trans (Option.some.inj isSecond).symm
  | obfuscated salt =>
    rw [decodeText?, Base64.decodeText?_eq_some_iff] at isFirst isSecond
    rw [isFirst, isSecond]

theorem decodePair?_eq_some_iff {entry decoded : String × String} :
    codec.decodePair? entry = some decoded ↔
      codec.decodeText? entry.1 = some decoded.1 ∧ codec.decodeText? entry.2 = some decoded.2 := by
  obtain ⟨key, value⟩ := decoded
  simp [decodePair?, Option.bind_eq_some_iff]

/-- The keys of decoded entries are keys that decode, each once. -/
theorem nodup_decoded_keys (codec : Codec) (written : Dict String) :
    ((written.entries.filterMap codec.decodePair?).map Prod.fst).Nodup := by
  have decoded : ((written.entries.filterMap codec.decodePair?).map Prod.fst).Sublist
      (written.keys.filterMap codec.decodeText?) := by
    rw [Dict.keys]
    generalize written.entries = entries
    induction entries with
    | nil => exact List.Sublist.slnil
    | cons head rest ih =>
      rw [List.filterMap_cons, List.map_cons, List.filterMap_cons]
      cases isPair : codec.decodePair? head with
      | some pair =>
        rw [(decodePair?_eq_some_iff.mp isPair).1]
        exact ih.cons_cons _
      | none =>
        cases codec.decodeText? head.1 with
        | none => exact ih
        | some key => exact ih.cons _
  refine decoded.nodup (written.keys_nodup.filterMap ?_)
  exact fun first second text isFirst isSecond => decodeText?_inj isFirst isSecond

theorem get?_decodeExtraLogging_eq_some_iff {written : Dict String} {name value : String} :
    (codec.decodeExtraLogging written).get? name = some value ↔
      ∃ key, codec.decodeText? key = some name ∧
        (written.get? key).bind codec.decodeText? = some value := by
  rw [decodeExtraLogging, Dict.get?_ofList_eq_some_iff (nodup_decoded_keys codec written),
    List.mem_filterMap]
  constructor
  · rintro ⟨entry, inside, isPair⟩
    obtain ⟨isKey, isValue⟩ := decodePair?_eq_some_iff.mp isPair
    refine ⟨entry.1, isKey, ?_⟩
    rwa [Dict.get?_eq_some_iff.mpr inside]
  · rintro ⟨key, isKey, found⟩
    obtain ⟨content, inside, isValue⟩ := Option.bind_eq_some_iff.mp found
    exact ⟨(key, content), Dict.get?_eq_some_iff.mp inside,
      decodePair?_eq_some_iff.mpr ⟨isKey, isValue⟩⟩

/-- **A decoded map has at a decoded key what is written at the key.** -/
theorem get?_decodeExtraLogging {written : Dict String} {key name : String}
    (isKey : codec.decodeText? key = some name) :
    (codec.decodeExtraLogging written).get? name = (written.get? key).bind codec.decodeText? := by
  refine Option.ext fun value => ?_
  rw [get?_decodeExtraLogging_eq_some_iff]
  constructor
  · rintro ⟨other, isOther, found⟩
    rwa [decodeText?_inj isKey isOther]
  · intro found
    exact ⟨key, isKey, found⟩

/-- **Maps that differ at one key decode to maps that differ at most at its decoded form.** -/
theorem get?_decodeExtraLogging_of_differ {old new : Dict String} {key : String}
    (others : ∀ apart, apart ≠ key → new.get? apart = old.get? apart) (name : String) :
    (codec.decodeExtraLogging new).get? name =
      if codec.decodeText? key = some name then (new.get? key).bind codec.decodeText?
      else (codec.decodeExtraLogging old).get? name := by
  split
  case isTrue isKey => exact get?_decodeExtraLogging isKey
  case isFalse notKey =>
  refine Option.ext fun value => ?_
  rw [get?_decodeExtraLogging_eq_some_iff, get?_decodeExtraLogging_eq_some_iff]
  refine exists_congr fun apart => and_congr_right fun isApart => ?_
  rw [others apart fun same => notKey (same ▸ isApart)]

@[simp] theorem decodeExtraLogging_empty (codec : Codec) :
    codec.decodeExtraLogging Dict.empty = Dict.empty := rfl

end Codec

/-! ### Fields of an entry -/

namespace WrittenPrecomputedFlag

/-- The names of the fields, in the order of an entry that is an array. -/
def fieldNames : List String :=
  ["allocationKey", "variationKey", "variationType", "variationValue", "extraLogging", "doLog"]

/-- What an entry has in a field. -/
def field? (entry : Json) (name : String) : Option Json :=
  (fieldsOf? fieldNames entry).bind (·.lookup name)

/-- Two entries have the same in every field but one. -/
def AgreeBut (name : String) (first second : Json) : Prop :=
  ∀ other ∈ fieldNames, other ≠ name → field? second other = field? first other

instance (name : String) (first second : Json) : Decidable (AgreeBut name first second) :=
  inferInstanceAs (Decidable (∀ other ∈ fieldNames, other ≠ name → _))

/-- Every field of an entry can be read, and a flag has what is read. -/
structure Spells (entry : Json) (written : WrittenPrecomputedFlag) : Prop where
  allocationKey : optionalText? (field? entry "allocationKey") = some written.allocationKey
  variationKey : optionalText? (field? entry "variationKey") = some written.variationKey
  variationType : type? (field? entry "variationType") = some written.variationType
  variationValue :
    (field? entry "variationValue").filter Json.isLiteral = some written.variationValue
  extraLogging : optionalTexts? (field? entry "extraLogging") = some written.extraLogging
  doLog : boolOrTrue? (field? entry "doLog") = some written.doLog

/-- What is no record has no fields, and so no type. -/
theorem ofJson?_eq (entry : Json) : ofJson? entry = do
    let allocationKey ← optionalText? (field? entry "allocationKey")
    let variationKey ← optionalText? (field? entry "variationKey")
    let variationType ← type? (field? entry "variationType")
    let variationValue ← (field? entry "variationValue").filter Json.isLiteral
    let extraLogging ← optionalTexts? (field? entry "extraLogging")
    let doLog ← boolOrTrue? (field? entry "doLog")
    return ⟨allocationKey, variationKey, variationType, variationValue, extraLogging, doLog⟩ := by
  change (fieldsOf? fieldNames entry).bind _ = _
  unfold field?
  cases fieldsOf? fieldNames entry <;> rfl

/-- **An entry is read field by field.** -/
theorem ofJson?_eq_some_iff {entry : Json} {written : WrittenPrecomputedFlag} :
    ofJson? entry = some written ↔ Spells entry written := by
  rw [ofJson?_eq]
  constructor
  · intro isFlag
    obtain ⟨allocationKey, isAllocationKey, isFlag⟩ := Option.bind_eq_some_iff.mp isFlag
    obtain ⟨variationKey, isVariationKey, isFlag⟩ := Option.bind_eq_some_iff.mp isFlag
    obtain ⟨variationType, isVariationType, isFlag⟩ := Option.bind_eq_some_iff.mp isFlag
    obtain ⟨variationValue, isVariationValue, isFlag⟩ := Option.bind_eq_some_iff.mp isFlag
    obtain ⟨extraLogging, isExtraLogging, isFlag⟩ := Option.bind_eq_some_iff.mp isFlag
    obtain ⟨doLog, isDoLog, isFlag⟩ := Option.bind_eq_some_iff.mp isFlag
    cases isFlag
    exact ⟨isAllocationKey, isVariationKey, isVariationType, isVariationValue, isExtraLogging,
      isDoLog⟩
  · rintro ⟨isAllocationKey, isVariationKey, isVariationType, isVariationValue, isExtraLogging,
      isDoLog⟩
    simp only [isAllocationKey, isVariationKey, isVariationType, isVariationValue, isExtraLogging,
      isDoLog, Option.bind_eq_bind, Option.bind_some, Option.pure_def]

section AgreeBut

variable {entry other : Json}

theorem ofJson?_of_agreeBut_allocationKey {old new : Option String}
    (agree : AgreeBut "allocationKey" entry other)
    (isOld : optionalText? (field? entry "allocationKey") = some old)
    (isNew : optionalText? (field? other "allocationKey") = some new) :
    ofJson? other = (ofJson? entry).map fun written => { written with allocationKey := new } := by
  simp (disch := decide) only [ofJson?_eq, isOld, isNew, agree _]
  simp [Option.map_bind]

theorem ofJson?_of_agreeBut_variationKey {old new : Option String}
    (agree : AgreeBut "variationKey" entry other)
    (isOld : optionalText? (field? entry "variationKey") = some old)
    (isNew : optionalText? (field? other "variationKey") = some new) :
    ofJson? other = (ofJson? entry).map fun written => { written with variationKey := new } := by
  simp (disch := decide) only [ofJson?_eq, isOld, isNew, agree _]
  simp [Option.map_bind]

theorem ofJson?_of_agreeBut_extraLogging {old new : Option (Dict String)}
    (agree : AgreeBut "extraLogging" entry other)
    (isOld : optionalTexts? (field? entry "extraLogging") = some old)
    (isNew : optionalTexts? (field? other "extraLogging") = some new) :
    ofJson? other = (ofJson? entry).map fun written => { written with extraLogging := new } := by
  simp (disch := decide) only [ofJson?_eq, isOld, isNew, agree _]
  simp [Option.map_bind]

end AgreeBut

end WrittenPrecomputedFlag

/-! ### Flags -/

/-- The keys that a flag reports. -/
inductive ReportedKey where
  | allocation
  | variation

namespace ReportedKey

/-- The field that a key stands in. -/
def name : ReportedKey → String
  | allocation => "allocationKey"
  | variation => "variationKey"

/-- The key of a flag. -/
def get (key : ReportedKey) (flag : PrecomputedFlag) : Option String :=
  match key with
  | allocation => flag.allocationKey
  | variation => flag.variationKey

/-- The flag with another key. -/
def put (key : ReportedKey) (text : Option String) (flag : PrecomputedFlag) : PrecomputedFlag :=
  match key with
  | allocation => { flag with allocationKey := text }
  | variation => { flag with variationKey := text }

@[simp] theorem get_put (key : ReportedKey) (text : Option String) (flag : PrecomputedFlag) :
    key.get (key.put text flag) = text := by
  cases key <;> rfl

end ReportedKey

namespace PrecomputedFlag

open WrittenPrecomputedFlag

variable {codec : Codec} {entry other : Json} {flag : PrecomputedFlag}

/-- **A flag is kept exactly if every field can be read and the value decodes.** -/
theorem ofJson?_eq_some_iff :
    ofJson? codec entry = some flag ↔
      ∃ written, Spells entry written ∧ written.decode? codec = some flag := by
  simp only [ofJson?, Option.bind_eq_some_iff, WrittenPrecomputedFlag.ofJson?_eq_some_iff]

theorem isSome_decode? {written : WrittenPrecomputedFlag} :
    (written.decode? codec).isSome ↔
      (codec.decodeValue? written.variationType written.variationValue).isSome := by
  rw [WrittenPrecomputedFlag.decode?]
  cases codec.decodeValue? written.variationType written.variationValue <;> rfl

/-- **A key that is replaced by a text changes the decoded key at most.** -/
theorem ofJson?_of_key (codec : Codec) {key : ReportedKey} {old : Option String} {text : String}
    (agree : AgreeBut key.name entry other)
    (isOld : optionalText? (field? entry key.name) = some old)
    (isText : field? other key.name = some (.string text)) :
    ofJson? codec other = (ofJson? codec entry).map (key.put (codec.decodeText? text)) := by
  have isNew : optionalText? (field? other key.name) = some (some text) := by
    rw [isText]
    rfl
  cases key with
  | allocation =>
    rw [ofJson?, ofJson?_of_agreeBut_allocationKey agree isOld isNew, ofJson?]
    simp [Option.bind_map, Option.map_bind, decode?, Function.comp_def, ReportedKey.put]
  | variation =>
    rw [ofJson?, ofJson?_of_agreeBut_variationKey agree isOld isNew, ofJson?]
    simp [Option.bind_map, Option.map_bind, decode?, Function.comp_def, ReportedKey.put]

theorem ofJson?_of_extraLogging (codec : Codec) {old new : Option (Dict String)}
    (agree : AgreeBut "extraLogging" entry other)
    (isOld : optionalTexts? (field? entry "extraLogging") = some old)
    (isNew : optionalTexts? (field? other "extraLogging") = some new) :
    ofJson? codec other = (ofJson? codec entry).map fun flag =>
      { flag with extraLogging := codec.decodeExtraLogging (new.getD Dict.empty) } := by
  rw [ofJson?, ofJson?_of_agreeBut_extraLogging agree isOld isNew, ofJson?]
  cases new <;> simp [Option.bind_map, Option.map_bind, decode?]

theorem extraLogging_of_ofJson? {old : Option (Dict String)}
    (isOld : optionalTexts? (field? entry "extraLogging") = some old)
    (isFlag : ofJson? codec entry = some flag) :
    flag.extraLogging = codec.decodeExtraLogging (old.getD Dict.empty) := by
  have same := ofJson?_of_extraLogging codec (fun _ _ _ => rfl) isOld isOld
  rw [isFlag, Option.map_some, Option.some.injEq] at same
  exact congrArg extraLogging same

end PrecomputedFlag

/-! ### Responses and assignments -/

namespace PrecomputedResponse

/-- The key that a response has for a flag. -/
def storedKey (response : PrecomputedResponse) (flagKey : String) : String :=
  if response.obfuscated then hashKey (response.codec.salt?.getD []) flagKey else flagKey

/-- What is found at the key of a flag is what becomes of the entry there. -/
theorem flag?_decode (response : PrecomputedResponse) (subject : Subject) (fetchedAt : Instant)
    (flagKey : String) :
    (response.decode subject fetchedAt).flag? flagKey =
      (response.flags.get? (response.storedKey flagKey)).bind
        (PrecomputedFlag.ofJson? response.codec) :=
  get?_decode_flags response subject fetchedAt (response.storedKey flagKey)

end PrecomputedResponse

/-- **A flag that is found is assigned**, unless another type is asked for. -/
theorem Configuration.assignPrecomputed_of_flag? {configuration : Configuration}
    {precomputed : Precomputed} {query : Query} {flag : PrecomputedFlag}
    (carries : configuration.precomputed = some precomputed)
    (found : precomputed.flag? query.flagKey = some flag)
    (asked : ∀ type ∈ query.expected, flag.variationType = type) :
    assignPrecomputed (some configuration) query = .ok (some ⟨flag.value,
      if flag.doLog then some (precomputedEventOf query precomputed flag) else none⟩) := by
  have fits : (query.expected.any fun type => flag.variationType ≠ type) = false := by
    cases isExpected : query.expected with
    | none => rfl
    | some type => simp [asked type isExpected]
  simp only [assignPrecomputed, evaluatePrecomputed, Option.bind_some, carries, found, fits,
    Bool.false_eq_true, if_false, settle]

open WrittenPrecomputedFlag in
/-- **Damage in a flag stays in its field.**

An entry is kept exactly if all its fields can be read and its value decodes. A text in the place of
one of its keys changes this key at most, which is missing exactly if the text does not decode: if
texts are hidden, and it is not the base64 form of one. Another entry of extra logging, one more or
one less, changes at most what the flag logs at the key that it decodes to. A flag that is kept is
found in the response, and wherever it is found it is assigned, unless another type is asked for:
the value comes with an event if the flag is to be reported, and the event names the experiment
exactly if it names the allocation. -/
theorem PrecomputedFlag.damage_stays_in_its_field (codec : Codec) (entry : Json) :
    ((ofJson? codec entry).isSome ↔ ∃ written, Spells entry written ∧
      (codec.decodeValue? written.variationType written.variationValue).isSome) ∧
    (∀ (key : ReportedKey) (other : Json) (text : String),
      (optionalText? (field? entry key.name)).isSome → AgreeBut key.name entry other →
      field? other key.name = some (.string text) →
        ofJson? codec other = (ofJson? codec entry).map (key.put (codec.decodeText? text)) ∧
        ∀ flag ∈ ofJson? codec other, key.get flag = none ↔
          codec.isObfuscated = true ∧ ∀ original, text ≠ Base64.encodeText original) ∧
    (∀ (other : Json) (old new : Option (Dict String)) (key : String),
      optionalTexts? (field? entry "extraLogging") = some old →
      AgreeBut "extraLogging" entry other →
      optionalTexts? (field? other "extraLogging") = some new →
      (∀ apart, apart ≠ key →
        (new.getD Dict.empty).get? apart = (old.getD Dict.empty).get? apart) →
        ∃ logged : Dict String,
          ofJson? codec other =
            (ofJson? codec entry).map (fun flag => { flag with extraLogging := logged }) ∧
          ∀ flag ∈ ofJson? codec entry, ∀ name, logged.get? name =
            if codec.decodeText? key = some name then
              ((new.getD Dict.empty).get? key).bind codec.decodeText?
            else flag.extraLogging.get? name) ∧
    (∀ (response : PrecomputedResponse) (subject : Subject) (fetchedAt : Instant)
      (flagKey : String), response.codec = codec →
      response.flags.get? (response.storedKey flagKey) = some entry →
        (response.decode subject fetchedAt).flag? flagKey = ofJson? codec entry) ∧
    ∀ (configuration : Configuration) (precomputed : Precomputed) (query : Query)
      (flag : PrecomputedFlag), configuration.precomputed = some precomputed →
      precomputed.flag? query.flagKey = some flag →
      (∀ type ∈ query.expected, flag.variationType = type) →
        ∃ event, Configuration.assignPrecomputed (some configuration) query =
            .ok (some ⟨flag.value, event⟩) ∧
          (event.isSome ↔ flag.doLog = true) ∧
          ∀ report ∈ event, report.allocation = flag.allocationKey ∧
            report.variation = flag.variationKey ∧ report.extraLogging = flag.extraLogging ∧
            (report.experiment.isSome ↔ report.allocation.isSome) := by
  refine ⟨?kept, ?keys, ?logging, ?found, ?assigned⟩
  case kept =>
    simp only [Option.isSome_iff_exists (x := ofJson? codec entry), ofJson?_eq_some_iff]
    rw [exists_comm]
    refine exists_congr fun written => ?_
    rw [exists_and_left, ← Option.isSome_iff_exists, isSome_decode?]
  case keys =>
    intro key other text readable agree isText
    obtain ⟨old, isOld⟩ := Option.isSome_iff_exists.mp readable
    have same := ofJson?_of_key codec agree isOld isText
    refine ⟨same, fun flag isFlag => ?_⟩
    rw [same] at isFlag
    obtain ⟨before, -, rfl⟩ := Option.map_eq_some_iff.mp isFlag
    rw [ReportedKey.get_put, Codec.decodeText?_eq_none_iff]
  case logging =>
    intro other old new key isOld agree isNew others
    refine ⟨_, ofJson?_of_extraLogging codec agree isOld isNew, fun flag isFlag name => ?_⟩
    rw [extraLogging_of_ofJson? isOld isFlag, Codec.get?_decodeExtraLogging_of_differ others]
  case found =>
    rintro response subject fetchedAt flagKey rfl stored
    rw [response.flag?_decode, stored, Option.bind_some]
  case assigned =>
    intro configuration precomputed query flag carries found asked
    refine ⟨_, Configuration.assignPrecomputed_of_flag? carries found asked, ?_, ?_⟩
    · cases flag.doLog <;> simp
    · intro report isReport
      obtain ⟨-, same⟩ := Option.ite_none_right_eq_some.mp isReport
      cases same
      exact ⟨rfl, rfl, rfl, by rw [AssignmentEvent.experiment, Option.isSome_map]⟩

/-- An entry under a hidden response, with a key and a map of extra logging. -/
def PrecomputedResponse.hiddenEntry (allocationKey : String) (logged : List (String × Json)) :
    Json :=
  .object [("allocationKey", .string allocationKey), ("variationKey", .string "d2FybQ=="),
    ("variationType", .string "BOOLEAN"), ("variationValue", .bool true),
    ("extraLogging", .object logged)]

/-- A hidden response with one flag. -/
def PrecomputedResponse.hiddenBy (salt : String) (entry : Json) : PrecomputedResponse where
  flags := Dict.ofList [(hashKey (octetsOf salt) "greeting", entry)]
  salt := some (Base64.encodeText salt)
  format := "PRECOMPUTED"
  obfuscated := true
  createdAt := none
  environment := none

open PrecomputedResponse WrittenPrecomputedFlag in
/-- The flag of a visitor whose allocation is damaged, and then one of two entries that it logs. -/
theorem PrecomputedFlag.damage_stays_in_its_field_greeting :
    let codec := Codec.obfuscated (octetsOf "salt")
    let entry := hiddenEntry "ZXZlcnlvbmU=" [("YQ==", .string "MQ=="), ("Yg==", .string "Mg==")]
    let damaged := hiddenEntry "everyone" [("YQ==", .string "MQ=="), ("Yg==", .string "Mg==")]
    let logged := hiddenEntry "ZXZlcnlvbmU=" [("YQ==", .string "1"), ("Yg==", .string "Mg==")]
    ∃ flag, ofJson? codec entry = some flag ∧ flag.allocationKey = some "everyone" ∧
      ofJson? codec damaged = some { flag with allocationKey := none } ∧
      (∃ left : Dict String, ofJson? codec logged = some { flag with extraLogging := left } ∧
        left.get? "a" = none ∧ left.get? "b" = some "2") ∧
      ((hiddenBy "salt" entry).decode ⟨"visitor", Dict.empty⟩ ⟨0, 0⟩).flag? "greeting" = some flag ∧
      ∃ event, Configuration.assignPrecomputed
          (some (.ofPrecomputed ((hiddenBy "salt" entry).decode ⟨"visitor", Dict.empty⟩ ⟨0, 0⟩)))
          ⟨"greeting", some .boolean, ⟨1700000000, 0⟩, .own⟩ = .ok (some ⟨.boolean true, event⟩) ∧
        event.isSome := by
  intro codec entry damaged logged
  obtain ⟨-, keys, logging, found, assigned⟩ := damage_stays_in_its_field codec entry
  have isFlag : ofJson? codec entry = some ⟨some "everyone", some "warm", .boolean, .boolean true,
      Dict.ofList [("a", "1"), ("b", "2")], true⟩ := by decide +kernel
  have isDamaged := (keys .allocation damaged "everyone" (by decide +kernel) (by decide +kernel)
    (by decide +kernel)).1
  obtain ⟨left, isLogged, entries⟩ := logging logged
    (some (Dict.ofList [("YQ==", "MQ=="), ("Yg==", "Mg==")]))
    (some (Dict.ofList [("YQ==", "1"), ("Yg==", "Mg==")])) "YQ==" (by decide +kernel)
    (by decide +kernel) (by decide +kernel) (fun apart differs => by
      simp [Dict.get?_ofList, Dict.latest?, differs.symm])
  have isFound := found (hiddenBy "salt" entry) ⟨"visitor", Dict.empty⟩ ⟨0, 0⟩ "greeting"
    (by decide +kernel) (by decide +kernel)
  rw [isFlag] at isFound
  obtain ⟨event, isAssigned, reported, -⟩ := assigned (.ofPrecomputed _) _
    ⟨"greeting", some .boolean, ⟨1700000000, 0⟩, .own⟩ _ rfl isFound
    (fun type isType => Option.some.inj isType)
  have missing : codec.decodeText? "everyone" = none := by decide +kernel
  rw [isFlag, missing] at isDamaged
  rw [isFlag] at isLogged
  refine ⟨_, isFlag, rfl, isDamaged, ⟨left, isLogged, ?_, ?_⟩, isFound, event, isAssigned,
    reported.mpr rfl⟩
  · rw [entries _ isFlag]
    decide +kernel
  · rw [entries _ isFlag]
    decide +kernel

end FeatureFlags
