import FeatureFlags.Client
import FeatureFlags.Proofs.Flag.FirstMatch

/-!
**Local evaluation keeps to the type of the default, and its event tells what was served.**

A question about a flag goes through the decoder, the type of the flag, the choice of an allocation
and a split, and the conversion of a value. Each of these may end it, some of them silently and some
with an error. What gets through is the converted value of the first match, and the event, if the
allocation asks for one, names that very match.

* `AssignmentEvent.Tells`: an event that reports an allocation, a split and a variation.
* `Configuration.Gives`: what may come of a question, cause by cause.
* `Configuration.assign_eq_iff`: exactly this comes of it.
* `Client.evaluate_tells_the_truth`: what the caller of a client gets.
-/

namespace FeatureFlags

/-- **A converted value is of the type that it was converted to.** -/
theorem Scalar.type_of_toValue? {type : VariationType} {scalar : Scalar} {value : Value}
    (converted : scalar.toValue? type = some value) : value.type = type := by
  unfold toValue? at converted
  split at converted
  case h_1 | h_2 | h_3 =>
    cases converted
    rfl
  case h_4 | h_5 =>
    obtain ⟨_, _, rfl⟩ := Option.map_eq_some_iff.mp converted
    rfl
  case h_6 => cases converted

/-! ### What may come of a question -/

/-- An event that reports what an allocation, its split and a variation serve a subject. The
attributes are those that the caller gave. -/
structure AssignmentEvent.Tells (event : AssignmentEvent) (query : Query) (visitor : Subject)
    (flag : Flag) (chosen : Allocation) (split : Split) (served : Variation) : Prop where
  featureFlag : event.featureFlag = flag.key
  allocation : event.allocation = some chosen.key
  experiment : event.experiment = some (flag.key ++ "-" ++ chosen.key)
  variation : event.variation = some served.key
  subject : event.subject = visitor.key
  subjectAttributes : event.subjectAttributes = visitor.attributes
  timestamp : event.timestamp = query.now
  sdk : event.sdk = query.sdk
  obfuscated : event.obfuscated = false
  extraLogging : event.extraLogging = split.extraLogging

/-- There is only one event that reports them. -/
theorem AssignmentEvent.Tells.unique {first second : AssignmentEvent} {query : Query}
    {subject : Subject} {flag : Flag} {allocation : Allocation} {split : Split}
    {variation : Variation} (one : first.Tells query subject flag allocation split variation)
    (other : second.Tells query subject flag allocation split variation) : first = second := by
  obtain ⟨⟩ := first
  obtain ⟨⟩ := second
  obtain ⟨rfl, rfl, -, rfl, rfl, rfl, rfl, rfl, rfl, rfl⟩ := one
  obtain ⟨rfl, rfl, -, rfl, rfl, rfl, rfl, rfl, rfl, rfl⟩ := other
  rfl

namespace Configuration

variable {configuration : Option Configuration} {query : Query} {subject : Subject} {flag : Flag}
  {allocation : Allocation} {split : Split} {variation : Variation}

/-- A configuration has a flag under the key, and it can be decoded. -/
def Finds (configuration : Option Configuration) (query : Query) (flag : Flag) : Prop :=
  ∃ decoder, configuration.bind Configuration.flags = some decoder ∧
    decoder.answer? query.flagKey = some (.ok flag)

/-- The flag that is found has the type that is expected, if one is. -/
def Offers (configuration : Option Configuration) (query : Query) (flag : Flag) : Prop :=
  Finds configuration query flag ∧ ∀ expected ∈ query.expected, flag.variationType = expected

/-- A flag that is offered is enabled, and an allocation and a split are its first match. -/
structure Chooses (configuration : Option Configuration) (query : Query) (subject : Subject)
    (flag : Flag) (allocation : Allocation) (split : Split) : Prop where
  offers : Offers configuration query flag
  enabled : flag.enabled = true
  first : ∃ places, flag.IsFirstMatch (visitOf query subject) allocation split places

/-- What may come of a question, cause by cause. -/
inductive Gives (configuration : Option Configuration) (query : Query) (subject : Subject) :
    Except FlagError (Option Assignment) → Prop
  | unconfigured (missing : configuration.bind Configuration.flags = none) :
      Gives configuration query subject (.ok none)
  | unknown (decoder : Decoder) (holds : configuration.bind Configuration.flags = some decoder)
      (absent : decoder.answer? query.flagKey = none) :
      Gives configuration query subject (.ok none)
  | undecodable (decoder : Decoder) (cause : DecodeError)
      (holds : configuration.bind Configuration.flags = some decoder)
      (broken : decoder.answer? query.flagKey = some (.error cause)) :
      Gives configuration query subject (.error .undecodableFlag)
  | mistyped (flag : Flag) (expected : VariationType) (finds : Finds configuration query flag)
      (wanted : query.expected = some expected) (other : flag.variationType ≠ expected) :
      Gives configuration query subject (.error (.invalidType expected flag.variationType))
  | disabled (flag : Flag) (offers : Offers configuration query flag)
      (off : flag.enabled = false) :
      Gives configuration query subject (.ok none)
  | unallocated (flag : Flag) (offers : Offers configuration query flag)
      (enabled : flag.enabled = true)
      (unmatched : ∀ allocation split places,
        ¬ flag.IsMatch (visitOf query subject) allocation split places) :
      Gives configuration query subject (.ok none)
  | missing (flag : Flag) (allocation : Allocation) (split : Split)
      (chooses : Chooses configuration query subject flag allocation split)
      (absent : flag.variations.get? split.variationKey = none) :
      Gives configuration query subject (.error .inconsistentFlag)
  | unconvertible (flag : Flag) (allocation : Allocation) (split : Split) (variation : Variation)
      (chooses : Chooses configuration query subject flag allocation split)
      (present : flag.variations.get? split.variationKey = some variation)
      (misfit : variation.value.toValue? flag.variationType = none) :
      Gives configuration query subject (.error .inconsistentFlag)
  | served (flag : Flag) (allocation : Allocation) (split : Split) (variation : Variation)
      (assignment : Assignment)
      (chooses : Chooses configuration query subject flag allocation split)
      (present : flag.variations.get? split.variationKey = some variation)
      (converted : variation.value.toValue? flag.variationType = some assignment.value)
      (reported : assignment.event.isSome = allocation.doLog)
      (tells : ∀ event ∈ assignment.event,
        event.Tells query subject flag allocation split variation) :
      Gives configuration query subject (.ok (some assignment))

/-! ### The steps of an evaluation -/

/-- Without decoded flags nothing is assigned. -/
theorem assign_of_unconfigured (missing : configuration.bind Configuration.flags = none) :
    assign configuration query subject = .ok none := by
  rw [assign, evaluate, Configuration.flag, missing]
  rfl

/-- A flag that is not there or cannot be decoded ends the evaluation. -/
theorem assign_of_answer? {decoder : Decoder} (query : Query) (subject : Subject)
    (holds : configuration.bind Configuration.flags = some decoder) :
    (decoder.answer? query.flagKey = none → assign configuration query subject = .ok none) ∧
    ∀ cause, decoder.answer? query.flagKey = some (.error cause) →
      assign configuration query subject = .error .undecodableFlag := by
  constructor
  · intro absent
    simp only [assign, evaluate, Configuration.flag, holds, absent]
    rfl
  · intro cause broken
    simp only [assign, evaluate, Configuration.flag, holds, broken]
    rfl

/-- A flag that is found is refused if it has another type than the expected one. -/
theorem flag_of_finds (finds : Finds configuration query flag) :
    Configuration.flag configuration query =
      query.expected.elim (.ok flag) fun expected =>
        if flag.variationType = expected then .ok flag
        else .error (.invalidType expected flag.variationType) := by
  obtain ⟨decoder, holds, found⟩ := finds
  simp only [Configuration.flag, holds, found]
  cases query.expected with
  | none => rfl
  | some expected =>
    show Except.map _ (flag.requireType expected) = ite _ _ _
    rw [Flag.requireType]
    split <;> rfl

theorem assign_of_mistyped {expected : VariationType} (finds : Finds configuration query flag)
    (wanted : query.expected = some expected) (other : flag.variationType ≠ expected) :
    assign configuration query subject =
      .error (.invalidType expected flag.variationType) := by
  rw [assign, evaluate, flag_of_finds finds, wanted, Option.elim_some, if_neg other]
  rfl

/-- From a flag that is offered on, the evaluation of the flag decides. -/
theorem assign_of_offers (offers : Offers configuration query flag) :
    assign configuration query subject =
      settle ((flag.evaluate (visitOf query subject)).map fun evaluation =>
        ⟨evaluation.value,
          if evaluation.doLog then some (eventOf query (visitOf query subject) flag evaluation)
          else none⟩) := by
  obtain ⟨finds, fits⟩ := offers
  have isFlag : Configuration.flag configuration query = .ok flag := by
    rw [flag_of_finds finds]
    cases wanted : query.expected with
    | none => rfl
    | some expected => exact if_pos (fits expected wanted)
  rw [assign, evaluate, isFlag]
  show settle ((flag.evaluate (visitOf query subject)).bind _) = _
  cases flag.evaluate (visitOf query subject) <;> rfl

/-- An enabled flag serves what its first match serves. -/
theorem Chooses.serves (chooses : Chooses configuration query subject flag allocation split) :
    flag.Serves allocation split (flag.evaluate (visitOf query subject)) :=
  Flag.serves_of_choice? chooses.enabled (Flag.choice?_eq_some_iff.mpr chooses.first)

/-- The event of what is served tells of the match. -/
theorem tells_eventOf (query : Query) (subject : Subject) (flag : Flag) (value : Value)
    (reason : Reason) :
    (eventOf query (visitOf query subject) flag
      ⟨value, variation.key, allocation.key, allocation.doLog, split.extraLogging, reason⟩).Tells
        query subject flag allocation split variation :=
  ⟨rfl, rfl, rfl, rfl, rfl, rfl, rfl, rfl, rfl, rfl⟩

/-- What reports the match, and does so exactly if the allocation asks for it, is its event. -/
theorem event_of_tells {event : Option AssignmentEvent}
    (reported : event.isSome = allocation.doLog)
    (tells : ∀ told ∈ event, told.Tells query subject flag allocation split variation)
    (value : Value) (reason : Reason) :
    (if allocation.doLog then some (eventOf query (visitOf query subject) flag
      ⟨value, variation.key, allocation.key, allocation.doLog, split.extraLogging, reason⟩)
      else none) = event := by
  rw [← reported]
  cases event with
  | none => rfl
  | some told => exact congrArg some ((tells_eventOf query subject flag value reason).unique
      (tells told rfl))

/-! ### Exactly this comes of a question -/

/-- What comes of a flag that is offered. -/
theorem gives_of_offers (offers : Offers configuration query flag) :
    Gives configuration query subject (assign configuration query subject) := by
  have decided : assign configuration query subject = _ := assign_of_offers offers
  cases enabled : flag.enabled with
  | false =>
    rw [decided, Flag.evaluate, enabled]
    exact .disabled flag offers enabled
  | true =>
    cases chosen : flag.choice? (visitOf query subject) with
    | none =>
      rw [decided, Flag.evaluate, enabled, chosen]
      exact .unallocated flag offers enabled (Flag.choice?_eq_none_iff.mp chosen)
    | some choice =>
      obtain ⟨allocation, split⟩ := choice
      have chooses : Chooses configuration query subject flag allocation split :=
        ⟨offers, enabled, Flag.choice?_eq_some_iff.mp chosen⟩
      have serves := chooses.serves
      rw [decided]
      generalize flag.evaluate (visitOf query subject) = result at serves
      cases serves with
      | missing absent => exact .missing flag allocation split chooses absent
      | unconvertible variation present misfit =>
        exact .unconvertible flag allocation split variation chooses present misfit
      | served variation value present converted =>
        refine .served flag allocation split variation _ chooses present converted ?_ ?_
        · cases allocation.doLog <;> rfl
        · intro event isEvent
          obtain ⟨_, same⟩ := Option.ite_none_right_eq_some.mp isEvent
          cases same
          exact tells_eventOf query subject flag value _

/-- What comes of a question is among what may come of it. -/
theorem gives_assign (configuration : Option Configuration) (query : Query) (subject : Subject) :
    Gives configuration query subject (assign configuration query subject) := by
  cases holds : configuration.bind Configuration.flags with
  | none =>
    rw [assign_of_unconfigured holds]
    exact .unconfigured holds
  | some decoder =>
    obtain ⟨ofAbsent, ofBroken⟩ := assign_of_answer? query subject holds
    cases found : decoder.answer? query.flagKey with
    | none =>
      rw [ofAbsent found]
      exact .unknown decoder holds found
    | some result =>
      cases result with
      | error cause =>
        rw [ofBroken cause found]
        exact .undecodable decoder cause holds found
      | ok flag =>
        have finds : Finds configuration query flag := ⟨decoder, holds, found⟩
        by_cases fits : ∀ expected ∈ query.expected, flag.variationType = expected
        · exact gives_of_offers ⟨finds, fits⟩
        · push Not at fits
          obtain ⟨expected, wanted, other⟩ := fits
          rw [assign_of_mistyped finds wanted other]
          exact .mistyped flag expected finds wanted other

/-- **A question has the answer that its cause calls for, and no other.** -/
theorem assign_eq_iff {result : Except FlagError (Option Assignment)} :
    assign configuration query subject = result ↔ Gives configuration query subject result := by
  constructor
  · rintro rfl
    exact gives_assign configuration query subject
  · intro gives
    cases gives with
    | unconfigured missing => exact assign_of_unconfigured missing
    | unknown decoder holds absent => exact (assign_of_answer? query subject holds).1 absent
    | undecodable decoder cause holds broken => exact (assign_of_answer? query subject holds).2 cause broken
    | mistyped flag expected finds wanted other => exact assign_of_mistyped finds wanted other
    | disabled flag offers off =>
      rw [assign_of_offers offers, Flag.evaluate, off]
      rfl
    | unallocated flag offers enabled unmatched =>
      rw [assign_of_offers offers, Flag.evaluate, enabled, Flag.choice?_eq_none_iff.mpr unmatched]
      rfl
    | missing flag allocation split chooses absent =>
      have serves := chooses.serves
      rw [assign_of_offers chooses.offers]
      generalize flag.evaluate (visitOf query subject) = result at serves
      cases serves with
      | missing | unconvertible => rfl
      | served variation value present => simp [absent] at present
    | unconvertible flag allocation split variation chooses present misfit =>
      have serves := chooses.serves
      rw [assign_of_offers chooses.offers]
      generalize flag.evaluate (visitOf query subject) = result at serves
      cases serves with
      | missing | unconvertible => rfl
      | served other value isOther converted =>
        cases present.symm.trans isOther
        simp [misfit] at converted
    | served flag allocation split variation assignment chooses present converted reported tells =>
      have serves := chooses.serves
      rw [assign_of_offers chooses.offers]
      generalize flag.evaluate (visitOf query subject) = result at serves
      cases serves with
      | missing absent => simp [absent] at present
      | unconvertible other isOther misfit =>
        cases present.symm.trans isOther
        simp [misfit] at converted
      | served other value isOther isValue =>
        cases present.symm.trans isOther
        cases converted.symm.trans isValue
        show Except.ok (some (Assignment.mk assignment.value (ite _ _ _))) = _
        rw [event_of_tells reported tells assignment.value]

/-- A value that is served is of the expected type. -/
theorem Gives.type_of_expected {assignment : Assignment} {expected : VariationType}
    (gives : Gives configuration query subject (.ok (some assignment)))
    (wanted : query.expected = some expected) : assignment.value.type = expected := by
  cases gives with
  | served flag allocation split variation _ chooses present converted reported tells =>
    rw [Scalar.type_of_toValue? converted]
    exact chooses.offers.2 expected wanted

end Configuration

/-! ### What the caller of a client gets -/

/-- **Local evaluation is of the right type, and its event tells the truth.**

Of a question, in any configuration or none, comes exactly what its cause calls for: nothing without
a configuration or a flag, from a disabled flag and without a match; an error if the flag cannot be
decoded, is of another type, or serves what is missing or does not convert; and else the converted
value of the first match, with an event exactly if the allocation asks for one, which tells of that
match and of the caller's attributes. Errors have no other causes.

The caller of a client gets the value, which is then reported, or else the default itself and no
event, and in any case what is of the type of the default. -/
theorem Client.evaluate_tells_the_truth (client : Client) (flagKey : String) (subject : Subject)
    (default : Value) (now : Instant) :
    (∀ configuration query visitor result,
      Configuration.assign configuration query visitor = result ↔
        Configuration.Gives configuration query visitor result) ∧
    (∀ configuration query visitor error,
      Configuration.assign configuration query visitor = .error error →
        error = .undecodableFlag ∨ error = .inconsistentFlag ∨
          ∃ expected found, error = .invalidType expected found) ∧
    (∃ result,
      Configuration.Gives client.store.active (client.query flagKey default.type now) subject
        result ∧
      client.evaluate flagKey subject default now =
        match result with
        | .ok (some assignment) => (assignment.value, client.report assignment)
        | .ok none | .error _ => (default, client, [])) ∧
    (client.evaluate flagKey subject default now).1.type = default.type := by
  have gives := Configuration.gives_assign client.store.active
    (client.query flagKey default.type now) subject
  have answered : client.evaluate flagKey subject default now =
      match Configuration.assign client.store.active (client.query flagKey default.type now)
        subject with
      | .ok (some assignment) => (assignment.value, client.report assignment)
      | .ok none | .error _ => (default, client, []) := by
    unfold evaluate finish
    cases Configuration.assign client.store.active (client.query flagKey default.type now)
      subject with
    | error error => rfl
    | ok found => cases found <;> rfl
  refine ⟨fun _ _ _ _ => Configuration.assign_eq_iff,
    fun configuration query visitor error fails => ?_, ⟨_, gives, answered⟩, ?_⟩
  · cases Configuration.assign_eq_iff.mp fails with
    | undecodable => exact .inl rfl
    | mistyped flag expected => exact .inr (.inr ⟨expected, flag.variationType, rfl⟩)
    | missing | unconvertible => exact .inr (.inl rfl)
  · rw [answered]
    split
    · rename_i assignment found
      rw [found] at gives
      exact gives.type_of_expected rfl
    · rfl
    · rfl

end FeatureFlags
