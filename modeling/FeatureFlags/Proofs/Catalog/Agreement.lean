import FeatureFlags.Assignment
import FeatureFlags.Proofs.Catalog.Lookup
import FeatureFlags.Proofs.Flatbuffer.RoundTrip
import FeatureFlags.Proofs.Json.Records

/-!
**Assignments do not depend on the wire format.**

The flags of a document can be written again as a protobuf message and as a flatbuffer. Both formats
keep the keys that flags and variations bear themselves, not those they stand under, and both keep
whole milliseconds. The two formats give the same assignments, and the same errors, for all flags.
The document gives these too, at every key and time where it is steady: the key is borne by the flag
that stands under it and by no other, its variations go by their own keys, and its bounds in time
are on the calendar in milliseconds, where none of them passes over the time when its fraction of a
millisecond is cut off. Nothing is asked of the flags at other keys.

* `Flag.SteadyAt`, `Catalog.SteadyAt`: where nothing depends on what the formats do not keep.
* `Flag.evaluate_normal`: a flag that is steady serves what its normal form serves.
* `Catalog.flag?_of_perm`: the last flag that bears a key is the one that stands under it.
* `formats_agree_on_assignments`: the agreement.
* `formats_disagree_on_assignments`: what comes of each way not to be steady.
-/

namespace FeatureFlags

/-! ### Evaluation of normal forms -/

/-- The variations go by their own keys, and every bound of a window is on the calendar in whole
milliseconds, where the time is on the same side of it as before. -/
structure Flag.SteadyAt (flag : Flag) (now : Instant) : Prop where
  variations : ∀ key variation, flag.variations.get? key = some variation → variation.key = key
  startAt : ∀ allocation ∈ flag.allocations, ∀ instant ∈ allocation.startAt,
    instant.OnWire ∧ now.before instant.reduced = now.before instant
  endAt : ∀ allocation ∈ flag.allocations, ∀ instant ∈ allocation.endAt,
    instant.OnWire ∧ now.before instant.reduced = now.before instant

instance (flag : Flag) (now : Instant) : Decidable (flag.SteadyAt now) :=
  decidable_of_iff
    ((∀ key variation, flag.variations.get? key = some variation → variation.key = key) ∧
      (∀ allocation ∈ flag.allocations, ∀ instant ∈ allocation.startAt,
        instant.OnWire ∧ now.before instant.reduced = now.before instant) ∧
      ∀ allocation ∈ flag.allocations, ∀ instant ∈ allocation.endAt,
        instant.OnWire ∧ now.before instant.reduced = now.before instant)
    ⟨fun ⟨variations, startAt, endAt⟩ => ⟨variations, startAt, endAt⟩,
      fun steady => ⟨steady.variations, steady.startAt, steady.endAt⟩⟩

/-- A flag that is steady at some time comes back from a format in its normal form. -/
theorem Flag.SteadyAt.encodable {flag : Flag} {now : Instant} (steady : flag.SteadyAt now) :
    flag.Encodable where
  distinct := Flag.distinct_of_own steady.variations
  startAt := fun allocation inside instant present =>
    (steady.startAt allocation inside instant present).1
  endAt := fun allocation inside instant present =>
    (steady.endAt allocation inside instant present).1

theorem Option.any_map_reduced {window : Option Instant} {test : Instant → Bool}
    (same : ∀ instant ∈ window, test instant.reduced = test instant) :
    (window.map Instant.reduced).any test = window.any test := by
  cases window with
  | none => rfl
  | some instant => exact same instant rfl

/-- The window of an allocation is open in its normal form when it is open. -/
theorem Allocation.select_normal {allocation : Allocation} (total : UInt32) (visit : Visit)
    (startAt : ∀ instant ∈ allocation.startAt,
      visit.now.before instant.reduced = visit.now.before instant)
    (endAt : ∀ instant ∈ allocation.endAt,
      visit.now.before instant.reduced = visit.now.before instant) :
    allocation.normal.select total visit = allocation.select total visit := by
  have starts : (allocation.startAt.map Instant.reduced).any
      (fun start => visit.now.before start) =
        allocation.startAt.any fun start => visit.now.before start :=
    Option.any_map_reduced startAt
  have stops : (allocation.endAt.map Instant.reduced).any (fun stop => !visit.now.before stop) =
      allocation.endAt.any fun stop => !visit.now.before stop :=
    Option.any_map_reduced fun instant present => congrArg not (endAt instant present)
  rw [Allocation.select, Allocation.normal, starts, stops]
  rfl

namespace Flag

variable {flag : Flag} {visit : Visit}

/-- The normal form chooses the same allocation and the same split. -/
theorem choice?_normal (steady : flag.SteadyAt visit.now) :
    flag.normal.choice? visit =
      (flag.choice? visit).map fun choice => (choice.1.normal, choice.2) := by
  rw [choice?, choice?]
  show (flag.allocations.map Allocation.normal).findSome? _ = _
  have startAt := steady.startAt
  have endAt := steady.endAt
  generalize flag.allocations = allocations at startAt endAt ⊢
  induction allocations with
  | nil => rfl
  | cons allocation rest ih =>
    have selected : allocation.normal.select flag.normal.totalShards (identified visit) =
        allocation.select flag.totalShards (identified visit) :=
      Allocation.select_normal flag.totalShards (identified visit)
        (fun instant present => (startAt allocation List.mem_cons_self instant present).2)
        fun instant present => (endAt allocation List.mem_cons_self instant present).2
    have later := ih
      (fun allocation inside => startAt allocation (List.mem_cons_of_mem _ inside))
      (fun allocation inside => endAt allocation (List.mem_cons_of_mem _ inside))
    rw [List.map_cons, List.findSome?_cons, List.findSome?_cons, selected]
    cases allocation.select flag.totalShards (identified visit) with
    | ok split => rfl
    | error reason => exact later

/-- **A flag that is steady serves what its normal form serves.** -/
theorem evaluate_normal (steady : flag.SteadyAt visit.now) :
    flag.normal.evaluate visit = flag.evaluate visit := by
  rw [evaluate, evaluate, choice?_normal steady, variations_normal steady.variations]
  cases flag.choice? visit <;> rfl

end Flag

/-! ### The flags of a document, written again -/

namespace Catalog

/-- Every flag can be decoded. -/
def Decodes (catalog : Catalog) : Prop :=
  ∀ key raw, catalog.flags.get? key = some raw → raw.decode.toOption.isSome

instance (catalog : Catalog) : Decidable catalog.Decodes :=
  inferInstanceAs (Decidable (∀ key raw, catalog.flags.get? key = some raw →
    raw.decode.toOption.isSome))

/-- A flag bears the key exactly if it stands under it, and the flag there is steady. -/
structure SteadyAt (catalog : Catalog) (key : String) (now : Instant) : Prop where
  keys : ∀ other raw, catalog.flags.get? other = some raw →
    ∀ flag ∈ raw.decode.toOption, (flag.key = key ↔ other = key)
  flag : ∀ result ∈ catalog.flag? key, ∀ flag ∈ result.toOption, flag.SteadyAt now

instance (catalog : Catalog) (key : String) (now : Instant) :
    Decidable (catalog.SteadyAt key now) :=
  decidable_of_iff
    ((∀ other raw, catalog.flags.get? other = some raw →
        ∀ flag ∈ raw.decode.toOption, (flag.key = key ↔ other = key)) ∧
      ∀ result ∈ catalog.flag? key, ∀ flag ∈ result.toOption, flag.SteadyAt now)
    ⟨fun ⟨keys, flag⟩ => ⟨keys, flag⟩, fun steady => ⟨steady.keys, steady.flag⟩⟩

variable {catalog : Catalog}

theorem mem_decodedFlags {flag : Flag} :
    flag ∈ catalog.decodedFlags ↔
      ∃ key raw, catalog.flags.get? key = some raw ∧ raw.decode.toOption = some flag := by
  rw [decodedFlags, List.mem_filterMap]
  constructor
  · rintro ⟨raw, inside, decoded⟩
    obtain ⟨key, found⟩ := Dict.mem_values_iff.1 inside
    exact ⟨key, raw, found, decoded⟩
  · rintro ⟨key, raw, found, decoded⟩
    exact ⟨raw, Dict.mem_values_iff.2 ⟨key, found⟩, decoded⟩

/-- Where flags stand under the keys they bear, the last flag that bears a key stands under it. -/
theorem flag?_of_perm {flags : List Flag} {key : String} {now : Instant}
    (decodes : catalog.Decodes) (steady : catalog.SteadyAt key now)
    (listed : flags.Perm catalog.decodedFlags) :
    catalog.flag? key = (lastFlag? flags key).map .ok := by
  cases last : lastFlag? flags key with
  | none =>
    cases found : catalog.flags.get? key with
    | none => rw [flag?, found]; rfl
    | some raw =>
      obtain ⟨flag, decoded⟩ := Option.isSome_iff_exists.1 (decodes key raw found)
      have inside : flag ∈ flags := listed.mem_iff.2 (mem_decodedFlags.2 ⟨key, raw, found, decoded⟩)
      have own : flag.key = key := (steady.keys key raw found flag decoded).2 rfl
      exact absurd (lastFlag?_eq_none_iff.1 last flag inside) (not_not.2 own)
  | some flag =>
    obtain ⟨inside, own⟩ := mem_of_lastFlag? last
    obtain ⟨other, raw, found, decoded⟩ := mem_decodedFlags.1 (listed.mem_iff.1 inside)
    have same : other = key := (steady.keys other raw found flag decoded).1 own
    rw [flag?, ← same, found]
    show some raw.decode = some (.ok flag)
    cases outcome : raw.decode with
    | ok content =>
      rw [outcome] at decoded
      cases decoded
      rfl
    | error cause =>
      rw [outcome] at decoded
      cases decoded

end Catalog

/-! ### Assignments -/

namespace Configuration

variable {first second : Decoder} {query : Query}

/-- An assignment depends on the flag at the key alone. -/
theorem assign_of_answer (same : second.answer? query.flagKey = first.answer? query.flagKey)
    (secondTime firstTime : Instant) (subject : Subject) :
    assign (some (ofFlags second secondTime)) query subject =
      assign (some (ofFlags first firstTime)) query subject := by
  have sameFlag : flag (some (ofFlags second secondTime)) query =
      flag (some (ofFlags first firstTime)) query := by
    rw [flag, flag]
    simp only [ofFlags, Option.bind_some, same]
  rw [assign, assign, evaluate, evaluate, sameFlag]

/-- The normal form of a steady flag makes the same assignments. -/
theorem assign_normal {found : Option Flag}
    (given : first.answer? query.flagKey = found.map .ok)
    (normal : second.answer? query.flagKey = found.map fun flag => .ok flag.normal)
    (steady : ∀ flag ∈ found, flag.SteadyAt query.now)
    (secondTime firstTime : Instant) (subject : Subject) :
    assign (some (ofFlags second secondTime)) query subject =
      assign (some (ofFlags first firstTime)) query subject := by
  rw [assign, assign, evaluate, evaluate, flag, flag]
  simp only [ofFlags, Option.bind_some, given, normal]
  cases found with
  | none => rfl
  | some flag =>
    have evaluated : flag.normal.evaluate (visitOf query subject) =
        flag.evaluate (visitOf query subject) := Flag.evaluate_normal (steady flag rfl)
    have required : ∀ expected, flag.normal.requireType expected = flag.requireType expected :=
      fun _ => rfl
    simp only [Option.map_some]
    cases query.expected with
    | none =>
      simp only [bind, Except.bind, evaluated]
      rfl
    | some expected =>
      simp only [required]
      cases flag.requireType expected with
      | error cause => rfl
      | ok _ =>
        simp only [Except.map, bind, Except.bind, evaluated]
        rfl

end Configuration

/-- The assignment that the octets of a configuration give once they are read. -/
def assignFrom (format : WireFormat) (octets : Octets) (materialization : Materialization)
    (fetchedAt : Instant) (query : Query) (subject : Subject) :
    Decoded (Except FlagError (Option Assignment)) :=
  (Decoder.ofOctets format octets materialization).map fun made =>
    Configuration.assign (some (.ofFlags made.1 fetchedAt)) query subject

section AssignFrom

variable {format : WireFormat} {octets : Octets} {materialization : Materialization}
variable {fetchedAt : Instant} {query : Query} {subject : Subject}

/-- There is an assignment, or an error of it, exactly if the octets are accepted. -/
theorem exists_assignFrom_iff :
    (∃ result, assignFrom format octets materialization fetchedAt query subject = .ok result) ↔
      ∃ catalog, Catalog.ofOctets format octets = .ok catalog := by
  rw [assignFrom, Except.exists_map_eq_ok, Decoder.ofOctets, Except.exists_map_eq_ok]

/-- What is given once the octets are accepted. -/
theorem assignFrom_eq {catalog : Catalog} (accepted : Catalog.ofOctets format octets = .ok catalog)
    (materialization : Materialization) (fetchedAt : Instant) (query : Query) (subject : Subject) :
    assignFrom format octets materialization fetchedAt query subject =
      .ok (Configuration.assign
        (some (.ofFlags (Decoder.ofCatalog catalog materialization).1 fetchedAt)) query
        subject) := by
  rw [assignFrom, Decoder.ofOctets, accepted]
  rfl

end AssignFrom

/-! ### The time at which a document was made -/

/-- An instant of the calendar is written and read again exactly if the beginning of its millisecond
is on the calendar. -/
theorem exists_optionalInstant_iff {window : Option Instant}
    (valid : ∀ instant ∈ window, instant.IsValid) :
    (∃ made, optionalInstant (window.map Instant.toWireMillis) = .ok made) ↔
      ∀ instant ∈ window, instant.OnWire := by
  constructor
  · rintro ⟨made, read⟩ instant present
    obtain ⟨low, high, nanos, _⟩ := valid instant present
    have first : Instant.firstSecond = -8334601228800 := by decide
    have last : Instant.lastSecond = 8210266876799 := by decide
    have exact : instant.toWireMillis.toInt = instant.toMillis := by
      refine Int64.toInt_ofInt_of_le ?_ ?_
      all_goals unfold Instant.toMillis
      all_goals unfold Instant.nanosPerSecond at nanos
      all_goals omega
    cases present
    by_contra off
    rw [Instant.OnWire, Bool.not_eq_true, Option.isSome_eq_false_iff, Option.isNone_iff_eq_none]
      at off
    simp only [Option.map_some, optionalInstant, Instant.ofWireMillis, exact, off] at read
    cases read
  · intro onWire
    exact ⟨_, optionalInstant_toWireMillis onWire⟩

/-- What a document says of the time at which it was made is on the calendar. -/
theorem Catalog.isValid_createdAt {text : Octets} {source : Catalog}
    (isSource : Catalog.ofOctets .json text = .ok source) :
    ∀ instant ∈ source.createdAt, instant.IsValid := by
  intro instant present
  have isJson : Catalog.ofJson text = .ok source := isSource
  unfold Catalog.ofJson at isJson
  split at isJson
  · rename_i catalog isCatalog
    cases isJson
    obtain ⟨document, _, isCatalog⟩ := Option.bind_eq_some_iff.mp isCatalog
    obtain ⟨record, _, isCatalog⟩ := Option.bind_eq_some_iff.mp isCatalog
    obtain ⟨createdAt, isCreatedAt, isCatalog⟩ := Option.bind_eq_some_iff.mp isCatalog
    obtain ⟨environment, _, isCatalog⟩ := Option.bind_eq_some_iff.mp isCatalog
    obtain ⟨flags, _, isCatalog⟩ := Option.bind_eq_some_iff.mp isCatalog
    cases isCatalog
    obtain ⟨_, isInstant⟩ := Record.exists_of_nullable isCreatedAt present
    obtain ⟨text, _, isInstant⟩ := Option.bind_eq_some_iff.mp isInstant
    exact Instant.isValid_of_ofText? isInstant
  · cases isJson

/-! ### The agreement -/

/-- Whether a result is given, and is as it should be, is found by a look at it. -/
instance decidableExistsOk {ε α : Type} {p : α → Prop} [DecidablePred p] (result : Except ε α) :
    Decidable (∃ value, result = .ok value ∧ p value) :=
  match result with
  | .ok value => decidable_of_iff (p value)
      ⟨fun holds => ⟨value, rfl, holds⟩, fun ⟨_, same, holds⟩ => by cases same; exact holds⟩
  | .error _ => isFalse fun ⟨_, impossible, _⟩ => by cases impossible

/-- A document with one flag. -/
def Flag.document (flag : Flag) (key : String) : Octets :=
  (Json.object [("flags", .object [(key, flag.toJson)])]).toOctets

/-- A flag that serves everyone from an instant within a millisecond on. -/
def Flag.banner : Flag where
  key := "banner"
  enabled := true
  variationType := .string
  variations := ⟨[("on", ⟨"on", .string "yes"⟩)], by decide⟩
  allocations := [⟨"everyone", [], some ⟨1700000000, 123456789⟩, none,
    [⟨[], "on", Dict.empty⟩], true⟩]
  totalShards := 10000
  entityId := none

/-- A query for a flag of any type. -/
def Query.of (key : String) (now : Instant) : Query := ⟨key, none, now, .own⟩

/-- A subject without attributes. -/
def Subject.visitor : Subject := ⟨"visitor", Dict.empty⟩

/-- What carries the flags of a document makes its assignments where the document is steady. -/
theorem Catalog.Carries.assign_eq {source made : Catalog} {flags : List Flag}
    {listings : List ListedFlag} {createdAt : Option Instant} {environment : Option String}
    {query : Query} (carries : made.Carries createdAt environment listings)
    (listed : List.Forall₂ ListedFlag.Lists listings flags) (decodes : source.Decodes)
    (permuted : flags.Perm source.decodedFlags)
    (steady : source.SteadyAt query.flagKey query.now)
    (first second : Materialization) (firstTime secondTime : Instant) (subject : Subject) :
    Configuration.assign (some (.ofFlags (Decoder.ofCatalog made first).1 firstTime)) query
        subject =
      Configuration.assign (some (.ofFlags (Decoder.ofCatalog source second).1 secondTime)) query
        subject := by
  have last := Catalog.flag?_of_perm decodes steady permuted
  have steadyFlag : ∀ flag ∈ lastFlag? flags query.flagKey, flag.SteadyAt query.now :=
    fun flag isLast => steady.flag (.ok flag) (last.trans (congrArg _ isLast)) flag rfl
  have normal := carries.flag?_of_encodable listed fun flag isLast =>
    (steadyFlag flag isLast).encodable
  exact Configuration.assign_normal ((Decoder.answer?_ofCatalog source second _).trans last)
    ((Decoder.answer?_ofCatalog made first _).trans normal) steadyFlag _ _ subject

/-- **The wire formats agree.** The flags of a document are written again, in any order and with
their maps listed in any order.

The message is accepted exactly if the millisecond in which the document was made is on the
calendar, and the buffer exactly if also the budget of a visit covers it. The two make the same
assignments for all queries, and they are the assignments of the document at every key and time
where it is steady. -/
theorem formats_agree_on_assignments {text : Octets} {source : Catalog} {flags : List Flag}
    {listings : List ListedFlag} (isSource : Catalog.ofOctets .json text = .ok source)
    (decodes : source.Decodes) (permuted : flags.Perm source.decodedFlags)
    (listed : List.Forall₂ ListedFlag.Lists listings flags)
    (materialization : WireFormat → Materialization) (fetchedAt : WireFormat → Instant)
    (query : Query) (subject : Subject) :
    let message := encodeProtobuf source.createdAt source.environment listings
    let buffer := encodeFlatbuffer source.createdAt source.environment listings
    let given := fun format octets =>
      assignFrom format octets (materialization format) (fetchedAt format) query subject
    (message.length < 2 ^ 64 →
      ((∃ result, given .protobuf message = .ok result) ↔
        ∀ instant ∈ source.createdAt, instant.OnWire) ∧
      ∀ result, given .protobuf message = .ok result →
        source.SteadyAt query.flagKey query.now → given .json text = .ok result) ∧
    (buffer.length ≤ 2 ^ 31 →
      ((∃ result, given .flatbuffer buffer = .ok result) ↔
        (∀ instant ∈ source.createdAt, instant.OnWire) ∧
          (configVisits source.createdAt source.environment listings).Within Budget.full) ∧
      ∀ result, given .flatbuffer buffer = .ok result →
        (message.length < 2 ^ 64 → given .protobuf message = .ok result) ∧
        (source.SteadyAt query.flagKey query.now → given .json text = .ok result)) := by
  intro message buffer given
  have created := exists_optionalInstant_iff (Catalog.isValid_createdAt isSource)
  refine ⟨fun short => ⟨?_, fun result isGiven steady => ?_⟩,
    fun small => ⟨?_, fun result isGiven => ?_⟩⟩
  · rw [exists_assignFrom_iff, accepts_encodeProtobuf short, created]
  · obtain ⟨made, accepted⟩ := exists_assignFrom_iff.1 ⟨result, isGiven⟩
    have carries := carries_encodeProtobuf short accepted
    rw [← isGiven]
    show assignFrom _ _ _ _ _ _ = assignFrom _ _ _ _ _ _
    rw [assignFrom_eq isSource, assignFrom_eq accepted,
      carries.assign_eq listed decodes permuted steady]
  · rw [exists_assignFrom_iff, accepts_encodeFlatbuffer small, created, and_comm]
  · obtain ⟨made, accepted⟩ := exists_assignFrom_iff.1 ⟨result, isGiven⟩
    have carries := carries_encodeFlatbuffer small accepted
    refine ⟨fun short => ?_, fun steady => ?_⟩
    · obtain ⟨other, otherAccepted⟩ :=
        (accepts_encodeProtobuf short).2 ⟨_, carries.createdAt⟩
      have otherCarries := carries_encodeProtobuf short otherAccepted
      rw [← isGiven]
      show assignFrom _ _ _ _ _ _ = assignFrom _ _ _ _ _ _
      rw [assignFrom_eq otherAccepted, assignFrom_eq accepted]
      refine congrArg Except.ok (Configuration.assign_of_answer ?_ _ _ subject)
      rw [Decoder.answer?_ofCatalog, Decoder.answer?_ofCatalog, otherCarries.flags, carries.flags]
    · rw [← isGiven]
      show assignFrom _ _ _ _ _ _ = assignFrom _ _ _ _ _ _
      rw [assignFrom_eq isSource, assignFrom_eq accepted,
        carries.assign_eq listed decodes permuted steady]

theorem formats_agree_on_assignments_banner :
    ∃ source, Catalog.ofOctets .json (Flag.banner.document "banner") = .ok source ∧
      ∃ event,
        assignFrom .protobuf (encodeProtobuf source.createdAt source.environment
            (source.decodedFlags.map Flag.listed))
          .lazy default (.of "banner" ⟨1700000001, 0⟩) .visitor =
            .ok (.ok (some ⟨.string "yes", some event⟩)) ∧
        assignFrom .flatbuffer (encodeFlatbuffer source.createdAt source.environment
            (source.decodedFlags.map Flag.listed))
          .lazy default (.of "banner" ⟨1700000001, 0⟩) .visitor =
            .ok (.ok (some ⟨.string "yes", some event⟩)) ∧
        assignFrom .json (Flag.banner.document "banner") .lazy default
          (.of "banner" ⟨1700000001, 0⟩) .visitor =
            .ok (.ok (some ⟨.string "yes", some event⟩)) := by
  have evaluated : ∃ source, Catalog.ofOctets .json (Flag.banner.document "banner") = .ok source ∧
      source.Decodes ∧ (∀ instant ∈ source.createdAt, instant.OnWire) ∧
      (encodeProtobuf source.createdAt source.environment
        (source.decodedFlags.map Flag.listed)).length < 2 ^ 64 ∧
      (encodeFlatbuffer source.createdAt source.environment
        (source.decodedFlags.map Flag.listed)).length ≤ 2 ^ 31 ∧
      (configVisits source.createdAt source.environment
        (source.decodedFlags.map Flag.listed)).Within Budget.full ∧
      source.SteadyAt "banner" ⟨1700000001, 0⟩ := by
    decide +kernel
  have served : assignFrom .json (Flag.banner.document "banner") .lazy default
      (.of "banner" ⟨1700000001, 0⟩) .visitor =
        .ok (.ok (some ⟨.string "yes", some ⟨"banner", some "everyone", some "on", "visitor",
          Dict.empty, ⟨1700000001, 0⟩, .own, false, Dict.empty⟩⟩)) := by
    decide +kernel
  obtain ⟨source, isSource, decodes, created, short, small, within, steady⟩ := evaluated
  have agreement := formats_agree_on_assignments isSource decodes (List.Perm.refl _)
    (forall₂_map_listed _) (fun _ => .lazy) (fun _ => default) (.of "banner" ⟨1700000001, 0⟩)
    .visitor
  obtain ⟨accepts, agrees⟩ := agreement.2 small
  obtain ⟨result, buffer⟩ := accepts.2 ⟨created, within⟩
  obtain ⟨message, document⟩ := agrees result buffer
  have isServed := (document steady).symm.trans served
  rw [isServed] at buffer message
  exact ⟨source, isSource, _, message short, buffer, served⟩

/-- Every flag of a document can be decoded, and yet the flags give another assignment when they are
written again as a message. -/
def Disagrees (text : Octets) (query : Query) (subject : Subject) : Prop :=
  ∃ source, Catalog.ofOctets .json text = .ok source ∧ source.Decodes ∧
    assignFrom .protobuf (encodeProtobuf source.createdAt source.environment
        (source.decodedFlags.map Flag.listed)) .lazy default query subject ≠
    assignFrom .json text .lazy default query subject

instance (text : Octets) (query : Query) (subject : Subject) :
    Decidable (Disagrees text query subject) :=
  inferInstanceAs (Decidable (∃ source, Catalog.ofOctets .json text = .ok source ∧
    source.Decodes ∧ _))

/-- **What the formats do not keep matters**: the key that a flag stands under, the key that a
variation stands under, the fraction of a millisecond in which a window begins, and a leap second at
the end of the calendar. A message that was made in this leap second is not accepted. -/
theorem formats_disagree_on_assignments :
    Disagrees (Flag.banner.document "teaser") (.of "teaser" ⟨1700000001, 0⟩) .visitor ∧
    Disagrees
      ({ Flag.banner with
        variations := ⟨[("on", ⟨"off", .string "yes"⟩)], by decide⟩ }.document "banner")
      (.of "banner" ⟨1700000001, 0⟩) .visitor ∧
    Disagrees (Flag.banner.document "banner") (.of "banner" ⟨1700000000, 123000000⟩) .visitor ∧
    Disagrees
      ({ Flag.banner with
        allocations := [⟨"everyone", [], none, some ⟨8210266876799, 1000000000⟩,
          [⟨[], "on", Dict.empty⟩], true⟩] }.document "banner")
      (.of "banner" ⟨1700000001, 0⟩) .visitor ∧
    Disagrees
      (Json.object [("createdAt", (Instant.mk 8210266876799 1000000000).toJson),
        ("flags", .object [])]).toOctets (.of "banner" ⟨1700000001, 0⟩) .visitor := by
  decide +kernel

end FeatureFlags
