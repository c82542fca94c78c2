import FeatureFlags.Proofs.Flatbuffer.Flag
import FeatureFlags.Proofs.Protobuf.RoundTrip

/-!
**A buffer of tables holds the flags that it was made of.**

The buffer begins with an offset to the table of the configuration, from which all readers set out.
It keeps to the schema exactly if a visit of all of its parts, which costs a function of what is
listed, is within the budget of a visit.

* `configVisits`: what it costs to visit a whole buffer.
* `keepsTo_encodeFlatbuffer`: whether the buffer keeps to the schema.
* `accepts_encodeFlatbuffer`, `carries_encodeFlatbuffer`: when the buffer is accepted, and what it
  gives back.
* `encodeFlatbuffer_decodes`: from flags to octets and back.
-/

namespace FeatureFlags

open Buffer

/-- What it costs to visit a text, if there is one. -/
def optionalTextVisits : Option String → Budget
  | none => 0
  | some text => textVisits text

/-- What it costs to visit a configuration: the offset to its table, the table, when it was made,
where for, and the flags. -/
def configVisits (createdAt : Option Instant) (environment : Option String)
    (listings : List ListedFlag) : Budget :=
  ⟨0, 4⟩ + (tableVisits 3 + windowVisits createdAt + optionalTextVisits environment +
    vectorVisits (listings.map ListedFlag.visits))

/-! ### A text that may be missing -/

section OptionalText

variable {buffer : Buffer} {fields : List (Nat × SlotContent)} {layout table slot : Nat}
variable {text : Option String} {place : Option Nat}

theorem Buffer.IsTable.optionalText? (isTable : buffer.IsTable fields table) (isSlot : IsSlot slot)
    (here : fields.lookup slot = place.map .offset)
    (isText : Option.Rel (fun text place => buffer.IsText text (buffer.size - place)) text place) :
    buffer.text? table slot = .ok text := by
  cases isText with
  | none => exact isTable.field?_none isSlot here
  | some isText => exact isTable.text? isSlot here isText

theorem Buffer.IsTableAt.costs_optionalText {slots : Slots} {cost : Budget}
    (isTable : buffer.IsTableAt fields layout table) (isSlot : IsSlot slot)
    (here : fields.lookup slot = place.map .offset)
    (isText : Option.Rel (fun text place => buffer.IsText text (buffer.size - place)) text place)
    (before : Costs (buffer.visitSlots slots table layout (layoutLength (fields.map Prod.fst)))
      cost) :
    Costs (buffer.visitSlots (slots.also slot false .text) table layout
        (layoutLength (fields.map Prod.fst)))
      (cost + (slotCost (layoutLength (fields.map Prod.fst)) slot + optionalTextVisits text)) := by
  cases isText with
  | none =>
    have costs : Costs (buffer.visitSlots (slots.also slot false .text) table layout
        (layoutLength (fields.map Prod.fst)))
        (cost + slotCost (layoutLength (fields.map Prod.fst)) slot) :=
      isTable.costs_absent isSlot here before
    exact costs.of_eq (by simp [optionalTextVisits]) (by simp [optionalTextVisits])
  | some isText => exact isTable.costs_text isSlot here isText before

end OptionalText

namespace Builder

variable {builder : Builder}

/-! ### The table of a configuration -/

/-- What the table of a configuration holds, and what it costs to visit it. -/
structure ConfigAt (createdAt : Option Instant) (environment : Option String)
    (listings : List ListedFlag) (buffer : Buffer) (root : Nat) : Prop where
  readCreatedAt : buffer.instant? root 4 = optionalInstant (createdAt.map Instant.toWireMillis)
  readEnvironment : buffer.text? root 6 = .ok environment
  readFlags : ∃ targets, buffer.tables root 8 = .ok targets ∧
    List.Forall₂ (fun listed target => buffer.flag target = listed.carried ∧
      buffer.requiredText "flag.key" target 4 = .ok listed.key) listings targets
  costs : Costs (buffer.visitTable Slots.config root)
    (tableVisits 3 + windowVisits createdAt + optionalTextVisits environment +
      vectorVisits (listings.map ListedFlag.visits))

theorem optionalText_outcome (sound : builder.Sound) (value : Option String) :
    Outcome builder (value.mapM Builder.text) (fun after place =>
      Option.Rel (fun text place =>
        after.Stands (fun buffer position => buffer.IsText text position) place) value place) := by
  cases value with
  | none => exact ⟨sound, Extends.refl builder, .none⟩
  | some text =>
    have outcome := text_outcome sound text
    exact ⟨outcome.sound, outcome.grown, .some outcome.given⟩

/-- The fields of a configuration, given the places of its environment and of its flags. -/
def configFields (createdAt : Option Instant) (environment : Option Nat) (flags : Nat) :
    List (Nat × SlotContent) :=
  slotWhenSome 4 8 (windowBits createdAt) ++
    (environment.map fun place => (6, SlotContent.offset place)).toList ++ [(8, .offset flags)]

theorem config_outcome (sound : builder.Sound) (createdAt : Option Instant)
    (environment : Option String) (listings : List ListedFlag) :
    Outcome builder (config createdAt environment listings)
      (Stands (ConfigAt createdAt environment listings)) := by
  rw [config, int64Slot_eq]
  refine vectorOf_bind sound (fun listed _ _ sound => flag_outcome sound listed)
    fun _ vector sound grown vectorStands => ?_
  refine (optionalText_outcome sound environment).bind fun after place sound grown related => ?_
  have vectorStands := vectorStands.extend grown
  have optional : Fitting after.used 1
      (place.map fun place => (6, SlotContent.offset place)).toList := by
    cases related with
    | none => exact ⟨List.forall_mem_nil _, Nat.zero_le 1⟩
    | some stands => exact .offset (by decide) stands.1 .nil
  have fit : Fitting after.used 3 (configFields createdAt place vector) :=
    ((Fitting.slotWhenSome (by decide) (.inr (.inr rfl)) (windowBits_lt createdAt)).append
      optional).append (.offset (by decide) vectorStands.1 .nil)
  have at4 : (configFields createdAt place vector).lookup 4 =
      (windowBits createdAt).map (.number 8) := by
    cases place <;> simp [configFields, List.lookup_cons, List.lookup_append]
  have at6 : (configFields createdAt place vector).lookup 6 = place.map .offset := by
    cases place <;> simp [configFields, List.lookup_cons, List.lookup_append]
  have at8 : (configFields createdAt place vector).lookup 8 = some (.offset vector) := by
    cases place <;> simp [configFields, List.lookup_cons, List.lookup_append]
  have length : layoutLength ((configFields createdAt place vector).map Prod.fst) = 10 := by
    unfold configFields
    cases windowBits createdAt <;> cases place <;> simp [layoutLength, slotWhenSome]
  show Outcome after (table (configFields createdAt place vector)) _
  refine table_outcome sound (fit.fieldsFit (by decide)) fun buffer completed position isTable => ?_
  obtain ⟨targets, isVector, each⟩ := vectorStands.2 buffer completed
  have flagCosts : List.Forall₂ (fun target cost => Costs (buffer.visitTable Slots.flag target) cost)
      targets (listings.map ListedFlag.visits) := by
    rw [List.forall₂_map_right_iff]
    exact each.flip.imp fun target listed serves => serves.1.costs
  have isEnvironment : Option.Rel (fun text place => buffer.IsText text (buffer.size - place))
      environment place := by
    cases related with
    | none => exact .none
    | some stands => exact .some (stands.2 buffer completed)
  refine ⟨instant?_eq isTable (by decide) at4,
    isTable.optionalText? (by decide) at6 isEnvironment, ⟨targets,
    isTable.tables (by decide) at8 isVector,
    each.imp fun listed target serves => ⟨serves.1.reads, serves.2⟩⟩, ?_⟩
  refine (isTable.costs fun layout isTableAt =>
    isTableAt.costs_tables (by decide) at8 isVector flagCosts <|
    isTableAt.costs_optionalText (by decide) at6 isEnvironment <|
    isTableAt.costs_number _ (by decide) at4 <| costs_none _).of_eq ?_ ?_
  all_goals rw [length]
  all_goals simp [tableVisits, slotCost]
  all_goals omega

end Builder

/-! ### The whole buffer -/

section Encoded

variable {createdAt : Option Instant} {environment : Option String}
variable {listings : List ListedFlag} {flags : List Flag}

theorem encodeFlatbuffer_root
    (small : (encodeFlatbuffer createdAt environment listings).length ≤ 2 ^ 31) :
    ∃ root, (Buffer.ofOctets (encodeFlatbuffer createdAt environment listings)).root = .ok root ∧
      Builder.ConfigAt createdAt environment listings
        (Buffer.ofOctets (encodeFlatbuffer createdAt environment listings)) root :=
  Builder.finish_follow
    (Builder.config_outcome Builder.sound_empty createdAt environment listings) small

/-- **A buffer keeps to the schema exactly if the budget of a visit covers it.** -/
theorem keepsTo_encodeFlatbuffer
    (small : (encodeFlatbuffer createdAt environment listings).length ≤ 2 ^ 31) :
    (Buffer.ofOctets (encodeFlatbuffer createdAt environment listings)).keepsTo .config ↔
      (configVisits createdAt environment listings).Within Budget.full := by
  obtain ⟨root, isRoot, configAt⟩ := encodeFlatbuffer_root small
  have whole : (Buffer.ofOctets (encodeFlatbuffer createdAt environment listings)).visitShape
      (.table .config) 0 Budget.full =
        (configVisits createdAt environment listings).spend Budget.full := by
    rw [visitShape]
    exact costs_through (Nat.zero_mod 4) isRoot configAt.costs Budget.full
  rw [keepsTo, whole, Budget.isSome_spend]

/-- The flags of a buffer are listed by their keys, and each decodes to what it carries. -/
theorem flagIndex_of_configAt {buffer : Buffer} {root : Nat} (isRoot : buffer.root = .ok root)
    (configAt : Builder.ConfigAt createdAt environment listings buffer root) :
    ∃ index, buffer.flagIndex = .ok index ∧
      ((index.map fun entry => (entry.1, RawFlag.table buffer entry.2)).map fun entry =>
        (entry.1, entry.2.decode)) = listings.map fun listed => (listed.key, listed.carried) := by
  obtain ⟨targets, isVector, each⟩ := configAt.readFlags
  have indexed : ∃ index, targets.mapM (fun target => do
      let key ← buffer.requiredText "flag.key" target 4
      return (key, target)) = .ok index ∧
        ((index.map fun entry => (entry.1, RawFlag.table buffer entry.2)).map fun entry =>
          (entry.1, entry.2.decode)) =
            listings.map fun listed => (listed.key, listed.carried) := by
    clear isVector configAt
    induction each with
    | nil => exact ⟨[], List.mapM_nil, rfl⟩
    | @cons listed target _ _ head _ ih =>
      obtain ⟨index, isIndex, decoded⟩ := ih
      refine ⟨(listed.key, target) :: index, ?_, ?_⟩
      · rw [List.mapM_cons, head.2, isIndex]
        rfl
      · rw [List.map_cons, List.map_cons, decoded, List.map_cons]
        show (listed.key, buffer.flag target) :: _ = _
        rw [head.1]
  obtain ⟨index, isIndex, decoded⟩ := indexed
  refine ⟨index, ?_, decoded⟩
  rw [flagIndex, isRoot]
  show (buffer.tables root 8).bind _ = _
  rw [isVector]
  exact isIndex

/-- The catalog that a buffer holds, if the budget covers it and its time can be read. -/
theorem ofOctets_encodeFlatbuffer
    (small : (encodeFlatbuffer createdAt environment listings).length ≤ 2 ^ 31) :
    ∃ entries : List (String × RawFlag),
      (entries.map fun entry => (entry.1, entry.2.decode)) =
        (listings.map fun listed => (listed.key, listed.carried)) ∧
      Catalog.ofOctets .flatbuffer (encodeFlatbuffer createdAt environment listings) =
        if (Buffer.ofOctets (encodeFlatbuffer createdAt environment listings)).keepsTo .config then
          (optionalInstant (createdAt.map Instant.toWireMillis)).map fun made =>
            ⟨.flatbuffer, encodeFlatbuffer createdAt environment listings, made, environment,
              Dict.ofList entries⟩
        else .error .invalidFlatbuffer := by
  obtain ⟨root, isRoot, configAt⟩ := encodeFlatbuffer_root small
  obtain ⟨index, isIndex, decoded⟩ := flagIndex_of_configAt isRoot configAt
  refine ⟨_, decoded, ?_⟩
  have readCreatedAt :
      (Buffer.ofOctets (encodeFlatbuffer createdAt environment listings)).createdAt =
        optionalInstant (createdAt.map Instant.toWireMillis) := by
    rw [Buffer.createdAt, isRoot]
    exact configAt.readCreatedAt
  have readEnvironment : (Buffer.ofOctets
      (encodeFlatbuffer createdAt environment listings)).environment = .ok environment := by
    rw [Buffer.environment, isRoot]
    exact configAt.readEnvironment
  simp only [Catalog.ofOctets, Catalog.ofFlatbuffer, readCreatedAt, readEnvironment, isIndex]
  split
  · show (optionalInstant (createdAt.map Instant.toWireMillis)).bind _ = _
    cases optionalInstant (createdAt.map Instant.toWireMillis) <;> rfl
  · rfl

/-- **A buffer is accepted exactly if the budget of a visit covers it and its time can be read.** -/
theorem accepts_encodeFlatbuffer
    (small : (encodeFlatbuffer createdAt environment listings).length ≤ 2 ^ 31) :
    (∃ catalog, Catalog.ofOctets .flatbuffer (encodeFlatbuffer createdAt environment listings) =
      .ok catalog) ↔ (configVisits createdAt environment listings).Within Budget.full ∧
        ∃ made, optionalInstant (createdAt.map Instant.toWireMillis) = .ok made := by
  obtain ⟨entries, _, outcome⟩ := ofOctets_encodeFlatbuffer small
  rw [outcome, ← keepsTo_encodeFlatbuffer small]
  split
  · rename_i keeps
    rw [Except.exists_map_eq_ok, and_iff_right keeps]
  · rename_i breaks
    constructor
    · rintro ⟨_, impossible⟩
      cases impossible
    · rintro ⟨keeps, _⟩
      exact absurd keeps breaks

/-- **A buffer that is accepted gives back what is listed.** -/
theorem carries_encodeFlatbuffer
    (small : (encodeFlatbuffer createdAt environment listings).length ≤ 2 ^ 31) {catalog : Catalog}
    (accepted : Catalog.ofOctets .flatbuffer (encodeFlatbuffer createdAt environment listings) =
      .ok catalog) : catalog.Carries createdAt environment listings := by
  obtain ⟨entries, decoded, outcome⟩ := ofOctets_encodeFlatbuffer small
  rw [outcome] at accepted
  split at accepted
  · obtain ⟨made, created, rfl⟩ := Except.exists_of_map_eq_ok accepted
    exact .of_entries rfl created rfl decoded
  · cases accepted

/-- **Flatbuffer decoding undoes flatbuffer encoding**, whatever the order in which the maps of the
flags are listed, up to the normal form of flags. It gives the same flags as protobuf decoding does,
for which the maps may be listed in another order. A buffer within the limit of a builder is
accepted exactly if the budget of a visit covers it, and a protobuf message must be short enough to
be counted with 64 bits. -/
theorem encodeFlatbuffer_decodes (listed : List.Forall₂ ListedFlag.Lists listings flags)
    (created : ∀ instant ∈ createdAt, instant.OnWire)
    (encodable : ∀ flag ∈ flags, flag.Encodable)
    (small : (encodeFlatbuffer createdAt environment listings).length ≤ 2 ^ 31) :
    ((Buffer.ofOctets (encodeFlatbuffer createdAt environment listings)).keepsTo .config ↔
      (configVisits createdAt environment listings).Within Budget.full) ∧
    ((configVisits createdAt environment listings).Within Budget.full →
      ∃ catalog, Catalog.ofOctets .flatbuffer (encodeFlatbuffer createdAt environment listings) =
          .ok catalog ∧ catalog.Holds createdAt environment flags ∧
        ∀ others, List.Forall₂ ListedFlag.Lists others flags →
          (encodeProtobuf createdAt environment others).length < 2 ^ 64 →
          ∃ other, Catalog.ofOctets .protobuf (encodeProtobuf createdAt environment others) =
            .ok other ∧ other.keys = catalog.keys ∧
              ∀ key, other.flag? key = catalog.flag? key) ∧
    (∀ flag ∈ flags, ∀ key variation, flag.normal.variations.get? key = some variation ↔
      variation ∈ flag.variations.values ∧ variation.key = key) ∧
    ∀ flag ∈ flags, flag.IsNormal → flag.normal = flag := by
  refine ⟨keepsTo_encodeFlatbuffer small, fun within => ?_,
    fun flag inside => Flag.get?_normal (encodable flag inside),
    fun _ _ normal => Flag.normal_eq_self normal⟩
  have made := optionalInstant_toWireMillis created
  obtain ⟨catalog, accepted⟩ := (accepts_encodeFlatbuffer small).2 ⟨within, _, made⟩
  have holds := (carries_encodeFlatbuffer small accepted).holds listed created encodable
  refine ⟨catalog, accepted, holds, fun others otherListed short => ?_⟩
  obtain ⟨other, otherAccepted⟩ := (accepts_encodeProtobuf short).2 ⟨_, made⟩
  have otherHolds :=
    (carries_encodeProtobuf short otherAccepted).holds otherListed created encodable
  exact ⟨other, otherAccepted, otherHolds.agree holds⟩

end Encoded

theorem encodeFlatbuffer_decodes_sample :
    [ListedFlag.sample] ≠ [Flag.sample.listed] ∧
    ∃ catalog, Catalog.ofOctets .flatbuffer
        (encodeFlatbuffer (some ⟨1700000000, 5⟩) (some "Production") [ListedFlag.sample]) =
      .ok catalog ∧ catalog.Holds (some ⟨1700000000, 5⟩) (some "Production") [Flag.sample] := by
  have whole := encodeFlatbuffer_decodes (.cons ListedFlag.sample_lists .nil)
    (by decide : ∀ instant ∈ some (Instant.mk 1700000000 5), instant.OnWire)
    (by simpa using Flag.sample_encodable : ∀ flag ∈ [Flag.sample], flag.Encodable)
    (by decide +kernel : (encodeFlatbuffer (some ⟨1700000000, 5⟩) (some "Production")
      [ListedFlag.sample]).length ≤ 2 ^ 31)
  obtain ⟨catalog, accepted, holds, _⟩ := whole.2.1 (by decide +kernel)
  exact ⟨by decide, catalog, accepted, holds⟩

end FeatureFlags
