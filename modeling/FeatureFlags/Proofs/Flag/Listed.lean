import FeatureFlags.Flag.Listed
import FeatureFlags.Proofs.Flag.Normal
import Mathlib.Data.List.Forall2

/-!
**Flags come back alike, whatever the order in which their maps were listed.**

A walk over a map meets each of its entries once, so what it lists is a permutation of the entries.
A format that lists maps and counts instants in milliseconds gives back what a listing carries: of
several entries with one key the last, and instants as their milliseconds read. That is the normal
form of the flag if the flag is encodable, for every walk over every map.

* `ListedFlag.Lists`: each map of a flag is listed as some walk meets its entries.
* `ListedFlag.carried`: what a format gives back of a listed flag, or why it gives none.
* `ListedFlag.Lists.carried_eq`: it is the normal form of the flag.
* `Catalog.Carries`: a catalog gives back flags as they are listed; `Catalog.Carries.holds`: then it
  holds the flags.
-/

namespace FeatureFlags

/-! ### Listings of a flag -/

/-- A split is listed as some walk meets its extra logging. -/
structure ListedSplit.Lists (listed : ListedSplit) (split : Split) : Prop where
  shards : listed.shards = split.shards
  variationKey : listed.variationKey = split.variationKey
  extraLogging : listed.extraLogging.Perm split.extraLogging.entries

/-- An allocation is listed, split by split. -/
structure ListedAllocation.Lists (listed : ListedAllocation) (allocation : Allocation) : Prop where
  key : listed.key = allocation.key
  rules : listed.rules = allocation.rules
  startAt : listed.startAt = allocation.startAt
  endAt : listed.endAt = allocation.endAt
  splits : List.Forall₂ ListedSplit.Lists listed.splits allocation.splits
  doLog : listed.doLog = allocation.doLog

/-- A flag is listed as some walk meets its variations, allocation by allocation. -/
structure ListedFlag.Lists (listed : ListedFlag) (flag : Flag) : Prop where
  key : listed.key = flag.key
  enabled : listed.enabled = flag.enabled
  variationType : listed.variationType = flag.variationType
  variations : listed.variations.Perm flag.variations.values
  allocations : List.Forall₂ ListedAllocation.Lists listed.allocations flag.allocations
  totalShards : listed.totalShards = flag.totalShards
  entityId : listed.entityId = flag.entityId

theorem Split.listed_lists (split : Split) : split.listed.Lists split := ⟨rfl, rfl, .refl _⟩

theorem Allocation.listed_lists (allocation : Allocation) :
    allocation.listed.Lists allocation where
  key := rfl
  rules := rfl
  startAt := rfl
  endAt := rfl
  splits := List.forall₂_map_left_iff.2 (List.forall₂_same.2 fun split _ => split.listed_lists)
  doLog := rfl

/-- The order of the keys is the order of a walk. -/
theorem Flag.listed_lists (flag : Flag) : flag.listed.Lists flag where
  key := rfl
  enabled := rfl
  variationType := rfl
  variations := .refl _
  allocations :=
    List.forall₂_map_left_iff.2 (List.forall₂_same.2 fun allocation _ => allocation.listed_lists)
  totalShards := rfl
  entityId := rfl

theorem forall₂_map_listed (flags : List Flag) :
    List.Forall₂ ListedFlag.Lists (flags.map Flag.listed) flags :=
  List.forall₂_map_left_iff.2 (List.forall₂_same.2 fun flag _ => flag.listed_lists)

/-! ### What is carried -/

/-- What a format that counts instants in milliseconds gives back of a listed allocation, or why it
gives none. -/
def ListedAllocation.carried (listed : ListedAllocation) : Decoded Allocation := do
  let startAt ← optionalInstant (listed.startAt.map Instant.toWireMillis)
  let endAt ← optionalInstant (listed.endAt.map Instant.toWireMillis)
  return ⟨listed.key, listed.rules, startAt, endAt, listed.splits.map ListedSplit.split,
    listed.doLog⟩

/-- What a format that lists maps and counts instants in milliseconds gives back of a listed flag,
or why it gives none. -/
def ListedFlag.carried (listed : ListedFlag) : Decoded Flag := do
  let allocations ← listed.allocations.mapM ListedAllocation.carried
  return ⟨listed.key, listed.enabled, listed.variationType, variationsByKey listed.variations,
    allocations, listed.totalShards, listed.entityId⟩

theorem optionalInstant_toWireMillis {window : Option Instant}
    (onWire : ∀ instant ∈ window, instant.OnWire) :
    optionalInstant (window.map Instant.toWireMillis) = .ok (window.map Instant.reduced) := by
  cases window with
  | none => rfl
  | some instant =>
    have here := onWire instant rfl
    show (Instant.ofWireMillis instant.toWireMillis).map some = _
    rw [Instant.ofWireMillis, here.toInt_toWireMillis, here.ofMillis?]
    rfl

/-- A split comes back whatever the order in which its extra logging is listed. -/
theorem ListedSplit.Lists.split_eq {listed : ListedSplit} {split : Split}
    (lists : listed.Lists split) : listed.split = split := by
  rw [ListedSplit.split, lists.shards, lists.variationKey,
    Dict.ofList_eq_of_perm lists.extraLogging]

theorem ListedAllocation.Lists.carried_eq {listed : ListedAllocation} {allocation : Allocation}
    (lists : listed.Lists allocation) (startAt : ∀ instant ∈ allocation.startAt, instant.OnWire)
    (endAt : ∀ instant ∈ allocation.endAt, instant.OnWire) :
    listed.carried = .ok allocation.normal := by
  have splits : listed.splits.map ListedSplit.split = allocation.splits := by
    have each := lists.splits
    generalize listed.splits = listings, allocation.splits = splits at each ⊢
    induction each with
    | nil => rfl
    | cons head _ ih => rw [List.map_cons, head.split_eq, ih]
  rw [carried, lists.key, lists.rules, lists.startAt, lists.endAt, lists.doLog, splits,
    optionalInstant_toWireMillis startAt, optionalInstant_toWireMillis endAt]
  rfl

/-- Variations with distinct keys go by them alike in whatever order they are listed. -/
theorem variationsByKey_of_perm {listed variations : List Variation}
    (distinct : (variations.map Variation.key).Nodup) (perm : listed.Perm variations) :
    variationsByKey listed = variationsByKey variations := by
  have names : ((variations.map fun variation => (variation.key, variation)).map
      Prod.fst).Nodup := by
    rw [List.map_map]
    exact distinct
  exact Dict.ofList_eq_of_perm
    ((perm.map fun variation => (variation.key, variation)).trans
      (Dict.entries_ofList_perm names).symm)

/-- **The normal form of a flag is what every listing of it carries.** -/
theorem ListedFlag.Lists.carried_eq {listed : ListedFlag} {flag : Flag} (lists : listed.Lists flag)
    (encodable : flag.Encodable) : listed.carried = .ok flag.normal := by
  have allocations : listed.allocations.mapM ListedAllocation.carried =
      .ok (flag.allocations.map Allocation.normal) := by
    have each := lists.allocations
    have startAt := encodable.startAt
    have endAt := encodable.endAt
    generalize listed.allocations = listings, flag.allocations = allocations at each startAt endAt ⊢
    induction each with
    | nil => rfl
    | cons head _ ih =>
      have first := head.carried_eq (startAt _ List.mem_cons_self) (endAt _ List.mem_cons_self)
      have others := ih (fun other inside => startAt other (List.mem_cons_of_mem _ inside))
        (fun other inside => endAt other (List.mem_cons_of_mem _ inside))
      rw [List.mapM_cons, first, others]
      rfl
  rw [carried, allocations, lists.key, lists.enabled, lists.variationType, lists.totalShards,
    lists.entityId, variationsByKey_of_perm encodable.distinct lists.variations]
  rfl

/-- The sample with its maps listed against the order of the keys. -/
def ListedFlag.sample : ListedFlag :=
  { Flag.sample.listed with
    variations := Flag.sample.listed.variations.reverse
    allocations := Flag.sample.listed.allocations.map fun listed =>
      { listed with
        splits := listed.splits.map fun split =>
          { split with extraLogging := split.extraLogging.reverse } } }

theorem ListedFlag.sample_lists : ListedFlag.sample.Lists Flag.sample where
  key := rfl
  enabled := rfl
  variationType := rfl
  variations := List.reverse_perm _
  allocations := .cons ⟨rfl, rfl, rfl, rfl, .cons ⟨rfl, rfl, List.reverse_perm _⟩ .nil, rfl⟩ .nil
  totalShards := rfl
  entityId := rfl

/-! ### Catalogs -/

/-- What a result is changed into is made of the result. -/
theorem Except.exists_of_map_eq_ok {ε α β : Type} {f : α → β} {result : Except ε α} {value : β}
    (found : result.map f = .ok value) : ∃ made, result = .ok made ∧ f made = value := by
  cases result with
  | error cause => cases found
  | ok made => exact ⟨made, rfl, Except.ok.inj found⟩

/-- A result is changed into a result exactly if there is one. -/
theorem Except.exists_map_eq_ok {ε α β : Type} {f : α → β} {result : Except ε α} :
    (∃ value, result.map f = .ok value) ↔ ∃ made, result = .ok made := by
  constructor
  · rintro ⟨value, found⟩
    obtain ⟨made, isMade, _⟩ := Except.exists_of_map_eq_ok found
    exact ⟨made, isMade⟩
  · rintro ⟨made, rfl⟩
    exact ⟨f made, rfl⟩

/-- A catalog gives back flags as they are listed, the last one with each key, beside where they
were made and the millisecond in which they were made. -/
structure Catalog.Carries (catalog : Catalog) (createdAt : Option Instant)
    (environment : Option String) (listings : List ListedFlag) : Prop where
  environment : catalog.environment = environment
  createdAt : optionalInstant (createdAt.map Instant.toWireMillis) = .ok catalog.createdAt
  flags : ∀ key, catalog.flag? key =
    Dict.latest? (listings.map fun listed => (listed.key, listed.carried)) key

namespace Catalog.Carries

variable {catalog : Catalog} {createdAt : Option Instant} {environment : Option String}
variable {listings : List ListedFlag} {flags : List Flag}

/-- What stands under the keys of listed flags and decodes to what they carry gives them back. -/
theorem of_entries {entries : List (String × RawFlag)}
    (sameEnvironment : catalog.environment = environment)
    (sameCreatedAt : optionalInstant (createdAt.map Instant.toWireMillis) = .ok catalog.createdAt)
    (stands : catalog.flags = Dict.ofList entries)
    (decoded : (entries.map fun entry => (entry.1, entry.2.decode)) =
      listings.map fun listed => (listed.key, listed.carried)) :
    catalog.Carries createdAt environment listings :=
  ⟨sameEnvironment, sameCreatedAt, fun key => by
    rw [Catalog.flag?, stands, Dict.get?_ofList, ← Dict.latest?_map_values, decoded]⟩

/-- At a key a catalog gives back what the last listing with the key carries. -/
theorem flag?_eq (carries : catalog.Carries createdAt environment listings)
    (listed : List.Forall₂ ListedFlag.Lists listings flags) (key : String) :
    (lastFlag? flags key = none ∧ catalog.flag? key = none) ∨
      ∃ (listing : ListedFlag) (flag : Flag), listing.Lists flag ∧
        lastFlag? flags key = some flag ∧ catalog.flag? key = some listing.carried := by
  rw [carries.flags key, Dict.latest?_map, lastFlag?]
  have kept : List.Forall₂ ListedFlag.Lists (listings.filter fun listed => listed.key == key)
      (flags.filter fun flag => flag.key == key) := by
    clear carries
    induction listed with
    | nil => exact .nil
    | @cons listing flag _ _ head _ ih =>
      rw [List.filter_cons, List.filter_cons, head.key]
      split
      · exact .cons head ih
      · exact ih
  have reversed := List.rel_reverse kept
  rw [List.getLast?_eq_head?_reverse, List.getLast?_eq_head?_reverse]
  generalize (listings.filter fun listed => listed.key == key).reverse = front,
    (flags.filter fun flag => flag.key == key).reverse = back at reversed ⊢
  cases reversed with
  | nil => exact .inl ⟨rfl, rfl⟩
  | cons head _ => exact .inr ⟨_, _, head, rfl, rfl⟩

/-- At a key a catalog gives back the normal form of the last flag with the key, if that is
encodable, whatever the other flags are. -/
theorem flag?_of_encodable (carries : catalog.Carries createdAt environment listings)
    (listed : List.Forall₂ ListedFlag.Lists listings flags) {key : String}
    (encodable : ∀ flag ∈ lastFlag? flags key, flag.Encodable) :
    catalog.flag? key = (lastFlag? flags key).map fun flag => .ok flag.normal := by
  obtain ⟨none, absent⟩ | ⟨listing, flag, lists, last, found⟩ := carries.flag?_eq listed key
  · rw [none, absent, Option.map_none]
  · rw [found, lists.carried_eq (encodable flag last), last, Option.map_some]

/-- **A catalog that gives back what encodable flags are listed as holds the flags.** -/
theorem holds (carries : catalog.Carries createdAt environment listings)
    (listed : List.Forall₂ ListedFlag.Lists listings flags)
    (created : ∀ instant ∈ createdAt, instant.OnWire)
    (encodable : ∀ flag ∈ flags, flag.Encodable) : catalog.Holds createdAt environment flags := by
  have found : ∀ key, catalog.flag? key =
      (lastFlag? flags key).map fun flag => .ok flag.normal := fun key =>
    carries.flag?_of_encodable listed fun flag last =>
      encodable flag (mem_of_lastFlag? last).1
  refine ⟨carries.environment, ?_, fun key => ?_, found⟩
  · have made := carries.createdAt
    rw [optionalInstant_toWireMillis created] at made
    exact (Except.ok.inj made).symm
  · have present : key ∈ catalog.keys ↔ (lastFlag? flags key).isSome := by
      rw [Catalog.keys, Dict.mem_keys_iff, ← Option.isSome_map (f := RawFlag.decode),
        ← Catalog.flag?, found key, Option.isSome_map]
    rw [present, Option.isSome_iff_ne_none, ne_eq, lastFlag?_eq_none_iff, not_forall]
    simp only [not_forall, not_not, exists_prop]

end Catalog.Carries

end FeatureFlags
