import FeatureFlags.Catalog.Basic
import FeatureFlags.Proofs.Dict

/-!
**What a flag becomes in a format that carries neither the keys of a map nor fractions of a
millisecond.**

Such a format lists the variations of a flag, each with its own key, and counts instants in
milliseconds. A flag comes back in a normal form: its variations go by their own keys, and its
instants lie at the beginning of their milliseconds. Nothing else changes.

* `Instant.reduced`, `Allocation.normal`, `Flag.normal`: the normal form.
* `Flag.Encodable`: what a flag must satisfy to come back.
* `Flag.get?_normal`: the variation at a key of the normal form.
* `Flag.normal_eq_self`: a flag in normal form is its own normal form.
* `Catalog.Holds`: a catalog holds the normal forms of a list of flags.
-/

namespace FeatureFlags

/-! ### Instants -/

namespace Instant

/-- The beginning of the millisecond of an instant is on the calendar. -/
def OnWire (instant : Instant) : Prop := (ofMillis? instant.toMillis).isSome

instance (instant : Instant) : Decidable instant.OnWire :=
  inferInstanceAs (Decidable ((ofMillis? instant.toMillis).isSome = true))

/-- The beginning of the millisecond of an instant. -/
def reduced (instant : Instant) : Instant := (ofMillis? instant.toMillis).getD instant

theorem OnWire.ofMillis? {instant : Instant} (onWire : instant.OnWire) :
    Instant.ofMillis? instant.toMillis = some instant.reduced := by
  obtain ⟨found, isFound⟩ := Option.isSome_iff_exists.1 onWire
  rw [reduced, isFound, Option.getD_some]

/-- The milliseconds of the calendar fit into 64 bits. -/
theorem OnWire.toInt_toWireMillis {instant : Instant} (onWire : instant.OnWire) :
    instant.toWireMillis.toInt = instant.toMillis := by
  have bounds : firstSecond ≤ Int.fdiv instant.toMillis 1000 ∧
      Int.fdiv instant.toMillis 1000 ≤ lastSecond := by
    by_contra outside
    rw [OnWire, Instant.ofMillis?, ofSeconds?, if_neg outside] at onWire
    cases onWire
  have first : firstSecond = -8334601228800 := by decide
  have last : lastSecond = 8210266876799 := by decide
  rw [first, last, Int.fdiv_eq_ediv_of_nonneg _ (by decide)] at bounds
  exact Int64.toInt_ofInt_of_le (by omega) (by omega)

theorem reduced_eq_self {instant : Instant}
    (whole : Instant.ofMillis? instant.toMillis = some instant) : instant.reduced = instant := by
  rw [reduced, whole, Option.getD_some]

end Instant

/-! ### Flags -/

/-- An allocation with its window in whole milliseconds. -/
def Allocation.normal (allocation : Allocation) : Allocation :=
  { allocation with
    startAt := allocation.startAt.map Instant.reduced
    endAt := allocation.endAt.map Instant.reduced }

/-- A flag with its variations by their own keys and its windows in whole milliseconds. -/
def Flag.normal (flag : Flag) : Flag :=
  { flag with
    variations := variationsByKey flag.variations.values
    allocations := flag.allocations.map Allocation.normal }

/-- No two variations share a key, and all windows are on the calendar. -/
structure Flag.Encodable (flag : Flag) : Prop where
  distinct : (flag.variations.values.map Variation.key).Nodup
  startAt : ∀ allocation ∈ flag.allocations, ∀ instant ∈ allocation.startAt, instant.OnWire
  endAt : ∀ allocation ∈ flag.allocations, ∀ instant ∈ allocation.endAt, instant.OnWire

instance (flag : Flag) : Decidable flag.Encodable :=
  decidable_of_iff
    ((flag.variations.values.map Variation.key).Nodup ∧
      (∀ allocation ∈ flag.allocations, ∀ instant ∈ allocation.startAt, instant.OnWire) ∧
      ∀ allocation ∈ flag.allocations, ∀ instant ∈ allocation.endAt, instant.OnWire)
    ⟨fun ⟨distinct, startAt, endAt⟩ => ⟨distinct, startAt, endAt⟩,
      fun encodable => ⟨encodable.distinct, encodable.startAt, encodable.endAt⟩⟩

/-- The variations go by their own keys, and all windows are in whole milliseconds. -/
structure Flag.IsNormal (flag : Flag) : Prop where
  variations : ∀ key variation, flag.variations.get? key = some variation → variation.key = key
  startAt : ∀ allocation ∈ flag.allocations, ∀ instant ∈ allocation.startAt,
    Instant.ofMillis? instant.toMillis = some instant
  endAt : ∀ allocation ∈ flag.allocations, ∀ instant ∈ allocation.endAt,
    Instant.ofMillis? instant.toMillis = some instant

/-- **The normal form has a variation at its own key, and no other variation there.** -/
theorem Flag.get?_normal {flag : Flag} (encodable : flag.Encodable) (key : String)
    (variation : Variation) :
    flag.normal.variations.get? key = some variation ↔
      variation ∈ flag.variations.values ∧ variation.key = key := by
  have distinct : ((flag.variations.values.map fun variation =>
      (variation.key, variation)).map Prod.fst).Nodup := by
    rw [List.map_map]
    exact encodable.distinct
  show (variationsByKey flag.variations.values).get? key = some variation ↔ _
  rw [variationsByKey, Dict.get?_ofList_eq_some_iff distinct, List.mem_map]
  constructor
  · rintro ⟨other, member, same⟩
    cases same
    exact ⟨member, rfl⟩
  · rintro ⟨member, rfl⟩
    exact ⟨variation, member, rfl⟩

/-- Variations that go by their own keys are listed with them. -/
theorem Flag.entries_of_own {flag : Flag}
    (own : ∀ key variation, flag.variations.get? key = some variation → variation.key = key) :
    (flag.variations.values.map fun variation => (variation.key, variation)) =
      flag.variations.entries := by
  rw [Dict.values, List.map_map]
  refine (List.map_congr_left fun entry member => ?_).trans (List.map_id _)
  have named := own entry.1 entry.2 (Dict.get?_eq_some_iff.2 member)
  show (entry.2.key, entry.2) = entry
  rw [named]

/-- Variations that go by their own keys stay as they are. -/
theorem Flag.variations_normal {flag : Flag}
    (own : ∀ key variation, flag.variations.get? key = some variation → variation.key = key) :
    flag.normal.variations = flag.variations := by
  show variationsByKey flag.variations.values = flag.variations
  rw [variationsByKey, Flag.entries_of_own own, Dict.ofList_entries]

/-- Variations that go by their own keys have distinct ones. -/
theorem Flag.distinct_of_own {flag : Flag}
    (own : ∀ key variation, flag.variations.get? key = some variation → variation.key = key) :
    (flag.variations.values.map Variation.key).Nodup := by
  have names : flag.variations.values.map Variation.key = flag.variations.keys := by
    rw [Dict.keys, ← entries_of_own own, List.map_map]
    rfl
  rw [names]
  exact flag.variations.keys_nodup

theorem Option.map_reduced_eq_self {window : Option Instant}
    (whole : ∀ instant ∈ window, Instant.ofMillis? instant.toMillis = some instant) :
    window.map Instant.reduced = window := by
  cases window with
  | none => rfl
  | some instant => exact congrArg some (Instant.reduced_eq_self (whole instant rfl))

/-- **A flag in normal form is its own normal form.** -/
theorem Flag.normal_eq_self {flag : Flag} (normal : flag.IsNormal) : flag.normal = flag := by
  have variations : variationsByKey flag.variations.values = flag.variations :=
    Flag.variations_normal normal.variations
  have allocations : flag.allocations.map Allocation.normal = flag.allocations := by
    refine (List.map_congr_left fun allocation inside => ?_).trans (List.map_id _)
    show Allocation.normal allocation = allocation
    rw [Allocation.normal, Option.map_reduced_eq_self (normal.startAt allocation inside),
      Option.map_reduced_eq_self (normal.endAt allocation inside)]
  rw [Flag.normal, variations, allocations]

/-- A flag with a variation under another key than its own, a window that begins within a
millisecond, and two entries of extra logging. -/
def Flag.sample : Flag where
  key := "new-checkout"
  enabled := true
  variationType := .boolean
  variations := ⟨[("first", ⟨"on", .boolean true⟩), ("off", ⟨"off", .boolean false⟩)], by decide⟩
  allocations := [{
    key := "north-america"
    rules := [⟨[⟨.oneOf, "country", .multiple ["CA", "US"]⟩]⟩]
    startAt := some ⟨1700000000, 123456789⟩
    endAt := none
    splits := [⟨[⟨"salt", [⟨0, 5000⟩]⟩], "on",
      ⟨[("experiment", "checkout"), ("team", "growth")], by decide⟩⟩]
    doLog := false }]
  totalShards := 10000
  entityId := some 7

theorem Flag.sample_encodable : Flag.sample.Encodable := by decide

/-! ### Lists of flags -/

/-- The last flag with a key. -/
def lastFlag? (flags : List Flag) (key : String) : Option Flag :=
  (flags.filter fun flag => flag.key == key).getLast?

theorem mem_of_lastFlag? {flags : List Flag} {key : String} {flag : Flag}
    (last : lastFlag? flags key = some flag) : flag ∈ flags ∧ flag.key = key := by
  obtain ⟨inside, same⟩ := List.mem_filter.1 (List.mem_of_getLast? last)
  exact ⟨inside, beq_iff_eq.1 same⟩

theorem lastFlag?_eq_none_iff {flags : List Flag} {key : String} :
    lastFlag? flags key = none ↔ ∀ flag ∈ flags, flag.key ≠ key := by
  rw [lastFlag?, List.getLast?_eq_none_iff, List.filter_eq_nil_iff]
  simp only [beq_iff_eq, ne_eq]

/-- A catalog holds the normal forms of flags, the last one with each key, beside where they were
made and the millisecond in which they were made. -/
structure Catalog.Holds (catalog : Catalog) (createdAt : Option Instant)
    (environment : Option String) (flags : List Flag) : Prop where
  environment : catalog.environment = environment
  createdAt : catalog.createdAt = createdAt.map Instant.reduced
  keys : ∀ key, key ∈ catalog.keys ↔ ∃ flag ∈ flags, flag.key = key
  flags : ∀ key, catalog.flag? key = (lastFlag? flags key).map fun flag => .ok flag.normal

/-- Catalogs that hold the same flags have the same keys, and the same flag at each. -/
theorem Catalog.Holds.agree {first second : Catalog} {createdAt : Option Instant}
    {environment : Option String} {flags : List Flag}
    (left : first.Holds createdAt environment flags)
    (right : second.Holds createdAt environment flags) :
    first.keys = second.keys ∧ ∀ key, first.flag? key = second.flag? key := by
  refine ⟨Dict.keys_eq_of_isSome fun key => ?_, fun key => ?_⟩
  · rw [Bool.eq_iff_iff, ← Dict.mem_keys_iff, ← Dict.mem_keys_iff]
    exact (left.keys key).trans (right.keys key).symm
  · rw [left.flags key, right.flags key]

end FeatureFlags
