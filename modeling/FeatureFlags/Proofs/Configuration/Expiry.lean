import FeatureFlags.Configuration.Store
import FeatureFlags.Proofs.Instant.Span

/-!
**When a configuration is expired.**

Age is measured in words that could wrap, against a span that may be too long for them. Neither
shows: no two instants on the calendar are as far apart as the longest span, so the age of a
configuration is always exact, and a span that is too long to be measured is longer than any age.

* `Store.isExpired_iff`: a configuration is expired exactly if its age is greater than the span.
* `Store.isExpired_is_exact`: what follows for clocks that go on, spans that grow and clocks that
  are behind.
-/

namespace FeatureFlags

namespace Store

variable {store : Store} {configuration : Configuration} {span shorter longer : Nat}
  {now earlier later : Instant}

/-- Where a configuration is, the span is compared with its age in words. -/
theorem isExpired_eq_of_age {limit age : TimeSpan} (found : store.active = some configuration)
    (measured : TimeSpan.ofNanos? span = some limit)
    (known : now.since? configuration.fetchedAt = some age) :
    store.isExpired span now = limit.isShorter age := by
  simp only [isExpired, found, measured, known, Option.any_some]

/-- A span that is too long to be measured never passes. -/
theorem isExpired_eq_false_of_long (found : store.active = some configuration)
    (long : TimeSpan.ofNanos? span = none) : store.isExpired span now = false := by
  simp only [isExpired, found, long]

/-- A configuration is expired exactly if its age is greater than the span. -/
theorem isExpired_iff_of_some (found : store.active = some configuration)
    (steady : configuration.fetchedAt.IsSteady) (nowSteady : now.IsSteady) :
    store.isExpired span now ↔ (span : Int) < now.toNanos - configuration.fetchedAt.toNanos := by
  obtain ⟨age, known, exact⟩ := nowSteady.exists_since? steady
  obtain ⟨_, limit, measured, isSpan⟩ | ⟨long, refused⟩ := TimeSpan.ofNanos?_cases span
  · rw [isExpired_eq_of_age found measured known, TimeSpan.isShorter_iff, isSpan, exact]
  · have within := Instant.toNanos_sub_le_longest nowSteady.toIsValid steady.toIsValid
    rw [isExpired_eq_false_of_long found refused]
    exact iff_of_false Bool.false_ne_true (by omega)

/-- **A store is expired exactly if it is empty or the age of its configuration is greater than the
span.** -/
theorem isExpired_iff (steady : ∀ configuration ∈ store.active, configuration.fetchedAt.IsSteady)
    (nowSteady : now.IsSteady) :
    store.isExpired span now ↔ store.active = none ∨ ∃ configuration ∈ store.active,
      (span : Int) < now.toNanos - configuration.fetchedAt.toNanos := by
  cases found : store.active with
  | none =>
    simp only [isExpired, found, true_or]
  | some configuration =>
    have isSteady := steady configuration found
    rw [isExpired_iff_of_some found isSteady nowSteady]
    simp only [reduceCtorEq, false_or, Option.mem_some_iff, exists_eq_left']

/-- As the clock goes on, what is expired stays so. -/
theorem isExpired_of_not_before
    (steady : ∀ configuration ∈ store.active, configuration.fetchedAt.IsSteady)
    (earlierSteady : earlier.IsSteady) (laterSteady : later.IsSteady)
    (inOrder : ¬ later.before earlier) (expired : store.isExpired span earlier) :
    store.isExpired span later := by
  rw [Instant.before_iff laterSteady earlierSteady] at inOrder
  rw [isExpired_iff steady laterSteady]
  obtain empty | ⟨configuration, found, passed⟩ := (isExpired_iff steady earlierSteady).1 expired
  · exact Or.inl empty
  · exact Or.inr ⟨configuration, found, by omega⟩

/-- What is expired after a span is expired after any shorter one. -/
theorem isExpired_of_le
    (steady : ∀ configuration ∈ store.active, configuration.fetchedAt.IsSteady)
    (nowSteady : now.IsSteady) (atMost : shorter ≤ longer)
    (expired : store.isExpired longer now) : store.isExpired shorter now := by
  rw [isExpired_iff steady nowSteady]
  obtain empty | ⟨configuration, found, passed⟩ := (isExpired_iff steady nowSteady).1 expired
  · exact Or.inl empty
  · exact Or.inr ⟨configuration, found, by omega⟩

/-- A configuration that is yet to be fetched is not expired. -/
theorem isExpired_eq_false_of_before (found : store.active = some configuration)
    (steady : configuration.fetchedAt.IsSteady) (nowSteady : now.IsSteady)
    (future : now.before configuration.fetchedAt) : store.isExpired span now = false := by
  rw [Instant.before_iff nowSteady steady] at future
  rw [← Bool.not_eq_true, isExpired_iff_of_some found steady nowSteady]
  omega

/-- **Expiry is exact**: whatever the clock and the configuration show, short of a leap second, the
age is measured without loss, and the store is expired exactly if it is empty or the age is greater
than the span. So it stays expired as the clock goes on and as the span is made shorter, and a
configuration from the future is not expired. -/
theorem isExpired_is_exact
    (steady : ∀ configuration ∈ store.active, configuration.fetchedAt.IsSteady) :
    (∀ now : Instant, now.IsSteady → ∀ configuration ∈ store.active,
      ∃ age, now.since? configuration.fetchedAt = some age ∧
        age.toNanos = now.toNanos - configuration.fetchedAt.toNanos) ∧
    (∀ (span : Nat) (now : Instant), now.IsSteady →
      (store.isExpired span now ↔ store.active = none ∨ ∃ configuration ∈ store.active,
        (span : Int) < now.toNanos - configuration.fetchedAt.toNanos)) ∧
    (∀ (span : Nat) (earlier later : Instant), earlier.IsSteady → later.IsSteady →
      ¬ later.before earlier → store.isExpired span earlier → store.isExpired span later) ∧
    (∀ (shorter longer : Nat) (now : Instant), now.IsSteady → shorter ≤ longer →
      store.isExpired longer now → store.isExpired shorter now) ∧
    ∀ (span : Nat) (now : Instant), now.IsSteady → ∀ configuration ∈ store.active,
      now.before configuration.fetchedAt → store.isExpired span now = false := by
  refine ⟨?exact, ?compared, ?onward, ?shortened, ?future⟩
  case exact =>
    intro now nowSteady configuration found
    exact nowSteady.exists_since? (steady configuration found)
  case compared =>
    intro span now nowSteady
    exact isExpired_iff steady nowSteady
  case onward =>
    intro span earlier later earlierSteady laterSteady inOrder expired
    exact isExpired_of_not_before steady earlierSteady laterSteady inOrder expired
  case shortened =>
    intro shorter longer now nowSteady atMost expired
    exact isExpired_of_le steady nowSteady atMost expired
  case future =>
    intro span now nowSteady configuration found isFuture
    exact isExpired_eq_false_of_before found (steady configuration found) nowSteady isFuture

/-- A store whose configuration was fetched one nanosecond after the calendar begins. -/
def ancient : Store :=
  ⟨⟨false, false, .lazy⟩, some ⟨⟨Instant.firstSecond, 1⟩, none, none⟩⟩

/-- When the calendar ends, that configuration is expired after a span that is one nanosecond
shorter than its age, and not after its age; when the calendar begins, it is from the future. -/
theorem isExpired_is_exact_ancient :
    (∀ configuration ∈ ancient.active, configuration.fetchedAt.IsSteady) ∧
    (∃ age, (⟨Instant.lastSecond, 999999999⟩ : Instant).since? ⟨Instant.firstSecond, 1⟩ = some age ∧
      age.toNanos = 16544868105599999999998) ∧
    ancient.isExpired 16544868105599999999997 ⟨Instant.lastSecond, 999999999⟩ = true ∧
    ancient.isExpired 16544868105599999999998 ⟨Instant.lastSecond, 999999999⟩ = false ∧
    ancient.isExpired 60000000000 ⟨0, 0⟩ = true ∧
    ancient.isExpired 60000000000 ⟨Instant.lastSecond, 999999999⟩ = true ∧
    ancient.isExpired 0 ⟨Instant.firstSecond, 0⟩ = false := by
  have steady : ∀ configuration ∈ ancient.active, configuration.fetchedAt.IsSteady := by
    rintro configuration ⟨⟩
    decide
  have beginning : (⟨Instant.firstSecond, 0⟩ : Instant).IsSteady := by decide
  have middle : (⟨0, 0⟩ : Instant).IsSteady := by decide
  have ending : (⟨Instant.lastSecond, 999999999⟩ : Instant).IsSteady := by decide
  obtain ⟨exact, compared, onward, shortened, future⟩ := isExpired_is_exact steady
  have hourly : ancient.isExpired 3600000000000 ⟨0, 0⟩ = true :=
    (compared _ _ middle).2 (Or.inr ⟨_, rfl, by decide⟩)
  have brief := shortened 60000000000 _ _ middle (by decide) hourly
  refine ⟨steady, ?age, ?passed, ?yet, brief, onward _ _ _ middle ending (by decide) brief, ?future⟩
  case age =>
    obtain ⟨age, known, isAge⟩ := exact _ ending _ rfl
    exact ⟨age, known, isAge.trans (by decide)⟩
  case passed =>
    exact (compared _ _ ending).2 (Or.inr ⟨_, rfl, by decide⟩)
  case yet =>
    rw [← Bool.not_eq_true]
    intro expired
    obtain empty | ⟨configuration, ⟨⟩, passed⟩ := (compared _ _ ending).1 expired
    · exact Option.some_ne_none _ empty
    · exact absurd passed (by decide)
  case future =>
    exact future _ _ beginning _ rfl (by decide)

end Store

end FeatureFlags
