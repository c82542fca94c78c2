import FeatureFlags.Configuration.Basic
import FeatureFlags.Instant.Span

/-!
**The place of the configuration that is served from.**

A configuration comes into the store whole: a caller sets it, or it is restored from the form on
disk. Setting always succeeds, and queues the configuration for the disk; restoring succeeds only
while the store is empty, and queues nothing. Whatever comes into the store is announced. Restoring
goes in two steps, first reading and then storing, and others may set a configuration in between.

* `Store.set`, `Store.restore`: the two ways into the store, with what they bring about.
* `Store.load`: both steps of restoring.
* `Store.isExpired`: whether the configuration is older than a span of time.
-/

namespace FeatureFlags

/-- How a store is set up: whether it has a file, whether someone listens, and when the flags of a
restored configuration are decoded. -/
structure StoreSettings where
  persists : Bool
  listens : Bool
  materialization : Materialization
deriving DecidableEq, Repr

/-- The place of the configuration that is served from. -/
structure Store where
  settings : StoreSettings
  active : Option Configuration

/-- What an operation brings about outside the store: the configurations that are queued for the
disk and those that are announced to the listener, in order. -/
structure Publication where
  queued : List Configuration
  announced : List Configuration

namespace Publication

/-- Nothing is brought about. -/
def nothing : Publication := ⟨[], []⟩

/-- One after another. -/
def append (first second : Publication) : Publication :=
  ⟨first.queued ++ second.queued, first.announced ++ second.announced⟩

instance : Append Publication := ⟨append⟩

end Publication

namespace Store

/-- A store without a configuration. -/
def ofSettings (settings : StoreSettings) : Store := ⟨settings, none⟩

/-- Whether there is a configuration. -/
def isInitialized (store : Store) : Bool := store.active.isSome

/-! ### Changing -/

/-- The configurations of a list that are announced. -/
def announced (store : Store) (configurations : List Configuration) : List Configuration :=
  if store.settings.listens then configurations else []

/-- Serve from a configuration. -/
def set (store : Store) (configuration : Configuration) : Store × Publication :=
  ({ store with active := some configuration },
    ⟨if store.settings.persists then [configuration] else [], store.announced [configuration]⟩)

/-- Serve from a configuration that was found on disk, if there is none to serve from. -/
def restore (store : Store) (found : Option Configuration) : Bool × Store × Publication :=
  match found, store.active with
  | some configuration, none =>
    (true, { store with active := some configuration }, ⟨[], store.announced [configuration]⟩)
  | _, _ => (false, store, .nothing)

/-- The configuration that the form on disk restores; a form that is damaged restores none. -/
def found (store : Store) (content : Option Octets) : Option Configuration := do
  let octets ← if store.settings.persists then content else none
  let (configuration, _) ←
    (Configuration.ofOctets octets store.settings.materialization).toOption
  return configuration

/-- Restore from the form on disk, if there is one. -/
def load (store : Store) (content : Option Octets) : Bool × Store × Publication :=
  store.restore (store.found content)

/-! ### Age -/

/-- Whether there is no configuration, or one that was fetched longer ago than a number of
nanoseconds. A span that is too long to be measured never passes. -/
def isExpired (store : Store) (span : Nat) (now : Instant) : Bool :=
  match store.active with
  | none => true
  | some configuration =>
    match TimeSpan.ofNanos? span with
    | none => false
    | some span => (now.since? configuration.fetchedAt).any fun age => span.isShorter age

end Store

end FeatureFlags
