import FeatureFlags.Catalog.Decoder
import FeatureFlags.Proofs.Dict
import Mathlib.Data.List.Nodup

/-!
**What a decoder keeps, and what lookups do to it.**

A decoder keeps results of the catalog and nothing else, so a lookup gives what the catalog gives,
whatever was looked up before. A flag is converted only where nothing is kept for its key, and then
its result is kept, so lookups one after another never convert a flag twice.

* `Decoder.Tallied`: the decoder, the keys that were converted and what was noted fit together.
* `Decoder.settle_fst`, `Decoder.Tallied.settle`: the answer of a lookup, and what it preserves.
* `Decoder.prewarmed_peek?`: a decoder that has converted everything keeps the whole catalog.
-/

namespace FeatureFlags

/-- A result of two steps is a result of the second on what the first gives. -/
theorem Except.bind_eq_ok {ε α β : Type} {first : Except ε α} {next : α → Except ε β} {result : β}
    (found : first >>= next = .ok result) : ∃ made, first = .ok made ∧ next made = .ok result := by
  cases first with
  | error cause => cases found
  | ok made => exact ⟨made, rfl, found⟩

/-- What is noted when the flag at a key is converted. -/
def Catalog.warnings (catalog : Catalog) (key : String) : List Notice :=
  match catalog.flag? key with
  | some result => Decoder.noticesOf key result
  | none => []

theorem Catalog.isSome_flag?_iff {catalog : Catalog} {key : String} :
    (catalog.flag? key).isSome ↔ key ∈ catalog.keys := by
  rw [Catalog.flag?, Option.isSome_map, Catalog.keys, Dict.mem_keys_iff]

namespace Decoder

/-! ### One lookup -/

/-- **The three ways a lookup can go**: the result is kept already, there is no such flag, or the
flag is converted now and its result is kept. -/
theorem settle_cases (decoder : Decoder) (key : String) :
    (∃ result, decoder.peek? key = some result ∧
      decoder.settle key = (some result, decoder, [], [])) ∨
    (decoder.peek? key = none ∧ decoder.catalog.flag? key = none ∧
      decoder.settle key = (none, decoder, [], [])) ∨
    (∃ result, decoder.peek? key = none ∧ decoder.catalog.flag? key = some result ∧
      decoder.settle key = (some result, { decoder with kept := decoder.kept.insert key result },
        [key], noticesOf key result)) := by
  unfold settle
  cases kept : decoder.peek? key with
  | some result => exact Or.inl ⟨result, rfl, rfl⟩
  | none =>
    cases fresh : decoder.catalog.flag? key with
    | none => exact Or.inr (Or.inl ⟨rfl, rfl, rfl⟩)
    | some result => exact Or.inr (Or.inr ⟨result, rfl, rfl, rfl⟩)

theorem find_eq_settle (decoder : Decoder) (key : String) :
    decoder.find key = decoder.settle key := by
  unfold find settle
  cases decoder.peek? key <;> rfl

/-- **The decoder, the keys that were converted and what was noted fit together.** Only results of
the catalog are kept, exactly for the converted keys, and none of these was converted twice. -/
structure Tallied (catalog : Catalog) (decoder : Decoder) (converted : List String)
    (notices : List Notice) : Prop where
  source : decoder.catalog = catalog
  faithful : ∀ key result, decoder.peek? key = some result → catalog.flag? key = some result
  kept : ∀ key, key ∈ converted ↔ (decoder.peek? key).isSome
  once : converted.Nodup
  noted : notices = converted.flatMap catalog.warnings

namespace Tallied

variable {catalog : Catalog} {decoder : Decoder} {converted : List String} {notices : List Notice}

theorem idle (catalog : Catalog) : Tallied catalog (Decoder.idle catalog) [] [] where
  source := rfl
  faithful := fun _ _ found => by cases found
  kept := fun key => by simp [Decoder.idle, peek?]
  once := List.nodup_nil
  noted := rfl

theorem present (tallied : Tallied catalog decoder converted notices) {key : String}
    (member : key ∈ converted) : (catalog.flag? key).isSome := by
  obtain ⟨result, found⟩ := Option.isSome_iff_exists.1 ((tallied.kept key).1 member)
  rw [tallied.faithful key result found]
  rfl

/-- **A lookup gives what the catalog gives, whatever was looked up before.** -/
theorem settle_fst (tallied : Tallied catalog decoder converted notices) (key : String) :
    (decoder.settle key).1 = catalog.flag? key := by
  rcases decoder.settle_cases key with ⟨result, found, outcome⟩ | ⟨_, absent, outcome⟩ |
    ⟨result, _, fresh, outcome⟩
  · rw [outcome, tallied.faithful key result found]
  · rw [outcome, ← tallied.source, absent]
  · rw [outcome, ← tallied.source, fresh]

/-- **A decoder answers what the catalog gives.** -/
theorem answer? (tallied : Tallied catalog decoder converted notices) (key : String) :
    decoder.answer? key = catalog.flag? key := by
  rw [Decoder.answer?, tallied.source]
  cases kept : decoder.peek? key with
  | none => rfl
  | some result =>
    rw [tallied.faithful key result kept]
    rfl

/-- **A lookup converts a flag only once, and keeps what it found.** -/
theorem settle (tallied : Tallied catalog decoder converted notices) (key : String) :
    Tallied catalog (decoder.settle key).2.1 (converted ++ (decoder.settle key).2.2.1)
      (notices ++ (decoder.settle key).2.2.2) := by
  rcases decoder.settle_cases key with ⟨_, _, outcome⟩ | ⟨_, _, outcome⟩ |
    ⟨result, missing, fresh, outcome⟩
  · rw [outcome, List.append_nil, List.append_nil]
    exact tallied
  · rw [outcome, List.append_nil, List.append_nil]
    exact tallied
  · rw [outcome]
    rw [tallied.source] at fresh
    have peeked : ∀ other, peek? { decoder with kept := decoder.kept.insert key result } other =
        if other = key then some result else decoder.peek? other :=
      fun other => Dict.get?_insert decoder.kept key other result
    refine ⟨tallied.source, fun other content found => ?_, fun other => ?_, ?_, ?_⟩
    · rw [peeked] at found
      split at found
      · rename_i same
        rw [same, fresh, ← found]
      · exact tallied.faithful other content found
    · rw [peeked, List.mem_append, List.mem_singleton, tallied.kept]
      by_cases same : other = key
      · simp [same]
      · simp [same]
    · have unseen : key ∉ converted := fun member => by
        rw [tallied.kept, missing] at member
        cases member
      refine List.nodup_append.2 ⟨tallied.once, List.nodup_singleton key, ?_⟩
      intro first member second isKey same
      rw [List.mem_singleton.1 isKey] at same
      exact unseen (same ▸ member)
    · have warned : catalog.warnings key = noticesOf key result := by
        rw [Catalog.warnings, fresh]
      rw [List.flatMap_append, ← tallied.noted, List.flatMap_singleton, warned]

/-- Whatever is kept stays kept. -/
theorem peek?_settle (tallied : Tallied catalog decoder converted notices) (key other : String)
    (kept : (decoder.peek? other).isSome) : ((decoder.settle key).2.1.peek? other).isSome := by
  rw [← (tallied.settle key).kept, List.mem_append, tallied.kept]
  exact Or.inl kept

/-- A present key is kept once it was looked up. -/
theorem peek?_settle_self (tallied : Tallied catalog decoder converted notices) (key : String)
    (present : (catalog.flag? key).isSome) : ((decoder.settle key).2.1.peek? key).isSome := by
  rw [← (tallied.settle key).kept, List.mem_append, tallied.kept]
  rcases decoder.settle_cases key with ⟨_, kept, _⟩ | ⟨_, absent, _⟩ | ⟨_, _, _, outcome⟩
  · exact Or.inl (Option.isSome_iff_exists.2 ⟨_, kept⟩)
  · rw [← tallied.source, absent] at present
    cases present
  · rw [outcome]
    exact Or.inr (List.mem_singleton_self key)

/-! ### Lookups one after another -/

theorem findAll (keys : List String) (tallied : Tallied catalog decoder converted notices) :
    Tallied catalog (decoder.findAll keys).2.1 (converted ++ (decoder.findAll keys).2.2.1)
      (notices ++ (decoder.findAll keys).2.2.2) ∧
    (∀ key, (decoder.peek? key).isSome ∨ (key ∈ keys ∧ (catalog.flag? key).isSome) →
      ((decoder.findAll keys).2.1.peek? key).isSome) := by
  induction keys generalizing decoder converted notices with
  | nil =>
    rw [Decoder.findAll, List.append_nil, List.append_nil]
    exact ⟨tallied, fun key kept => kept.elim id fun absent => by cases absent.1⟩
  | cons key rest ih =>
    have stepped := tallied.settle key
    obtain ⟨later, grown⟩ := ih stepped
    simp only [Decoder.findAll, find_eq_settle]
    rw [← List.append_assoc, ← List.append_assoc]
    refine ⟨later, fun other known => grown other ?_⟩
    rcases known with kept | ⟨member, present⟩
    · exact Or.inl (tallied.peek?_settle key other kept)
    · rcases List.mem_cons.1 member with rfl | inRest
      · exact Or.inl (tallied.peek?_settle_self other present)
      · exact Or.inr ⟨inRest, present⟩

end Tallied

/-! ### Decoders at their start -/

theorem Tallied.ofCatalog (catalog : Catalog) (materialization : Materialization) :
    Tallied catalog (Decoder.ofCatalog catalog materialization).1
      (Decoder.opening catalog materialization).2.1
      (Decoder.ofCatalog catalog materialization).2 := by
  cases materialization with
  | lazy => exact Tallied.idle catalog
  | prewarmed =>
    have walked := ((Tallied.idle catalog).findAll catalog.keys).1
    rw [List.nil_append, List.nil_append] at walked
    exact walked

/-- **A decoder that has converted everything keeps the whole catalog.** -/
theorem prewarmed_peek? (catalog : Catalog) (key : String) :
    (Decoder.ofCatalog catalog .prewarmed).1.peek? key = catalog.flag? key := by
  have tallied := Tallied.ofCatalog catalog .prewarmed
  cases present : catalog.flag? key with
  | none =>
    cases found : (Decoder.ofCatalog catalog .prewarmed).1.peek? key with
    | none => rfl
    | some result =>
      rw [tallied.faithful key result found] at present
      cases present
  | some result =>
    have isPresent : (catalog.flag? key).isSome := by rw [present]; rfl
    have kept : ((Decoder.ofCatalog catalog .prewarmed).1.peek? key).isSome :=
      ((Tallied.idle catalog).findAll catalog.keys).2 key
        (Or.inr ⟨Catalog.isSome_flag?_iff.1 isPresent, isPresent⟩)
    obtain ⟨content, found⟩ := Option.isSome_iff_exists.1 kept
    rw [found, ← tallied.faithful key content found, present]

/-- **A decoder answers what the catalog gives, whenever flags are converted.** -/
theorem answer?_ofCatalog (catalog : Catalog) (materialization : Materialization) (key : String) :
    (Decoder.ofCatalog catalog materialization).1.answer? key = catalog.flag? key :=
  (Tallied.ofCatalog catalog materialization).answer? key

/-! ### Decoders after some lookups -/

/-- A decoder for a catalog after some keys were looked up. -/
def after (catalog : Catalog) (materialization : Materialization) (asked : List String) : Decoder :=
  ((ofCatalog catalog materialization).1.findAll asked).2.1

/-- Whatever was looked up before, the answer is what the catalog gives. -/
theorem answer?_findAll (catalog : Catalog) (materialization : Materialization)
    (asked : List String) (key : String) :
    ((ofCatalog catalog materialization).1.findAll asked).2.1.answer? key = catalog.flag? key :=
  ((Tallied.ofCatalog catalog materialization).findAll asked).1.answer? key

/-- Whatever was looked up before, a lookup gives what the catalog gives. -/
theorem find_after (catalog : Catalog) (materialization : Materialization) (asked : List String)
    (key : String) : ((after catalog materialization asked).find key).1 = catalog.flag? key := by
  rw [find_eq_settle]
  exact ((Tallied.ofCatalog catalog materialization).findAll asked).1.settle_fst key

end Decoder

end FeatureFlags
