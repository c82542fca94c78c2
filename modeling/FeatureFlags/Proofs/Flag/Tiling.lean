import FeatureFlags.Proofs.Flag.FirstMatch
import Mathlib.Data.List.Find
import Mathlib.Data.List.Flatten
import Mathlib.Logic.Relation

/-!
**Ranges that tile the shards serve everyone once.**

Where the splits of an allocation scatter the subjects by one salt, the bucket of a subject decides
which of them serve it. If the ranges have no bucket in common and leave none out, one split has the
bucket, in whatever order they are listed, and what it serves stays the same while the ranges are
recut: no seam loses a bucket or serves it twice.

* `AreSalted`: splits with one shard each, all of one salt.
* `RecutRanges`, `Recut`: one change of ranges or splits that leaves whom they serve.
* `AreSalted.serves_eq`: a split serves a subject if it has its bucket.
* `Recut.offers_perm`, `offers_perm_of_recuts`: what a bucket is offered, after one change and after
  any number of them.
* `Flag.tiling_serves_everyone_once`: who is served by which split, and what recutting changes.
-/

namespace FeatureFlags

/-! ### Buckets -/

/-- A sharder chooses shards below their number. -/
def Sharder.StaysBelow (sharder : Sharder) (total : UInt32) : Prop :=
  ∀ input, sharder input total < total

/-- The digest modulo the number of shards is below it. -/
theorem digestSharder_staysBelow {total : UInt32} (some_shards : total ≠ 0) :
    digestSharder.StaysBelow total := fun _ =>
  UInt32.mod_lt _ (UInt32.pos_iff_ne_zero.mpr some_shards)

theorem Visit.bucket_lt {visit : Visit} {total : UInt32} (below : visit.sharder.StaysBelow total)
    (salt : String) : visit.bucket total salt < total :=
  below _

namespace ShardRange

variable {range : ShardRange} {bucket : UInt32}

theorem contains_iff : range.contains bucket ↔ range.start ≤ bucket ∧ bucket < range.stop := by
  rw [contains, decide_eq_true_iff]

/-- Two ranges have no bucket below the number of shards in common. -/
def Apart (total : UInt32) (first second : ShardRange) : Prop :=
  ∀ bucket < total, ¬ (first.contains bucket ∧ second.contains bucket)

end ShardRange

namespace Split

/-- The ranges of all shards of a split. -/
def ranges (split : Split) : List ShardRange := split.shards.flatMap Shard.ranges

/-- Whether a bucket lies in a range of a split. -/
def reaches (split : Split) (bucket : UInt32) : Bool :=
  split.ranges.any fun range => range.contains bucket

/-- What a split serves, whomever it serves it. -/
def offer (split : Split) : Split := { split with shards := [] }

theorem reaches_iff {split : Split} {bucket : UInt32} :
    split.reaches bucket ↔ ∃ range ∈ split.ranges, range.contains bucket :=
  List.any_eq_true

theorem ranges_of_shards {split : Split} {salt : String} {ranges : List ShardRange}
    (isShard : split.shards = [⟨salt, ranges⟩]) : split.ranges = ranges := by
  rw [Split.ranges, isShard, List.flatMap_singleton]

end Split

/-! ### Splits of one salt -/

/-- Splits have one shard each, all of one salt. -/
def AreSalted (salt : String) (splits : List Split) : Prop :=
  ∀ split ∈ splits, ∃ ranges, split.shards = [⟨salt, ranges⟩]

/-- What splits offer the subjects in a bucket. -/
def offers (splits : List Split) (bucket : UInt32) : List Split :=
  (splits.filter fun split => split.reaches bucket).map Split.offer

namespace AreSalted

variable {salt : String} {total : UInt32} {splits : List Split} {split : Split} {visit : Visit}

/-- **A split of one salt serves the subjects whose bucket it has.** -/
theorem serves_eq (salted : AreSalted salt splits) (some_shards : total ≠ 0)
    (inside : split ∈ splits) :
    split.serves visit.sharder total visit.subjectKey =
      split.reaches (visit.bucket total salt) := by
  obtain ⟨ranges, isShard⟩ := salted split inside
  have bucket : visit.sharder (octetsOf (shardInput salt visit.subjectKey)) total =
      visit.bucket total salt := rfl
  rw [Split.serves, isShard, List.all_cons, List.all_nil, Bool.and_true, Split.reaches,
    Split.ranges_of_shards isShard, Shard.serves]
  simp only [ShardRange.serves, bucket, bne_iff_ne.2 some_shards, Bool.true_and]

theorem covers_iff (salted : AreSalted salt splits) (some_shards : total ≠ 0)
    (inside : split ∈ splits) :
    split.Covers total visit ↔ split.reaches (visit.bucket total salt) := by
  rw [← Split.serves_iff, salted.serves_eq some_shards inside]

theorem find?_eq (salted : AreSalted salt splits) (some_shards : total ≠ 0) (visit : Visit) :
    (splits.find? fun split => split.serves visit.sharder total visit.subjectKey) =
      splits.find? fun split => split.reaches (visit.bucket total salt) :=
  List.find?_congr fun _ inside => salted.serves_eq some_shards inside

/-- What an allocation of such splits contributes to answers is what its splits offer first to the
subject's bucket. -/
theorem gist_candidate? (salted : AreSalted salt splits) (some_shards : total ≠ 0)
    (allocation : Allocation) (visit : Visit) :
    (Allocation.candidate? { allocation with splits := splits } total visit).map Flag.gist =
      if allocation.Admits visit then
        (offers splits (visit.bucket total salt)).head?.map fun offer =>
          (offer, allocation.key, allocation.doLog,
            if allocation.rules.isEmpty then .split else .targetingMatch)
      else none := by
  rw [Flag.map_gist, Flag.essence_candidate?, salted.find?_eq some_shards]
  by_cases admits : allocation.Admits visit
  · rw [if_pos admits, if_pos admits, offers, List.head?_map, List.head?_filter, Option.map_map,
      Option.map_map]
    refine Option.map_congr fun split isFirst => ?_
    obtain ⟨ranges, isShard⟩ := salted split (List.mem_of_find?_eq_some isFirst)
    simp only [Function.comp_apply, Flag.gist, Flag.reasonOf, isShard]
    cases allocation.rules <;> rfl
  · rw [if_neg admits, if_neg admits]
    rfl

end AreSalted

/-! ### Recutting -/

/-- One change of ranges: one is cut in two at any bucket in it, or one that goes up to the number
of shards is extended. -/
inductive RecutRanges (total : UInt32) : List ShardRange → List ShardRange → Prop
  | cut (before after : List ShardRange) {start middle stop : UInt32} (least : start ≤ middle)
      (most : middle ≤ stop) :
      RecutRanges total (before ++ ⟨start, stop⟩ :: after)
        (before ++ ⟨start, middle⟩ :: ⟨middle, stop⟩ :: after)
  | extended (before after : List ShardRange) {start stop further : UInt32} (last : total ≤ stop)
      (longer : stop ≤ further) :
      RecutRanges total (before ++ ⟨start, stop⟩ :: after) (before ++ ⟨start, further⟩ :: after)

/-- One change of splits: they are put into another order, or the ranges of one are recut. -/
inductive Recut (total : UInt32) : List Split → List Split → Prop
  | permuted {splits others : List Split} (perm : splits.Perm others) : Recut total splits others
  | resized (front back : List Split) (split : Split) (salt : String)
      {ranges others : List ShardRange} (recut : RecutRanges total ranges others) :
      Recut total (front ++ { split with shards := [⟨salt, ranges⟩] } :: back)
        (front ++ { split with shards := [⟨salt, others⟩] } :: back)

section Recutting

variable {salt : String} {total bucket : UInt32} {splits others : List Split}

/-- No bucket is lost at a seam or gained beyond the last shard. -/
theorem RecutRanges.any_contains {ranges others : List ShardRange}
    (recut : RecutRanges total ranges others) (below : bucket < total) :
    (others.any fun range => range.contains bucket) =
      ranges.any fun range => range.contains bucket := by
  cases recut with
  | cut before after least most =>
    rename_i start middle stop
    have pieces : (ShardRange.contains ⟨start, middle⟩ bucket ||
        ShardRange.contains ⟨middle, stop⟩ bucket) = ShardRange.contains ⟨start, stop⟩ bucket := by
      rw [Bool.eq_iff_iff, Bool.or_eq_true]
      simp only [ShardRange.contains_iff, UInt32.le_iff_toNat_le, UInt32.lt_iff_toNat_lt]
        at least most ⊢
      omega
    simp only [List.any_append, List.any_cons, ← pieces, Bool.or_assoc]
  | extended before after last longer =>
    rename_i start stop further
    have same : ShardRange.contains ⟨start, further⟩ bucket =
        ShardRange.contains ⟨start, stop⟩ bucket := by
      rw [Bool.eq_iff_iff]
      simp only [ShardRange.contains_iff, UInt32.le_iff_toNat_le, UInt32.lt_iff_toNat_lt]
        at last longer below ⊢
      omega
    simp only [List.any_append, List.any_cons, same]

/-- One change keeps the one salt. -/
theorem Recut.areSalted (recut : Recut total splits others) (salted : AreSalted salt splits) :
    AreSalted salt others := by
  cases recut with
  | permuted perm => exact fun split inside => salted split (perm.mem_iff.2 inside)
  | resized front back split own recut =>
    rename_i ranges resized
    obtain ⟨_, isShard⟩ := salted { split with shards := [⟨own, ranges⟩] } (by simp)
    obtain rfl : own = salt := (Shard.mk.inj (List.singleton_inj.1 isShard)).1
    intro other inside
    rcases List.mem_append.1 inside with before | inside
    · exact salted other (List.mem_append_left _ before)
    · rcases List.mem_cons.1 inside with rfl | after
      · exact ⟨resized, rfl⟩
      · exact salted other (List.mem_append_right _ (List.mem_cons_of_mem _ after))

/-- **One change leaves what a bucket is offered**, but for the order. -/
theorem Recut.offers_perm (recut : Recut total splits others) (below : bucket < total) :
    (offers others bucket).Perm (offers splits bucket) := by
  cases recut with
  | permuted perm => exact ((perm.filter _).map _).symm
  | resized front back split own recut =>
    rename_i ranges resized
    have reach (ranges : List ShardRange) :
        Split.reaches { split with shards := [⟨own, ranges⟩] } bucket =
          ranges.any fun range => range.contains bucket := by
      rw [Split.reaches, Split.ranges_of_shards rfl]
    have alike := (reach resized).trans ((recut.any_contains below).trans (reach ranges).symm)
    refine List.Perm.of_eq ?_
    unfold offers
    rw [List.filter_append, List.filter_append, List.filter_cons, List.filter_cons, alike,
      List.map_append, List.map_append]
    split <;> rfl

/-- **Any number of changes leaves what a bucket is offered**, and keeps the one salt. -/
theorem offers_perm_of_recuts (recuts : Relation.ReflTransGen (Recut total) splits others)
    (salted : AreSalted salt splits) : AreSalted salt others ∧
      ∀ bucket < total, (offers others bucket).Perm (offers splits bucket) := by
  induction recuts with
  | refl => exact ⟨salted, fun _ _ => List.Perm.refl _⟩
  | tail _ last ih =>
    obtain ⟨salted, alike⟩ := ih
    exact ⟨last.areSalted salted, fun bucket below =>
      (last.offers_perm below).trans (alike bucket below)⟩

end Recutting

/-! ### Tilings -/

/-- What satisfies a test that no two items satisfy is all that does. -/
theorem filter_eq_singleton {α : Type} {items : List α} {test : α → Bool} {item : α}
    (exclusive : items.Pairwise fun first second => ¬ (test first ∧ test second))
    (inside : item ∈ items) (holds : test item) : items.filter test = [item] := by
  induction items with
  | nil => cases inside
  | cons first rest ih =>
    obtain ⟨alone, exclusive⟩ := List.pairwise_cons.1 exclusive
    rcases List.mem_cons.1 inside with rfl | inside
    · have none : rest.filter test = [] :=
        List.filter_eq_nil_iff.2 fun other after also => alone other after ⟨holds, also⟩
      rw [List.filter_cons_of_pos holds, none]
    · rw [List.filter_cons_of_neg fun also => alone item inside ⟨also, holds⟩, ih exclusive inside]

section Tilings

variable {salt : String} {total bucket : UInt32} {splits : List Split}

/-- Every bucket below the number of shards lies in a range. -/
def CoverShards (total : UInt32) (splits : List Split) : Prop :=
  ∀ bucket < total, ∃ range ∈ splits.flatMap Split.ranges, range.contains bucket

/-- No two splits have a bucket in common if no two ranges do. -/
theorem exclusive_of_apart (apart : (splits.flatMap Split.ranges).Pairwise (ShardRange.Apart total))
    (below : bucket < total) :
    splits.Pairwise fun first second => ¬ (first.reaches bucket ∧ second.reaches bucket) := by
  refine (List.pairwise_flatMap.1 apart).2.imp fun {first second} apart both => ?_
  obtain ⟨range, isFirst, contains⟩ := Split.reaches_iff.1 both.1
  obtain ⟨other, isSecond, alsoContains⟩ := Split.reaches_iff.1 both.2
  exact apart range isFirst other isSecond bucket below ⟨contains, alsoContains⟩

/-- A bucket is reached by no split exactly if it lies in no range. -/
theorem unreached_iff : (∀ split ∈ splits, ¬ split.reaches bucket) ↔
    ∀ range ∈ splits.flatMap Split.ranges, ¬ range.contains bucket := by
  simp only [Split.reaches_iff, List.mem_flatMap]
  exact ⟨fun unreached range ⟨split, inside, isRange⟩ contains =>
      unreached split inside ⟨range, isRange, contains⟩,
    fun outside split inside ⟨range, isRange, contains⟩ =>
      outside range ⟨split, inside, isRange⟩ contains⟩

/-- **Of splits that tile the shards one reaches a bucket**, and no other one does. -/
theorem exists_filter_eq_singleton
    (apart : (splits.flatMap Split.ranges).Pairwise (ShardRange.Apart total))
    (cover : CoverShards total splits) (below : bucket < total) :
    ∃ split ∈ splits, split.reaches bucket ∧
      (splits.filter fun split => split.reaches bucket) = [split] := by
  obtain ⟨range, isRange, contains⟩ := cover bucket below
  obtain ⟨split, inside, isRange⟩ := List.mem_flatMap.1 isRange
  have reaches := Split.reaches_iff.2 ⟨range, isRange, contains⟩
  exact ⟨split, inside, reaches,
    filter_eq_singleton (exclusive_of_apart apart below) inside reaches⟩

/-- One place has the split that reaches a bucket. -/
theorem exists_place {split : Split}
    (exclusive : splits.Pairwise fun first second =>
      ¬ (first.reaches bucket ∧ second.reaches bucket))
    (inside : split ∈ splits) (reaches : split.reaches bucket) :
    ∃ place : Nat, splits[place]? = some split ∧ ∀ (other : Nat) (otherSplit : Split),
      splits[other]? = some otherSplit → (otherSplit.reaches bucket ↔ other = place) := by
  obtain ⟨place, isPlace⟩ := List.mem_iff_getElem?.1 inside
  refine ⟨place, isPlace, fun other otherSplit isOther => ⟨fun also => ?_, ?_⟩⟩
  · obtain ⟨within, rfl⟩ := List.getElem?_eq_some_iff.1 isPlace
    obtain ⟨otherWithin, rfl⟩ := List.getElem?_eq_some_iff.1 isOther
    -- of two places with the bucket one would come first
    rcases Nat.lt_trichotomy other place with before | same | after
    · exact absurd ⟨also, reaches⟩ (List.pairwise_iff_getElem.1 exclusive _ _ _ _ before)
    · exact same
    · exact absurd ⟨reaches, also⟩ (List.pairwise_iff_getElem.1 exclusive _ _ _ _ after)
  · rintro rfl
    rwa [Option.some.inj (isOther.symm.trans isPlace)]

end Tilings

namespace Flag

/-- **Ranges that tile the shards serve everyone once.**

Let splits have one shard each, all of one salt, with ranges that have no bucket in common. A
subject is served by none of them exactly if its bucket lies in no range. If each bucket lies in a
range, every subject is served by exactly one split, the one with the range of its bucket, which an
allocation selects if it admits the visit; and the answer of a flag does not change if the splits
are put into another order, ranges are cut into pieces, or a range is extended beyond the last
shard, in any order and number. This is so for every sharder that stays below the number of
shards. -/
theorem tiling_serves_everyone_once {salt : String} {total : UInt32} {splits : List Split}
    (some_shards : total ≠ 0) (salted : AreSalted salt splits)
    (apart : (splits.flatMap Split.ranges).Pairwise (ShardRange.Apart total)) :
    (∀ visit : Visit, (∀ split ∈ splits, ¬ split.Covers total visit) ↔
      ∀ range ∈ splits.flatMap Split.ranges, ¬ range.contains (visit.bucket total salt)) ∧
    (CoverShards total splits →
      (∀ visit : Visit, visit.sharder.StaysBelow total →
        ∃ (place : Nat) (split : Split), splits[place]? = some split ∧
          (∃ range ∈ split.ranges, range.contains (visit.bucket total salt)) ∧
          (∀ (other : Nat) (otherSplit : Split), splits[other]? = some otherSplit →
            (otherSplit.Covers total visit ↔ other = place)) ∧
          ∀ allocation : Allocation, allocation.Admits visit → allocation.splits = splits →
            allocation.select total (identified visit) = .ok split) ∧
      ∀ others, Relation.ReflTransGen (Recut total) splits others →
        ∀ (flag : Flag) (before after : List Allocation) (allocation : Allocation) (visit : Visit),
          flag.totalShards = total → visit.sharder.StaysBelow total →
          { flag with allocations :=
              before ++ { allocation with splits := others } :: after }.evaluate visit =
            { flag with allocations :=
              before ++ { allocation with splits := splits } :: after }.evaluate visit) := by
  refine ⟨fun visit => ?_, fun cover => ⟨fun visit below => ?_, ?_⟩⟩
  · rw [← unreached_iff]
    exact forall₂_congr fun split inside => not_congr (salted.covers_iff some_shards inside)
  · have isBelow := Visit.bucket_lt below salt
    obtain ⟨split, inside, reaches, alone⟩ := exists_filter_eq_singleton apart cover isBelow
    obtain ⟨place, isPlace, only⟩ :=
      exists_place (exclusive_of_apart apart isBelow) inside reaches
    refine ⟨place, split, isPlace, Split.reaches_iff.1 reaches, fun other otherSplit isOther => ?_,
      fun allocation admits same => ?_⟩
    · rw [salted.covers_iff some_shards (List.mem_of_getElem? isOther)]
      exact only other otherSplit isOther
    · rw [Allocation.select_eq_ok_iff, same, salted.find?_eq some_shards, ← List.head?_filter,
        alone]
      exact ⟨admits, rfl⟩
  · rintro others recuts flag before after allocation visit rfl below
    have isBelow := Visit.bucket_lt below salt
    obtain ⟨split, _, _, alone⟩ := exists_filter_eq_singleton apart cover isBelow
    obtain ⟨otherSalted, alike⟩ := offers_perm_of_recuts recuts salted
    have offered : offers splits (visit.bucket flag.totalShards salt) = [split.offer] := by
      rw [offers, alone]
      rfl
    have reoffered := alike _ isBelow
    rw [offered] at reoffered
    refine flag.evaluate_of_candidate? ?_
    rw [otherSalted.gist_candidate? some_shards, salted.gist_candidate? some_shards, offered,
      List.perm_singleton.1 reoffered]

/-! ### Two halves -/

/-- A split of the subjects that one salt puts into one range. -/
def half (variation : String) (start stop : UInt32) : Split :=
  ⟨[⟨"checkout", [⟨start, stop⟩]⟩], variation, Dict.empty⟩

/-- An allocation of the two halves of the shards. -/
def halves : Allocation :=
  ⟨"halves", [], none, none, [half "off" 0 5000, half "on" 5000 10000], true⟩

/-- The halves in the other order, the upper one in two pieces and longer than the shards. -/
def recutHalves : List Split :=
  [⟨[⟨"checkout", [⟨5000, 7000⟩, ⟨7000, 20000⟩]⟩], "on", Dict.empty⟩, half "off" 0 5000]

theorem recutHalves_of_halves :
    Relation.ReflTransGen (Recut 10000) halves.splits recutHalves := by
  have pieces : Recut 10000 halves.splits
      [half "off" 0 5000, ⟨[⟨"checkout", [⟨5000, 7000⟩, ⟨7000, 10000⟩]⟩], "on", Dict.empty⟩] :=
    .resized [half "off" 0 5000] [] (half "on" 5000 10000) "checkout"
      (.cut [] [] (by decide) (by decide))
  have longer : Recut 10000
      [half "off" 0 5000, ⟨[⟨"checkout", [⟨5000, 7000⟩, ⟨7000, 10000⟩]⟩], "on", Dict.empty⟩]
      [half "off" 0 5000, ⟨[⟨"checkout", [⟨5000, 7000⟩, ⟨7000, 20000⟩]⟩], "on", Dict.empty⟩] :=
    .resized [half "off" 0 5000] [] (half "on" 5000 10000) "checkout"
      (.extended [⟨5000, 7000⟩] [] (by decide) (by decide))
  exact ((Relation.ReflTransGen.single pieces).tail longer).tail (.permuted (.swap _ _ _))

/-- Both halves are served to somebody, and recutting them changes nothing for a visitor. -/
theorem tiling_serves_everyone_once_halves :
    (∃ (place : Nat) (split : Split), halves.splits[place]? = some split ∧
      halves.select 10000 (identified earlyVisit) = .ok split) ∧
    { launch with allocations := [{ halves with splits := recutHalves }] }.evaluate earlyVisit =
      { launch with allocations := [halves] }.evaluate earlyVisit ∧
    ({ launch with allocations := [halves] }.evaluate earlyVisit).toOption.isSome := by
  have salted : AreSalted "checkout" halves.splits := by
    intro split inside
    rcases List.mem_pair.1 inside with rfl | rfl
    · exact ⟨_, rfl⟩
    · exact ⟨_, rfl⟩
  have apart : (halves.splits.flatMap Split.ranges).Pairwise (ShardRange.Apart 10000) := by
    refine List.pairwise_pair.2 fun bucket _ both => ?_
    have lower := (ShardRange.contains_iff.1 both.1).2
    have upper := (ShardRange.contains_iff.1 both.2).1
    exact absurd (UInt32.lt_of_lt_of_le lower upper) (UInt32.lt_irrefl _)
  have cover : CoverShards 10000 halves.splits := by
    intro bucket below
    rcases UInt32.lt_or_le bucket 5000 with lower | upper
    · exact ⟨⟨0, 5000⟩, by decide, ShardRange.contains_iff.2 ⟨UInt32.zero_le, lower⟩⟩
    · exact ⟨⟨5000, 10000⟩, by decide, ShardRange.contains_iff.2 ⟨upper, below⟩⟩
  have stays : earlyVisit.sharder.StaysBelow 10000 := digestSharder_staysBelow (by decide)
  obtain ⟨served, recut⟩ :=
    (tiling_serves_everyone_once (by decide) salted apart).2 cover
  obtain ⟨place, split, isPlace, _, _, selects⟩ := served earlyVisit stays
  refine ⟨⟨place, split, isPlace, selects halves (by decide +kernel) rfl⟩, ?_, by decide +kernel⟩
  exact recut recutHalves recutHalves_of_halves launch [] [] halves earlyVisit rfl stays

end Flag

end FeatureFlags
