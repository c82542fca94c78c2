import FeatureFlags.Dict
import Mathlib.Data.List.Perm.Basic
import Mathlib.Data.List.Nodup
import Mathlib.Order.Basic
import Mathlib.Data.String.Basic

/-!
**Maps as functions of their keys.**

A map is known by what it gives at each key, and every operation is known by what it does there.

* `Dict.get?_eq_some_iff`: a key has a value exactly when the pair is an entry.
* `Dict.ext_get?`: maps that give the same at every key are equal.
* `Dict.get?_insert`, `Dict.get?_ofList`: insertion, and the map of a list of entries.
* `Dict.ofList_eq_of_perm`, `Dict.get?_ofList_filterMap`: maps that are made of other maps.
-/

namespace FeatureFlags.Dict

variable {α β : Type}

/-! ### Entries and lookups -/

theorem lookup_eq_some_iff {key : String} {value : α} {entries : List (String × α)}
    (ordered : entries.Pairwise (fun first second => first.1 < second.1)) :
    entries.lookup key = some value ↔ (key, value) ∈ entries := by
  induction entries with
  | nil => simp
  | cons head rest ih =>
    obtain ⟨above, restOrdered⟩ := List.pairwise_cons.1 ordered
    obtain ⟨first, content⟩ := head
    rw [List.lookup_cons, List.mem_cons]
    by_cases same : key = first
    · subst same
      have absent : (key, value) ∉ rest := fun member =>
        String.lt_irrefl key (above (key, value) member)
      simp only [beq_self_eq_true, Option.some.injEq, absent, or_false, Prod.mk.injEq, true_and]
      exact eq_comm
    · have different : (key, value) ≠ (first, content) := fun equal =>
        same (congrArg Prod.fst equal)
      simp only [beq_eq_false_iff_ne.2 same, different, false_or]
      exact ih restOrdered

/-- **A key has a value exactly when the pair is an entry.** -/
theorem get?_eq_some_iff {dict : Dict α} {key : String} {value : α} :
    dict.get? key = some value ↔ (key, value) ∈ dict.entries :=
  lookup_eq_some_iff dict.ordered

/-- What holds at every key is found by a look at the entries. -/
instance {p : String → α → Prop} [∀ key value, Decidable (p key value)] (dict : Dict α) :
    Decidable (∀ key value, dict.get? key = some value → p key value) :=
  decidable_of_iff (∀ entry ∈ dict.entries, p entry.1 entry.2)
    ⟨fun each key value found => each (key, value) (get?_eq_some_iff.1 found),
      fun each entry member => each entry.1 entry.2 (get?_eq_some_iff.2 member)⟩

theorem entries_nodup (dict : Dict α) : dict.entries.Nodup := by
  refine dict.ordered.imp fun {first second} below same => ?_
  rw [same] at below
  exact String.lt_irrefl _ below

/-- **Maps that give the same at every key are equal.** -/
theorem ext_get? {first second : Dict α} (same : ∀ key, first.get? key = second.get? key) :
    first = second := by
  have members : ∀ entry, entry ∈ first.entries ↔ entry ∈ second.entries := fun entry => by
    rw [← get?_eq_some_iff, ← get?_eq_some_iff, same]
  have shuffled : first.entries.Perm second.entries :=
    (List.perm_ext_iff_of_nodup first.entries_nodup second.entries_nodup).2 members
  have equal : first.entries = second.entries :=
    shuffled.eq_of_pairwise
      (fun a b _ _ below above => absurd (String.lt_trans below above) (String.lt_irrefl _))
      first.ordered second.ordered
  cases first
  cases second
  cases equal
  rfl

/-! ### Keys -/

@[simp] theorem get?_empty (key : String) : (empty : Dict α).get? key = none := rfl

theorem mem_keys_iff {dict : Dict α} {key : String} :
    key ∈ dict.keys ↔ (dict.get? key).isSome := by
  rw [Option.isSome_iff_exists, keys, List.mem_map]
  constructor
  · rintro ⟨entry, member, rfl⟩
    exact ⟨entry.2, get?_eq_some_iff.2 member⟩
  · rintro ⟨value, found⟩
    exact ⟨(key, value), get?_eq_some_iff.1 found, rfl⟩

theorem keys_ordered (dict : Dict α) : dict.keys.Pairwise (· < ·) :=
  List.pairwise_map.2 dict.ordered

theorem keys_nodup (dict : Dict α) : dict.keys.Nodup := by
  refine dict.keys_ordered.imp fun {first second} below same => ?_
  rw [same] at below
  exact String.lt_irrefl _ below

/-- Maps with values at the same keys list the same keys. -/
theorem keys_eq_of_isSome {first : Dict α} {second : Dict β}
    (same : ∀ key, (first.get? key).isSome = (second.get? key).isSome) :
    first.keys = second.keys := by
  have members : ∀ key, key ∈ first.keys ↔ key ∈ second.keys := fun key => by
    rw [mem_keys_iff, mem_keys_iff, same]
  have shuffled : first.keys.Perm second.keys :=
    (List.perm_ext_iff_of_nodup first.keys_nodup second.keys_nodup).2 members
  exact shuffled.eq_of_pairwise
    (fun a b _ _ below above => absurd (String.lt_trans below above) (String.lt_irrefl _))
    first.keys_ordered second.keys_ordered

/-! ### Operations -/

theorem lookup_place (key other : String) (value : α) {entries : List (String × α)}
    (ordered : entries.Pairwise (fun first second => first.1 < second.1)) :
    (place key value entries).lookup other =
      if other = key then some value else entries.lookup other := by
  induction entries with
  | nil =>
    rw [place, List.lookup_cons]
    by_cases same : other = key
    · rw [if_pos same, beq_iff_eq.2 same]
    · rw [if_neg same, beq_eq_false_iff_ne.2 same]
  | cons head rest ih =>
    have restOrdered := (List.pairwise_cons.1 ordered).2
    by_cases same : other = key
    · subst same
      rw [if_pos rfl, lookup_eq_some_iff (place_ordered other value ordered)]
      unfold place
      split
      · exact List.mem_cons_self
      · split
        · exact List.mem_cons_self
        · have later := ih restOrdered
          rw [if_pos rfl, lookup_eq_some_iff (place_ordered other value restOrdered)] at later
          exact List.mem_cons_of_mem _ later
    · rw [if_neg same]
      unfold place
      split
      · rw [List.lookup_cons, beq_eq_false_iff_ne.2 same]
      · split
        · rename_i equal
          rw [List.lookup_cons, List.lookup_cons, beq_eq_false_iff_ne.2 same,
            beq_eq_false_iff_ne.2 (equal ▸ same)]
        · rw [List.lookup_cons, List.lookup_cons, ih restOrdered, if_neg same]

/-- **Insertion sets one key and leaves the others.** -/
@[simp] theorem get?_insert (dict : Dict α) (key other : String) (value : α) :
    (dict.insert key value).get? other = if other = key then some value else dict.get? other :=
  lookup_place key other value dict.ordered

/-- Another value at each key leaves the keys. -/
theorem get?_map (f : String → α → β) (dict : Dict α) (key : String) :
    (dict.map f).get? key = (dict.get? key).map (f key) := by
  ext value
  rw [Option.map_eq_some_iff, get?_eq_some_iff, map, List.mem_map]
  constructor
  · rintro ⟨⟨other, old⟩, inside, equal⟩
    cases equal
    exact ⟨old, get?_eq_some_iff.2 inside, rfl⟩
  · rintro ⟨old, found, rfl⟩
    exact ⟨(key, old), get?_eq_some_iff.1 found, rfl⟩

/-- The value of the last entry with a key. -/
def latest? (entries : List (String × α)) (key : String) : Option α :=
  ((entries.filter fun entry => entry.1 == key).getLast?).map (·.2)

theorem latest?_map_values (f : α → β) (entries : List (String × α)) (key : String) :
    latest? (entries.map fun entry => (entry.1, f entry.2)) key = (latest? entries key).map f := by
  rw [latest?, latest?, List.filter_map, List.getLast?_map, Option.map_map, Option.map_map]
  rfl

theorem latest?_map {γ : Type} (items : List γ) (name : γ → String) (content : γ → α)
    (key : String) :
    latest? (items.map fun item => (name item, content item)) key =
      ((items.filter fun item => name item == key).getLast?).map content := by
  rw [latest?, List.filter_map, List.getLast?_map, Option.map_map]
  rfl

theorem get?_foldl_insert (entries : List (String × α)) (dict : Dict α) (key : String) :
    (entries.foldl (fun dict entry => dict.insert entry.1 entry.2) dict).get? key =
      (latest? entries key).or (dict.get? key) := by
  induction entries generalizing dict with
  | nil => rfl
  | cons head rest ih =>
    rw [List.foldl_cons, ih, get?_insert, latest?, latest?]
    by_cases same : head.1 = key
    · rw [List.filter_cons_of_pos (by simpa using same), if_pos same.symm]
      cases found : (rest.filter fun entry => entry.1 == key).getLast? with
      | none => simp [List.getLast?_eq_none_iff.1 found]
      | some entry => simp [List.getLast?_cons, found]
    · rw [List.filter_cons_of_neg (by simpa using same), if_neg fun equal => same equal.symm]

/-- **In the map of a list of entries the last entry with a key counts.** -/
theorem get?_ofList (entries : List (String × α)) (key : String) :
    (ofList entries).get? key = latest? entries key := by
  rw [ofList, get?_foldl_insert, get?_empty, Option.or_none]

/-! ### One entry in the place of another -/

/-- An entry has no bearing on other keys. -/
theorem latest?_replace {front back : List (String × α)} {key other : String} (value : α)
    (apart : other ≠ key) :
    latest? (front ++ (key, value) :: back) other = latest? (front ++ back) other := by
  have absent : ((key == other) = true) = False := by simpa using apart.symm
  simp [latest?, absent]

/-- **One entry in the place of another of its key leaves all other keys.** -/
theorem get?_ofList_replace {front back : List (String × α)} {key other : String} (old new : α)
    (apart : other ≠ key) :
    (ofList (front ++ (key, new) :: back)).get? other =
      (ofList (front ++ (key, old) :: back)).get? other := by
  rw [get?_ofList, get?_ofList, latest?_replace new apart, latest?_replace old apart]

/-- The last entry with a key is what an insertion puts there. -/
theorem ofList_replace_last {front back : List (String × α)} {key : String}
    (last : ∀ entry ∈ back, entry.1 ≠ key) (old new : α) :
    ofList (front ++ (key, new) :: back) =
      (ofList (front ++ (key, old) :: back)).insert key new := by
  refine ext_get? fun other => ?_
  rw [get?_insert]
  by_cases same : other = key
  · subst same
    have none_later : back.filter (fun entry => entry.1 == other) = [] :=
      List.filter_eq_nil_iff.2 fun entry inside => by simpa using last entry inside
    rw [if_pos rfl, get?_ofList]
    simp [latest?, none_later]
  · rw [if_neg same, get?_ofList_replace old new same]

theorem mem_keys_ofList {entries : List (String × α)} {key : String} :
    key ∈ (ofList entries).keys ↔ ∃ entry ∈ entries, entry.1 = key := by
  rw [mem_keys_iff, get?_ofList, latest?, Option.isSome_map, List.getLast?_isSome]
  constructor
  · intro present
    obtain ⟨entry, member⟩ := List.exists_mem_of_ne_nil _ present
    obtain ⟨inside, same⟩ := List.mem_filter.1 member
    exact ⟨entry, inside, beq_iff_eq.1 same⟩
  · rintro ⟨entry, inside, same⟩
    exact List.ne_nil_of_mem (List.mem_filter.2 ⟨inside, beq_iff_eq.2 same⟩)

/-- What a map of entries has at a key is one of them. -/
theorem mem_of_get?_ofList {entries : List (String × α)} {key : String} {value : α}
    (found : (ofList entries).get? key = some value) : (key, value) ∈ entries := by
  rw [get?_ofList, latest?] at found
  obtain ⟨entry, isLast, rfl⟩ := Option.map_eq_some_iff.1 found
  obtain ⟨inside, same⟩ := List.mem_filter.1 (List.mem_of_getLast? isLast)
  rw [← beq_iff_eq.1 same]
  exact inside

theorem mem_of_mem_ofList {entries : List (String × α)} {entry : String × α}
    (member : entry ∈ (ofList entries).entries) : entry ∈ entries :=
  mem_of_get?_ofList (get?_eq_some_iff.2 member)

/-- Without a repeated key every entry counts. -/
theorem get?_ofList_eq_some_iff {entries : List (String × α)}
    (distinct : (entries.map Prod.fst).Nodup) {key : String} {value : α} :
    (ofList entries).get? key = some value ↔ (key, value) ∈ entries := by
  constructor
  · exact mem_of_get?_ofList
  · intro inside
    rw [get?_ofList, latest?]
    have present : (key, value) ∈ entries.filter fun entry => entry.1 == key :=
      List.mem_filter.2 ⟨inside, beq_self_eq_true key⟩
    obtain ⟨last, isLast⟩ := Option.isSome_iff_exists.1
      (List.getLast?_isSome.2 (List.ne_nil_of_mem present))
    obtain ⟨lastInside, same⟩ := List.mem_filter.1 (List.mem_of_getLast? isLast)
    have equal : last = (key, value) :=
      List.inj_on_of_nodup_map distinct lastInside inside (beq_iff_eq.1 same)
    rw [isLast, equal]
    rfl

theorem mem_values_iff {dict : Dict α} {value : α} :
    value ∈ dict.values ↔ ∃ key, dict.get? key = some value := by
  rw [values, List.mem_map]
  constructor
  · rintro ⟨entry, member, rfl⟩
    exact ⟨entry.1, get?_eq_some_iff.2 member⟩
  · rintro ⟨key, found⟩
    exact ⟨(key, value), get?_eq_some_iff.1 found, rfl⟩

/-- Listing the entries of a map and reading them back gives the map. -/
@[simp] theorem ofList_entries (dict : Dict α) : ofList dict.entries = dict := by
  refine ext_get? fun key => Option.ext fun value => ?_
  rw [get?_ofList_eq_some_iff dict.keys_nodup, get?_eq_some_iff]

/-! ### Maps that are made of other maps -/

/-- The map of entries without a repeated key lists these entries, in some order. -/
theorem entries_ofList_perm {entries : List (String × α)}
    (distinct : (entries.map Prod.fst).Nodup) : (ofList entries).entries.Perm entries := by
  refine (List.perm_ext_iff_of_nodup (entries_nodup _) (List.Nodup.of_map _ distinct)).2 ?_
  intro entry
  rw [← get?_eq_some_iff, get?_ofList_eq_some_iff distinct]

/-- The entries of a map, in whatever order they are listed, give the map back. -/
theorem ofList_eq_of_perm {dict : Dict α} {entries : List (String × α)}
    (listed : entries.Perm dict.entries) : ofList entries = dict := by
  have distinct : (entries.map Prod.fst).Nodup := (listed.map Prod.fst).nodup_iff.2 dict.keys_nodup
  refine ext_get? fun key => Option.ext fun value => ?_
  rw [get?_ofList_eq_some_iff distinct, get?_eq_some_iff, listed.mem_iff]

/-- **A map of what can be read of another map reads the value at each key.** -/
theorem get?_ofList_filterMap (dict : Dict α) (read : α → Option β) (key : String) :
    (ofList (dict.entries.filterMap fun entry =>
      (read entry.2).map fun value => (entry.1, value))).get? key = (dict.get? key).bind read := by
  have names : ((dict.entries.filterMap fun entry =>
      (read entry.2).map fun value => (entry.1, value)).map Prod.fst).Sublist dict.keys := by
    rw [keys, List.map_filterMap]
    generalize dict.entries = entries
    induction entries with
    | nil => exact List.Sublist.slnil
    | cons head rest ih =>
      rw [List.filterMap_cons, List.map_cons]
      cases read head.2 with
      | none => exact ih.cons _
      | some value => exact ih.cons_cons _
  refine Option.ext fun value => ?_
  rw [get?_ofList_eq_some_iff (names.nodup dict.keys_nodup), List.mem_filterMap,
    Option.bind_eq_some_iff]
  constructor
  · rintro ⟨entry, inside, isRead⟩
    obtain ⟨content, found, same⟩ := Option.map_eq_some_iff.1 isRead
    cases same
    exact ⟨entry.2, get?_eq_some_iff.2 inside, found⟩
  · rintro ⟨content, found, isRead⟩
    exact ⟨(key, content), get?_eq_some_iff.1 found, by rw [isRead]; rfl⟩

end FeatureFlags.Dict
