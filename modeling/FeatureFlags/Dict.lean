/-!
**Maps from texts to values, kept in the order of their keys.**

A `Dict` lists its entries with strictly increasing keys, so equal maps are equal values. Keys are
ordered by code points, which is also the order of their UTF-8 octets. Where a map is gone through,
its entries may be met in any order.

* `Dict.get?`, `Dict.insert`: look-up and replacement.
* `Dict.ofList`: of several entries with one key the last stays.
* `Dict.Walk`: an order in which the entries are met.
-/

namespace FeatureFlags

/-- A map from texts to values. -/
structure Dict (α : Type) where
  entries : List (String × α)
  ordered : entries.Pairwise (fun first second => first.1 < second.1)
deriving DecidableEq

namespace Dict

variable {α β : Type}

/-- The map without entries. -/
def empty : Dict α := ⟨[], List.Pairwise.nil⟩

instance : Inhabited (Dict α) := ⟨empty⟩

instance [Repr α] : Repr (Dict α) := ⟨fun dict prec => reprPrec dict.entries prec⟩

/-- Put an entry into its place among ordered entries, in the stead of one with the same key. -/
def place (key : String) (value : α) : List (String × α) → List (String × α)
  | [] => [(key, value)]
  | entry :: rest =>
    if key < entry.1 then (key, value) :: entry :: rest
    else if key = entry.1 then (key, value) :: rest
    else entry :: place key value rest

/-- Every entry after `place` is the new one or an old one. -/
theorem mem_place {key : String} {value : α} {entries : List (String × α)} {entry : String × α}
    (member : entry ∈ place key value entries) : entry = (key, value) ∨ entry ∈ entries := by
  induction entries with
  | nil => simpa [place] using member
  | cons head rest ih =>
    simp only [place] at member
    split at member
    · simpa using member
    · split at member
      · rcases List.mem_cons.1 member with equal | inRest
        · exact .inl equal
        · exact .inr (List.mem_cons_of_mem _ inRest)
      · rcases List.mem_cons.1 member with equal | inRest
        · exact .inr (equal ▸ List.mem_cons_self)
        · exact (ih inRest).imp id (List.mem_cons_of_mem _)

/-- `place` keeps the entries ordered. -/
theorem place_ordered (key : String) (value : α) {entries : List (String × α)}
    (ordered : entries.Pairwise (fun first second => first.1 < second.1)) :
    (place key value entries).Pairwise (fun first second => first.1 < second.1) := by
  induction entries with
  | nil => simp [place]
  | cons head rest ih =>
    obtain ⟨above, restOrdered⟩ := List.pairwise_cons.1 ordered
    simp only [place]
    split
    · rename_i below
      refine List.pairwise_cons.2 ⟨fun entry member => ?_, ordered⟩
      rcases List.mem_cons.1 member with equal | inRest
      · exact equal ▸ below
      · exact String.lt_trans below (above entry inRest)
    · split
      · rename_i equal
        refine List.pairwise_cons.2 ⟨fun entry member => ?_, restOrdered⟩
        exact equal ▸ above entry member
      · rename_i notBelow notEqual
        refine List.pairwise_cons.2 ⟨fun entry member => ?_, ih restOrdered⟩
        rcases mem_place member with equal | inRest
        · subst equal
          rcases Std.lt_trichotomy head.1 key with above | equal | below
          · exact above
          · exact absurd equal.symm notEqual
          · exact absurd below notBelow
        · exact above entry inRest

/-- The map with an entry added or replaced. -/
def insert (dict : Dict α) (key : String) (value : α) : Dict α :=
  ⟨place key value dict.entries, place_ordered key value dict.ordered⟩

/-- The map of a list of entries; of several entries with one key the last stays. -/
def ofList (entries : List (String × α)) : Dict α :=
  entries.foldl (fun dict entry => dict.insert entry.1 entry.2) empty

/-- The value at a key. -/
def get? (dict : Dict α) (key : String) : Option α := dict.entries.lookup key

/-- Whether a key has a value. -/
def contains (dict : Dict α) (key : String) : Bool := (dict.get? key).isSome

/-- The keys, in order. -/
def keys (dict : Dict α) : List String := dict.entries.map (·.1)

/-- The values, in the order of their keys. -/
def values (dict : Dict α) : List α := dict.entries.map (·.2)

/-- How many entries a map has. -/
def size (dict : Dict α) : Nat := dict.entries.length

/-- An order in which all entries of a map are met. -/
structure Walk (dict : Dict α) where
  entries : List (String × α)
  complete : entries.Perm dict.entries

/-- The order of the keys. -/
def Walk.inOrder (dict : Dict α) : dict.Walk := ⟨dict.entries, .refl _⟩

/-- The map with another value at each key. -/
def map (f : String → α → β) (dict : Dict α) : Dict β :=
  ⟨dict.entries.map fun entry => (entry.1, f entry.1 entry.2),
    List.pairwise_map.2 (dict.ordered.imp id)⟩

end Dict

end FeatureFlags
