import FeatureFlags.Json.Reading
import FeatureFlags.Proofs.Dict
import FeatureFlags.Proofs.Json.Documents

/-!
**Which values are read back from their text.**

A value that was read has its keys in order, whole numbers of 64 bits, and no object whose only key
is the one that is kept for texts. Of such values exactly those are read back that are not nested too
deep for the place they stand in, whose objects do not begin with that key, and whose doubles are
read as they were written. A double need not be: the reader rounds more than once.

* `Double.isKept`, `Json.isKept`: what is read back.
* `Document.toJson?_document`: a value is read back exactly if it is kept.
* `Document.isNormal_of_toJson?`: what is read is normal.
-/

namespace FeatureFlags

/-! ### What is read back -/

/-- Whether the JSON text of a double is read as the double. -/
def Double.isKept (value : Double) : Bool :=
  decide ((Document.read? (Json.double value).toOctets).bind Document.readDouble? = some value)

namespace Json

mutual

/-- Whether a value that lies inside of `level` containers is read back from its text. -/
def isKept (level : Nat) : Json → Bool
  | .number (.float value) => value.isKept
  | .array items => decide (level < Document.nestingLimit) && itemsAreKept (level + 1) items
  | .object members =>
    decide (level < Document.nestingLimit) &&
      (members.head?.map Prod.fst != some Document.textKey) && membersAreKept (level + 1) members
  | _ => true

/-- `isKept` for each item. -/
def itemsAreKept (level : Nat) : List Json → Bool
  | [] => true
  | item :: rest => item.isKept level && itemsAreKept level rest

/-- `isKept` for the value of each member. -/
def membersAreKept (level : Nat) : List (String × Json) → Bool
  | [] => true
  | (_, value) :: rest => value.isKept level && membersAreKept level rest

end

/-! ### What can be read -/

/-- Whether the keys of an object are in order, and not the one that is kept for texts alone. -/
def KeysAreNormal (members : List (String × Json)) : Prop :=
  members.Pairwise (fun first second => first.1 < second.1) ∧
    members.map Prod.fst ≠ [Document.textKey]

mutual

/-- Whether a value is one that can be read. -/
def IsNormal : Json → Prop
  | .number (.whole value) => -9223372036854775808 ≤ value ∧ value < 18446744073709551616
  | .array items => ItemsAreNormal items
  | .object members => KeysAreNormal members ∧ MembersAreNormal members
  | _ => True

/-- `IsNormal` for each item. -/
def ItemsAreNormal : List Json → Prop
  | [] => True
  | item :: rest => item.IsNormal ∧ ItemsAreNormal rest

/-- `IsNormal` for the value of each member. -/
def MembersAreNormal : List (String × Json) → Prop
  | [] => True
  | (_, value) :: rest => value.IsNormal ∧ MembersAreNormal rest

end

theorem itemsAreNormal_iff {items : List Json} :
    ItemsAreNormal items ↔ ∀ item ∈ items, item.IsNormal := by
  induction items with
  | nil => simp [ItemsAreNormal]
  | cons item rest ih => simp [ItemsAreNormal, ih]

theorem membersAreNormal_iff {members : List (String × Json)} :
    MembersAreNormal members ↔ ∀ member ∈ members, member.2.IsNormal := by
  induction members with
  | nil => simp [MembersAreNormal]
  | cons member rest ih => simp [MembersAreNormal, ih]

end Json

namespace Document

/-! ### Members in order -/

theorem placeMember_eq_place (key : String) (value : Json) (members : List (String × Json)) :
    placeMember key value members = Dict.place key value members := by
  induction members with
  | nil => rfl
  | cons member rest ih =>
    obtain ⟨other, old⟩ := member
    simp only [placeMember, Dict.place, ih]

/-- The members of an object that is read are the entries of a map. -/
theorem foldl_placeMember (pairs : List (String × Json)) :
    pairs.foldl (fun sorted pair => placeMember pair.1 pair.2 sorted) [] =
      (Dict.ofList pairs).entries := by
  have each (dict : Dict Json) :
      pairs.foldl (fun sorted pair => placeMember pair.1 pair.2 sorted) dict.entries =
        (pairs.foldl (fun dict pair => dict.insert pair.1 pair.2) dict).entries := by
    induction pairs generalizing dict with
    | nil => rfl
    | cons pair rest ih =>
      rw [List.foldl_cons, List.foldl_cons, placeMember_eq_place]
      exact ih (dict.insert pair.1 pair.2)
  exact each Dict.empty

theorem foldl_placeMember_of_ordered {pairs : List (String × Json)}
    (ordered : pairs.Pairwise fun first second => first.1 < second.1) :
    pairs.foldl (fun sorted pair => placeMember pair.1 pair.2 sorted) [] = pairs := by
  rw [foldl_placeMember]
  exact congrArg Dict.entries (Dict.ofList_entries ⟨pairs, ordered⟩)

/-! ### Reading back -/

variable {readText : String → Option Json}

theorem readDouble?_document (value : Double) :
    (Json.double value).document.readDouble? = some value ↔ value.isKept := by
  rw [Double.isKept, read?_toOctets, decide_eq_true_iff]
  rfl

/-- The document of a double is no whole number. -/
theorem document_double (value : Double) :
    (Json.double value).document = .null ∨ ∃ text : NumberText,
      (Json.double value).document = .number text ∧
        (text.fraction.isSome ∨ text.exponent.isSome) := by
  cases written : value.digits? with
  | none => exact .inl (by simp [Json.double, Json.document, Number.text?, written])
  | some text =>
    obtain ⟨number, formed, spelled, broken⟩ := Double.exists_spell written
    have taken := NumberText.takeNumber_spell formed stops_nil
    rw [List.append_nil] at taken
    refine .inr ⟨number, ?_, broken⟩
    simp [Json.double, Json.document, Number.text?, written, spelled, taken]

/-- A number is read as a value as it is read as a number. -/
theorem toJsonWith?_number (level : Nat) (value : Number) :
    (Json.number value).document.toJsonWith? readText level = some (.number value) ↔
      (Json.number value).document.readNumber? = some value := by
  rcases Json.number_cases value with ⟨_, null⟩ | ⟨text, _, _, number⟩
  · rw [null]
    simp [toJsonWith?, readNumber?]
  · rw [number]
    simp [toJsonWith?, readNumber?]

theorem readNumber?_double (value : Double) :
    (Json.double value).document.readNumber? = some (.float value) ↔ value.isKept := by
  rw [← readDouble?_document]
  unfold readDouble?
  rcases document_double value with null | ⟨text, number, broken⟩
  · rw [null]
    simp [readNumber?]
  · rw [number]
    simp only [readNumber?]
    cases found : text.read? with
    | none => simp
    | some other =>
      obtain ⟨double, rfl⟩ := NumberText.exists_float broken found
      simp [Number.toDouble]

/-- The document of a whole number of 64 bits is read as the number. -/
theorem readNumber?_whole {value : Int} (least : -9223372036854775808 ≤ value)
    (most : value < 18446744073709551616) :
    (Json.int value).document.readNumber? = some (.whole value) := by
  have taken := NumberText.takeNumber_spell (NumberText.wellFormed_ofWhole value) stops_nil
  rw [List.append_nil, ← NumberText.octetsOf_toString] at taken
  have number : (Json.int value).document = .number (NumberText.ofWhole value) := by
    simp only [Json.int, Json.document, Number.text?, Option.bind_some, taken]
  rw [number]
  exact NumberText.read?_ofWhole least most

theorem head?_memberDocuments (members : List (String × Json)) :
    (Json.memberDocuments members).head?.bind (fun member => stringText? member.1) =
      members.head?.map Prod.fst := by
  cases members with
  | nil => rfl
  | cons member rest =>
    simp only [Json.memberDocuments, List.head?_cons, Option.bind_some, stringText?_escaped,
      Option.map_some]

/-- Members are read under the keys that they were written with. -/
theorem map_fst_of_membersToJson? {level : Nat} {members pairs : List (String × Json)}
    (found : membersToJson? readText level (Json.memberDocuments members) = some pairs) :
    pairs.map Prod.fst = members.map Prod.fst := by
  induction members generalizing pairs with
  | nil =>
    cases found
    rfl
  | cons member rest ih =>
    obtain ⟨key, value⟩ := member
    simp only [Json.memberDocuments, membersToJson?, stringText?_escaped] at found
    simp only [Option.pure_def, Option.bind_eq_bind, Option.bind_some, Option.bind_eq_some_iff]
      at found
    obtain ⟨read, _, others, found, same⟩ := found
    cases same
    simp [ih found]

/-- Members in order are read as an object exactly if each of them is read back. -/
theorem toJsonWith?_members {level : Nat} {members : List (String × Json)}
    (normal : Json.KeysAreNormal members) :
    (Json.object members).document.toJsonWith? readText level = some (.object members) ↔
      level < nestingLimit ∧ members.head?.map Prod.fst ≠ some textKey ∧
        membersToJson? readText (level + 1) (Json.memberDocuments members) = some members := by
  obtain ⟨ordered, not_alone⟩ := normal
  simp only [Json.document, toJsonWith?, head?_memberDocuments]
  by_cases inside : level < nestingLimit
  case neg => simp [inside]
  simp only [inside, if_true, true_and]
  split
  · rename_i kept_for_texts
    -- such an object has another member, so it stands for no text
    simp only [kept_for_texts, ne_eq, not_true_eq_false, false_and, iff_false]
    match members, kept_for_texts with
    | [(key, value)], kept_for_texts =>
      exact absurd (by simpa using kept_for_texts) not_alone
    | first :: second :: rest, _ => simp [Json.memberDocuments]
  · rename_i other
    simp only [other, ne_eq, not_false_eq_true, true_and, Option.map_eq_some_iff, Json.object.injEq]
    constructor
    · rintro ⟨pairs, found, same⟩
      have keys := map_fst_of_membersToJson? found
      have pairs_ordered : pairs.Pairwise fun first second => first.1 < second.1 := by
        rw [← List.pairwise_map (f := Prod.fst)] at ordered ⊢
        rwa [keys]
      rw [foldl_placeMember_of_ordered pairs_ordered] at same
      rwa [same] at found
    · intro found
      exact ⟨members, found, foldl_placeMember_of_ordered ordered⟩

mutual

/-- **A value is read back exactly if it is kept.** -/
theorem toJsonWith?_document : ∀ (value : Json), value.IsNormal → ∀ level : Nat,
    value.document.toJsonWith? readText level = some value ↔ value.isKept level
  | .null, _, level => by simp [Json.document, toJsonWith?, Json.isKept]
  | .bool value, _, level => by simp [Json.document, toJsonWith?, Json.isKept]
  | .number (.whole value), normal, level => by
    have found := readNumber?_whole normal.1 normal.2
    simpa [Json.isKept] using (toJsonWith?_number level (.whole value)).mpr found
  | .number (.float value), _, level =>
    (toJsonWith?_number level (.float value)).trans (readNumber?_double value)
  | .string value, _, level => by
    simp [Json.document, toJsonWith?, Json.isKept, stringText?_escaped]
  | .array items, normal, level => by
    have each := itemsToJson?_documents items normal (level + 1)
    simp only [Json.document, toJsonWith?, Json.isKept]
    by_cases inside : level < nestingLimit <;> simp [inside, each]
  | .object members, normal, level => by
    have each := membersToJson?_documents members normal.2 (level + 1)
    rw [toJsonWith?_members normal.1, each, Json.isKept]
    simp [and_assoc]

/-- `toJsonWith?_document` for the items of an array. -/
theorem itemsToJson?_documents : ∀ (items : List Json), Json.ItemsAreNormal items →
    ∀ level : Nat, itemsToJson? readText level (Json.itemDocuments items) = some items ↔
      Json.itemsAreKept level items
  | [], _, level => by simp [Json.itemDocuments, itemsToJson?, Json.itemsAreKept]
  | item :: rest, normal, level => by
    have first := toJsonWith?_document item normal.1 level
    have others := itemsToJson?_documents rest normal.2 level
    rw [Json.itemsAreKept, Bool.and_eq_true, ← first, ← others]
    simp [Json.itemDocuments, itemsToJson?, Option.bind_eq_some_iff]

/-- `toJsonWith?_document` for the members of an object. -/
theorem membersToJson?_documents : ∀ (members : List (String × Json)),
    Json.MembersAreNormal members → ∀ level : Nat,
    membersToJson? readText level (Json.memberDocuments members) = some members ↔
      Json.membersAreKept level members
  | [], _, level => by simp [Json.memberDocuments, membersToJson?, Json.membersAreKept]
  | (key, value) :: rest, normal, level => by
    have first := toJsonWith?_document value normal.1 level
    have others := membersToJson?_documents rest normal.2 level
    rw [Json.membersAreKept, Bool.and_eq_true, ← first, ← others]
    simp [Json.memberDocuments, membersToJson?, stringText?_escaped, Option.bind_eq_some_iff]

end

/-- **A value is read back in its place exactly if it is kept there.** -/
theorem toJson?_document {value : Json} (normal : value.IsNormal) (level : Nat) :
    value.document.toJson? level = some value ↔ value.isKept level :=
  toJsonWith?_document value normal level

/-! ### What is read is normal -/

/-- An object that is read is normal: its keys are in order, and one of them is the first that was
written. -/
theorem keysAreNormal_of_first {pairs : List (String × Json)}
    (other : pairs.head?.map Prod.fst ≠ some textKey) :
    Json.KeysAreNormal (Dict.ofList pairs).entries := by
  refine ⟨(Dict.ofList pairs).ordered, fun alone => ?_⟩
  cases pairs with
  | nil => cases alone
  | cons first rest =>
    have present : first.1 ∈ (Dict.ofList (first :: rest)).keys :=
      Dict.mem_keys_ofList.mpr ⟨first, List.mem_cons_self, rfl⟩
    rw [Dict.keys, alone, List.mem_singleton] at present
    exact other (congrArg some present)

/-- The first member that is read has the key of the first that is written. -/
theorem head?_of_membersToJson? {level : Nat} {members : List (Octets × Document)}
    {pairs : List (String × Json)} (found : membersToJson? readText level members = some pairs) :
    pairs.head?.map Prod.fst = members.head?.bind fun member => stringText? member.1 := by
  cases members with
  | nil =>
    cases found
    rfl
  | cons member rest =>
    obtain ⟨key, value⟩ := member
    simp only [membersToJson?, Option.pure_def, Option.bind_eq_bind, Option.bind_eq_some_iff]
      at found
    obtain ⟨name, named, read, _, others, _, same⟩ := found
    cases same
    exact named.symm

mutual

/-- A value that is read is normal, if what reads texts of values reads normal ones. -/
theorem isNormal_of_toJsonWith? (texts : ∀ text value, readText text = some value → value.IsNormal) :
    ∀ (document : Document) (level : Nat) (value : Json),
      document.toJsonWith? readText level = some value → value.IsNormal
  | .null, _, _, found => by
    cases found
    trivial
  | .bool _, _, _, found => by
    cases found
    trivial
  | .number text, _, _, found => by
    simp only [toJsonWith?, Option.map_eq_some_iff] at found
    obtain ⟨number, found, rfl⟩ := found
    cases number with
    | whole value => exact NumberText.whole_of_read? found
    | float value => trivial
  | .string _, _, _, found => by
    simp only [toJsonWith?, Option.map_eq_some_iff] at found
    obtain ⟨text, _, rfl⟩ := found
    trivial
  | .array items, level, value, found => by
    simp only [toJsonWith?] at found
    split at found
    · obtain ⟨values, each, rfl⟩ := Option.map_eq_some_iff.mp found
      exact itemsAreNormal_of_itemsToJson? texts items (level + 1) values each
    · cases found
  | .object members, level, value, found => by
    simp only [toJsonWith?] at found
    split at found
    · split at found
      · split at found
        · obtain ⟨text, _, found⟩ := Option.bind_eq_some_iff.mp found
          exact texts text value found
        · cases found
      · rename_i other
        obtain ⟨pairs, written, rfl⟩ := Option.map_eq_some_iff.mp found
        have each := membersAreNormal_of_membersToJson? texts members (level + 1) pairs written
        rw [foldl_placeMember]
        refine ⟨keysAreNormal_of_first ?_, Json.membersAreNormal_iff.mpr fun member inside => ?_⟩
        · rwa [head?_of_membersToJson? written]
        · exact Json.membersAreNormal_iff.mp each member (Dict.mem_of_mem_ofList inside)
    · cases found

/-- `isNormal_of_toJsonWith?` for the items of an array. -/
theorem itemsAreNormal_of_itemsToJson?
    (texts : ∀ text value, readText text = some value → value.IsNormal) :
    ∀ (items : List Document) (level : Nat) (values : List Json),
      itemsToJson? readText level items = some values → Json.ItemsAreNormal values
  | [], _, _, found => by
    cases found
    trivial
  | item :: rest, level, values, found => by
    simp only [itemsToJson?, Option.pure_def, Option.bind_eq_bind, Option.bind_eq_some_iff] at found
    obtain ⟨value, first, others, found, same⟩ := found
    cases same
    exact ⟨isNormal_of_toJsonWith? texts item level value first,
      itemsAreNormal_of_itemsToJson? texts rest level others found⟩

/-- `isNormal_of_toJsonWith?` for the members of an object. -/
theorem membersAreNormal_of_membersToJson?
    (texts : ∀ text value, readText text = some value → value.IsNormal) :
    ∀ (members : List (Octets × Document)) (level : Nat) (pairs : List (String × Json)),
      membersToJson? readText level members = some pairs → Json.MembersAreNormal pairs
  | [], _, _, found => by
    cases found
    trivial
  | (key, document) :: rest, level, pairs, found => by
    simp only [membersToJson?, Option.pure_def, Option.bind_eq_bind, Option.bind_eq_some_iff]
      at found
    obtain ⟨_, _, value, first, others, found, same⟩ := found
    cases same
    exact ⟨isNormal_of_toJsonWith? texts document level value first,
      membersAreNormal_of_membersToJson? texts rest level others found⟩

end

theorem isNormal_of_textToJson? (depth : Nat) :
    ∀ text value, textToJson? depth text = some value → value.IsNormal := by
  induction depth with
  | zero =>
    intro text value found
    cases found
  | succ depth ih =>
    intro text value found
    obtain ⟨document, _, found⟩ := Option.bind_eq_some_iff.mp found
    exact isNormal_of_toJsonWith? ih document 0 value found

/-- **What is read is normal.** -/
theorem isNormal_of_toJson? {document : Document} {level : Nat} {value : Json}
    (found : document.toJson? level = some value) : value.IsNormal :=
  isNormal_of_toJsonWith? (fun text => isNormal_of_textToJson? (text.length + 1) text) document
    level value found

end Document

theorem Json.isNormal_of_readText? {text : String} {value : Json}
    (found : Json.readText? text = some value) : value.IsNormal := by
  obtain ⟨document, _, found⟩ := Option.bind_eq_some_iff.mp found
  exact Document.isNormal_of_toJson? found

end FeatureFlags
