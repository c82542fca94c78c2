import FeatureFlags.Text.Octets
import Mathlib.Algebra.Group.Nat.Defs

/-!
**Numbers and texts as octets, and back.**

* `text?_octetsOf`, `text?_eq_some_iff`: a text is read back from its UTF-8 form, and from nothing
  else.
* `octetsOf_ofList`: the octets of a text, character by character.
* `ofLittleEndian_littleEndian`: a number is read back from enough octets.
* `List.mapM_eq_pure`: reading the elements of a list one by one, when every element can be read.
-/

namespace FeatureFlags

/-! ### Texts -/

/-- **A text is read back from its octets.** -/
@[simp] theorem text?_octetsOf (text : String) : (octetsOf text).text? = some text := by
  have whole : ByteArray.mk (octetsOf text).toArray = text.toByteArray := by
    rw [octetsOf, Array.toArray_toList, String.toUTF8_eq_toByteArray]
  rw [Octets.text?, whole, String.fromUTF8?, dif_pos text.isValidUTF8]
  rfl

/-- Octets are read as a text only if they are its UTF-8 form. -/
theorem text?_eq_some_iff {octets : Octets} {text : String} :
    octets.text? = some text ↔ octets = octetsOf text := by
  constructor
  · intro isText
    obtain ⟨valid, same⟩ := Option.dite_none_right_eq_some.mp isText
    cases same
    simp [octetsOf, String.fromUTF8]
  · rintro rfl
    exact text?_octetsOf text

/-- Texts with the same octets are the same. -/
theorem eq_of_octetsOf {first second : String} (same : octetsOf first = octetsOf second) :
    first = second := by
  have isSecond := text?_eq_some_iff.mpr same
  rw [text?_octetsOf] at isSecond
  exact Option.some.inj isSecond

/-- The octets of a text are those of its characters. -/
theorem octetsOf_ofList (characters : List Char) :
    octetsOf (String.ofList characters) = characters.flatMap String.utf8EncodeChar := by
  rw [octetsOf, String.toUTF8_eq_toByteArray, String.toByteArray_ofList, List.utf8Encode]
  simp

@[simp] theorem octetsOf_append (first second : String) :
    octetsOf (first ++ second) = octetsOf first ++ octetsOf second := by
  simp [octetsOf]

/-- A character among the first 128 is one octet. -/
theorem utf8EncodeChar_of_lt {c : Char} (narrow : c.toNat < 128) :
    String.utf8EncodeChar c = [UInt8.ofNat c.toNat] := by
  rw [String.utf8EncodeChar.eq_def]
  exact if_pos (Nat.lt_succ_iff.mp narrow)

/-- Every octet of another character is at least 128. -/
theorem le_of_mem_utf8EncodeChar {c : Char} (wide : 128 ≤ c.toNat) {octet : UInt8}
    (member : octet ∈ String.utf8EncodeChar c) : 128 ≤ octet.toNat := by
  have large : ¬c.val.toNat ≤ 127 := Nat.not_le.mpr wide
  rw [String.utf8EncodeChar.eq_def] at member
  simp only [large, if_false] at member
  -- two octets, three, or four
  split at member
  · simp only [List.mem_cons, List.not_mem_nil, or_false] at member
    rcases member with rfl | rfl <;> rw [UInt8.toNat_ofNat'] <;> omega
  split at member
  · simp only [List.mem_cons, List.not_mem_nil, or_false] at member
    rcases member with rfl | rfl | rfl <;> rw [UInt8.toNat_ofNat'] <;> omega
  · simp only [List.mem_cons, List.not_mem_nil, or_false] at member
    rcases member with rfl | rfl | rfl | rfl <;> rw [UInt8.toNat_ofNat'] <;> omega

/-! ### Octets of texts -/

/-- Octets that are those of a text. -/
def IsUtf8 (octets : Octets) : Prop := ∃ text, octets = octetsOf text

theorem isUtf8_iff {octets : Octets} :
    IsUtf8 octets ↔ ∃ characters : List Char, octets = characters.flatMap String.utf8EncodeChar := by
  constructor
  · rintro ⟨text, rfl⟩
    refine ⟨text.toList, ?_⟩
    rw [← octetsOf_ofList, String.ofList_toList]
  · rintro ⟨characters, rfl⟩
    exact ⟨String.ofList characters, (octetsOf_ofList characters).symm⟩

theorem IsUtf8.isSome_text? {octets : Octets} (utf8 : IsUtf8 octets) : octets.text?.isSome := by
  obtain ⟨text, rfl⟩ := utf8
  rw [text?_octetsOf]
  rfl

theorem IsUtf8.append {first second : Octets} (before : IsUtf8 first) (after : IsUtf8 second) :
    IsUtf8 (first ++ second) := by
  obtain ⟨text, rfl⟩ := before
  obtain ⟨more, rfl⟩ := after
  exact ⟨text ++ more, (octetsOf_append text more).symm⟩

/-- Before and after an octet below 128 stand whole characters. -/
theorem exists_characters {characters : List Char} {front back : Octets} {octet : UInt8}
    (low : octet.toNat < 128)
    (same : characters.flatMap String.utf8EncodeChar = front ++ octet :: back) :
    ∃ first second : List Char, front = first.flatMap String.utf8EncodeChar ∧
      back = second.flatMap String.utf8EncodeChar := by
  induction characters generalizing front with
  | nil => simp at same
  | cons c characters ih =>
    rw [List.flatMap_cons] at same
    rcases List.append_eq_append_iff.mp same with ⟨more, rfl, rest⟩ | ⟨more, whole, rest⟩
    · obtain ⟨first, second, rfl, rfl⟩ := ih rest
      exact ⟨c :: first, second, rfl, rfl⟩
    · cases more with
      | nil =>
        rw [List.append_nil] at whole
        have later : characters.flatMap String.utf8EncodeChar = [] ++ octet :: back := rest.symm
        obtain ⟨first, second, empty, rfl⟩ := ih later
        exact ⟨[c], second, by simp [whole], rfl⟩
      | cons other more =>
        -- the octet is one of this character, which is then no other octet
        obtain ⟨rfl, others⟩ := List.cons.inj rest
        have inside : octet ∈ String.utf8EncodeChar c := by simp [whole]
        rcases Nat.lt_or_ge c.toNat 128 with narrow | wide
        · rw [utf8EncodeChar_of_lt narrow] at whole
          obtain ⟨rfl, rfl⟩ : front = [] ∧ more = [] := by
            have size := congrArg List.length whole
            simp only [List.length_append, List.length_cons, List.length_nil] at size
            exact ⟨List.length_eq_zero_iff.mp (by omega), List.length_eq_zero_iff.mp (by omega)⟩
          exact ⟨[], characters, rfl, others⟩
        · have high := le_of_mem_utf8EncodeChar wide inside
          omega

theorem IsUtf8.split {front back : Octets} {octet : UInt8} (utf8 : IsUtf8 (front ++ octet :: back))
    (low : octet.toNat < 128) : IsUtf8 front ∧ IsUtf8 back := by
  obtain ⟨characters, same⟩ := isUtf8_iff.mp utf8
  obtain ⟨first, second, rfl, rfl⟩ := exists_characters low same.symm
  exact ⟨isUtf8_iff.mpr ⟨first, rfl⟩, isUtf8_iff.mpr ⟨second, rfl⟩⟩

/-! ### Numbers -/

@[simp] theorem length_littleEndian (count value : Nat) :
    (littleEndian count value).length = count := by
  induction count generalizing value with
  | zero => rfl
  | succ count ih => rw [littleEndian, List.length_cons, ih]

/-- The lowest octets of a number stand for its remainder. -/
theorem ofLittleEndian_littleEndian_mod (count value : Nat) :
    ofLittleEndian (littleEndian count value) = value % 256 ^ count := by
  induction count generalizing value with
  | zero => simp [littleEndian, ofLittleEndian, Nat.mod_one]
  | succ count ih =>
    have octet : (UInt8.ofNat (value % 256)).toNat = value % 256 := by
      rw [UInt8.toNat_ofNat']
      exact Nat.mod_eq_of_lt (Nat.mod_lt _ (by decide))
    have rest : (littleEndian count (value / 256)).foldr (fun octet value => octet.toNat + 256 * value) 0
        = value / 256 % 256 ^ count := ih (value / 256)
    rw [littleEndian, ofLittleEndian, List.foldr_cons, rest, octet, Nat.pow_succ', Nat.mod_mul]

/-- **A number is read back from enough octets.** -/
theorem ofLittleEndian_littleEndian {count value : Nat} (fits : value < 256 ^ count) :
    ofLittleEndian (littleEndian count value) = value := by
  rw [ofLittleEndian_littleEndian_mod, Nat.mod_eq_of_lt fits]

end FeatureFlags

/-! ### Lists -/

/-- Elements that can each be read can be read one by one. -/
theorem List.mapM_eq_pure {α β : Type} {m : Type → Type} [Monad m] [LawfulMonad m] {f : α → m β}
    {g : α → β} {items : List α} (each : ∀ item ∈ items, f item = pure (g item)) :
    items.mapM f = pure (items.map g) := by
  induction items with
  | nil => exact List.mapM_nil
  | cons head rest ih =>
    rw [List.mapM_cons, each head List.mem_cons_self,
      ih fun item member => each item (List.mem_cons_of_mem head member), pure_bind, pure_bind,
      List.map_cons]

/-- Elements that each become something readable can be read back one by one. -/
theorem List.mapM_map_eq_pure {α β γ : Type} {m : Type → Type} [Monad m] [LawfulMonad m]
    {read : β → m γ} {write : α → β} {g : α → γ} {items : List α}
    (each : ∀ item ∈ items, read (write item) = pure (g item)) :
    (items.map write).mapM read = pure (items.map g) := by
  rw [List.mapM_map]
  exact List.mapM_eq_pure each

/-- Elements that are each read back are read back one by one. -/
theorem List.mapM_map_eq_self {α β : Type} {m : Type → Type} [Monad m] [LawfulMonad m]
    {read : β → m α} {write : α → β} {items : List α}
    (each : ∀ item ∈ items, read (write item) = pure item) :
    (items.map write).mapM read = pure items := by
  have all := List.mapM_map_eq_pure (g := id) each
  rwa [List.map_id] at all
