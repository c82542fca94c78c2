import FeatureFlags.Text.Base64
import FeatureFlags.Proofs.Text.Octets

/-!
**Base64 is read back, and has one spelling.**

Every group of three octets becomes four characters of the alphabet, and what is left at the end is
filled up with marks that are not in the alphabet. So the reader can tell the groups apart, and it
gets the octets back from the values of the characters. The bits that no octet fills are zero, so
that only one spelling is read.

* `Base64.valueOf?_symbol`: a character of the alphabet has the value that it stands for.
* `Base64.decode?_encode`: octets are read back from their base64 form.
* `Base64.decodeText?_encodeText`, `Base64.encodeText_injective`: so are texts.
* `Base64.decode?_eq_some_iff`, `Base64.decodeText?_eq_some_iff`: nothing else is read.
* `Base64.four_dvd_length_encodeChars`, `Base64.mem_encodeChars`: the shape of a base64 form.
-/

namespace FeatureFlags.Base64

/-! ### The alphabet -/

theorem valueOf?_symbol {value : Nat} (small : value < 64) :
    valueOf? (symbol value) = some value := by
  have all : ∀ value : Fin 64, valueOf? (symbol value) = some value.val := by decide +kernel
  exact all ⟨value, small⟩

/-- The mark that fills up a group is not in the alphabet. -/
theorem symbol_ne_mark {value : Nat} (small : value < 64) : symbol value ≠ '=' := by
  have all : ∀ value : Fin 64, symbol value ≠ '=' := by decide +kernel
  exact all ⟨value, small⟩

/-! ### Groups of characters -/

/-- A group of four characters of the alphabet gives three octets, whatever follows. -/
theorem decodeChars?_group {w x y z : Nat} (isW : w < 64) (isX : x < 64) (isY : y < 64)
    (isZ : z < 64) (rest : List Char) :
    decodeChars? (symbol w :: symbol x :: symbol y :: symbol z :: rest) =
      (decodeChars? rest).map fun tail => UInt8.ofNat (w * 4 + x / 16) ::
        UInt8.ofNat (x % 16 * 16 + y / 4) :: UInt8.ofNat (y % 4 * 64 + z) :: tail := by
  have notMark := symbol_ne_mark isZ
  rw [decodeChars?.eq_4 _ _ _ _ _ (by simp [notMark]) (by simp [notMark])]
  simp only [valueOf?_symbol, isW, isX, isY, isZ, Option.bind_eq_bind, Option.bind_some]
  cases decodeChars? rest <;> rfl

/-- The last group may lack one character, which stands for no octet. -/
theorem decodeChars?_short {w x y : Nat} (isW : w < 64) (isX : x < 64) (isY : y < 64)
    (unused : y % 4 = 0) :
    decodeChars? [symbol w, symbol x, symbol y, '='] =
      some [UInt8.ofNat (w * 4 + x / 16), UInt8.ofNat (x % 16 * 16 + y / 4)] := by
  have notMark := symbol_ne_mark isY
  rw [decodeChars?.eq_3 _ _ _ (by simp [notMark])]
  simp only [valueOf?_symbol, isW, isX, isY, unused, Option.bind_eq_bind, Option.bind_some,
    if_true]

/-- The last group may lack two characters. -/
theorem decodeChars?_shortest {w x : Nat} (isW : w < 64) (isX : x < 64) (unused : x % 16 = 0) :
    decodeChars? [symbol w, symbol x, '=', '='] = some [UInt8.ofNat (w * 4 + x / 16)] := by
  rw [decodeChars?.eq_2]
  simp only [valueOf?_symbol, isW, isX, unused, Option.bind_eq_bind, Option.bind_some, if_true]

/-! ### Octets and texts -/

theorem ofNat_eq {value : Nat} (octet : UInt8) (same : value = octet.toNat) :
    UInt8.ofNat value = octet := by
  rw [same, UInt8.ofNat_toNat]

theorem decodeChars?_encodeChars (octets : Octets) :
    decodeChars? (encodeChars octets) = some octets := by
  -- The induction takes three octets at a time, as the writer does.
  fun_induction encodeChars octets with
  | case1 a b c rest ih =>
    have isA := a.toNat_lt
    have isB := b.toNat_lt
    have isC := c.toNat_lt
    rw [decodeChars?_group (by omega) (by omega) (by omega) (by omega), ih, Option.map_some,
      ofNat_eq a (by omega), ofNat_eq b (by omega),
      ofNat_eq c (by omega)]
  | case2 a b =>
    have isA := a.toNat_lt
    have isB := b.toNat_lt
    rw [decodeChars?_short (by omega) (by omega) (by omega) (by omega),
      ofNat_eq a (by omega), ofNat_eq b (by omega)]
  | case3 a =>
    have isA := a.toNat_lt
    rw [decodeChars?_shortest (by omega) (by omega) (by omega), ofNat_eq a (by omega)]
  | case4 => rfl

/-- **Octets are read back from their base64 form.** -/
@[simp] theorem decode?_encode (octets : Octets) : decode? (encode octets) = some octets := by
  rw [decode?, encode, String.toList_ofList, decodeChars?_encodeChars]

/-- **So are texts.** -/
@[simp] theorem decodeText?_encodeText (text : String) :
    decodeText? (encodeText text) = some text := by
  simp [decodeText?, encodeText]

/-- Texts with the same base64 form are the same. -/
theorem encodeText_injective {first second : String} (same : encodeText first = encodeText second) :
    first = second := by
  have read := decodeText?_encodeText first
  rw [same, decodeText?_encodeText] at read
  exact (Option.some.inj read).symm

/-! ### One spelling -/

/-- The alphabet is among the first 128 characters. -/
theorem toNat_lt_of_valueOf? {c : Char} {value : Nat} (isValue : valueOf? c = some value) :
    c.toNat < 128 := by
  have upTo : ∀ last : Char, c ≤ last → c.toNat ≤ last.toNat := fun _ below => below
  unfold valueOf? at isValue
  split at isValue
  case isTrue range => exact Nat.lt_of_le_of_lt (upTo 'Z' range.2) (by decide)
  split at isValue
  case isTrue range => exact Nat.lt_of_le_of_lt (upTo 'z' range.2) (by decide)
  split at isValue
  case isTrue range => exact Nat.lt_of_le_of_lt (upTo '9' range.2) (by decide)
  split at isValue
  case isTrue same => exact same ▸ (by decide)
  split at isValue
  case isTrue same => exact same ▸ (by decide)
  cases isValue

/-- Only the character that stands for a value has it. -/
theorem symbol_of_valueOf? {c : Char} {value : Nat} (isValue : valueOf? c = some value) :
    value < 64 ∧ symbol value = c := by
  have all : ∀ code : Fin 128, ∀ value ∈ valueOf? (Char.ofNat code.val),
      value < 64 ∧ symbol value = Char.ofNat code.val := by decide +kernel
  have found := all ⟨c.toNat, toNat_lt_of_valueOf? isValue⟩ value
  rw [Char.ofNat_toNat] at found
  exact found isValue

theorem encodeChars_group {w x y z : Nat} (isW : w < 64) (isX : x < 64) (isY : y < 64)
    (isZ : z < 64) (rest : Octets) :
    encodeChars (UInt8.ofNat (w * 4 + x / 16) :: UInt8.ofNat (x % 16 * 16 + y / 4) ::
        UInt8.ofNat (y % 4 * 64 + z) :: rest) =
      symbol w :: symbol x :: symbol y :: symbol z :: encodeChars rest := by
  rw [encodeChars]
  repeat rw [UInt8.toNat_ofNat_of_lt' (by rw [UInt8.size]; omega)]
  have first : (w * 4 + x / 16) / 4 = w := by omega
  have second : (w * 4 + x / 16) % 4 * 16 + (x % 16 * 16 + y / 4) / 16 = x := by omega
  have third : (x % 16 * 16 + y / 4) % 16 * 4 + (y % 4 * 64 + z) / 64 = y := by omega
  have fourth : (y % 4 * 64 + z) % 64 = z := by omega
  rw [first, second, third, fourth]

theorem encodeChars_short {w x y : Nat} (isW : w < 64) (isX : x < 64) (isY : y < 64)
    (unused : y % 4 = 0) :
    encodeChars [UInt8.ofNat (w * 4 + x / 16), UInt8.ofNat (x % 16 * 16 + y / 4)] =
      [symbol w, symbol x, symbol y, '='] := by
  rw [encodeChars]
  repeat rw [UInt8.toNat_ofNat_of_lt' (by rw [UInt8.size]; omega)]
  have first : (w * 4 + x / 16) / 4 = w := by omega
  have second : (w * 4 + x / 16) % 4 * 16 + (x % 16 * 16 + y / 4) / 16 = x := by omega
  have third : (x % 16 * 16 + y / 4) % 16 * 4 = y := by omega
  rw [first, second, third]

theorem encodeChars_shortest {w x : Nat} (isW : w < 64) (isX : x < 64) (unused : x % 16 = 0) :
    encodeChars [UInt8.ofNat (w * 4 + x / 16)] = [symbol w, symbol x, '=', '='] := by
  rw [encodeChars]
  repeat rw [UInt8.toNat_ofNat_of_lt' (by rw [UInt8.size]; omega)]
  have first : (w * 4 + x / 16) / 4 = w := by omega
  have second : (w * 4 + x / 16) % 4 * 16 = x := by omega
  rw [first, second]

/-- **Characters are read only if they are what would be written.** -/
theorem eq_encodeChars_of_decodeChars? {characters : List Char} {octets : Octets}
    (isDecoded : decodeChars? characters = some octets) : characters = encodeChars octets := by
  -- The induction follows the reader; each of its groups is one that the writer makes.
  fun_induction decodeChars? characters generalizing octets with
  | case1 =>
    cases isDecoded
    rfl
  | case2 w x =>
    simp only [Option.bind_eq_bind, Option.bind_eq_some_iff, Option.ite_none_right_eq_some]
      at isDecoded
    obtain ⟨w, isW, x, isX, unused, same⟩ := isDecoded
    cases same
    obtain ⟨smallW, rfl⟩ := symbol_of_valueOf? isW
    obtain ⟨smallX, rfl⟩ := symbol_of_valueOf? isX
    exact (encodeChars_shortest smallW smallX unused).symm
  | case3 w x y =>
    simp only [Option.bind_eq_bind, Option.bind_eq_some_iff, Option.ite_none_right_eq_some]
      at isDecoded
    obtain ⟨w, isW, x, isX, y, isY, unused, same⟩ := isDecoded
    cases same
    obtain ⟨smallW, rfl⟩ := symbol_of_valueOf? isW
    obtain ⟨smallX, rfl⟩ := symbol_of_valueOf? isX
    obtain ⟨smallY, rfl⟩ := symbol_of_valueOf? isY
    exact (encodeChars_short smallW smallX smallY unused).symm
  | case4 w x y z rest _ _ ih =>
    simp only [Option.bind_eq_bind, Option.bind_eq_some_iff] at isDecoded
    obtain ⟨w, isW, x, isX, y, isY, z, isZ, tail, isTail, same⟩ := isDecoded
    cases same
    obtain ⟨smallW, rfl⟩ := symbol_of_valueOf? isW
    obtain ⟨smallX, rfl⟩ := symbol_of_valueOf? isX
    obtain ⟨smallY, rfl⟩ := symbol_of_valueOf? isY
    obtain ⟨smallZ, rfl⟩ := symbol_of_valueOf? isZ
    rw [encodeChars_group smallW smallX smallY smallZ, ih isTail]
  | case5 => cases isDecoded

theorem decodeChars?_eq_some_iff {characters : List Char} {octets : Octets} :
    decodeChars? characters = some octets ↔ characters = encodeChars octets := by
  constructor
  · exact eq_encodeChars_of_decodeChars?
  · rintro rfl
    exact decodeChars?_encodeChars octets

/-- **Octets are read from their base64 form, and from nothing else.** -/
theorem decode?_eq_some_iff {encoded : String} {octets : Octets} :
    decode? encoded = some octets ↔ encoded = encode octets := by
  rw [decode?, decodeChars?_eq_some_iff, encode, ← String.toList_inj, String.toList_ofList]

/-- **So are texts.** -/
theorem decodeText?_eq_some_iff {encoded text : String} :
    decodeText? encoded = some text ↔ encoded = encodeText text := by
  simp only [decodeText?, Option.bind_eq_bind, Option.bind_eq_some_iff, decode?_eq_some_iff,
    text?_eq_some_iff, exists_eq_right, encodeText]

/-- The base64 form of octets that are no UTF-8 is not the form of a text. -/
theorem decodeText?_encode (octets : Octets) : decodeText? (encode octets) = octets.text? := by
  rw [decodeText?, decode?_encode]
  rfl

/-! ### The shape of the spelling -/

/-- A base64 form comes in groups of four characters. -/
theorem four_dvd_length_encodeChars (octets : Octets) : 4 ∣ (encodeChars octets).length := by
  fun_induction encodeChars octets with
  | case1 a b c rest ih =>
    rw [List.length_cons, List.length_cons, List.length_cons, List.length_cons]
    omega
  | case2 a b => exact Nat.dvd_refl 4
  | case3 a => exact Nat.dvd_refl 4
  | case4 => exact Nat.dvd_zero 4

/-- A base64 form has characters of the alphabet and marks that fill up, and no others. -/
theorem mem_encodeChars {octets : Octets} {c : Char} (inside : c ∈ encodeChars octets) :
    (valueOf? c).isSome ∨ c = '=' := by
  have symbols : ∀ {value : Nat}, value < 64 → c = symbol value →
      (valueOf? c).isSome ∨ c = '=' := fun small same => .inl (by
    rw [same, valueOf?_symbol small]
    rfl)
  fun_induction encodeChars octets with
  | case1 x y z rest ih =>
    have isX := x.toNat_lt
    have isY := y.toNat_lt
    have isZ := z.toNat_lt
    simp only [List.mem_cons] at inside
    obtain isW | isX | isY | isZ | later := inside
    · exact symbols (by omega) isW
    · exact symbols (by omega) isX
    · exact symbols (by omega) isY
    · exact symbols (Nat.mod_lt _ (by decide)) isZ
    · exact ih later
  | case2 x y =>
    have isX := x.toNat_lt
    have isY := y.toNat_lt
    simp only [List.mem_cons, List.not_mem_nil, or_false] at inside
    obtain isW | isX | isY | isMark := inside
    · exact symbols (by omega) isW
    · exact symbols (by omega) isX
    · exact symbols (by omega) isY
    · exact .inr isMark
  | case3 x =>
    have isX := x.toNat_lt
    simp only [List.mem_cons, List.not_mem_nil, or_false] at inside
    obtain isW | isX | isMark | isMark := inside
    · exact symbols (by omega) isW
    · exact symbols (by omega) isX
    · exact .inr isMark
    · exact .inr isMark
  | case4 => cases inside

end FeatureFlags.Base64
