import FeatureFlags.Json.Value
import FeatureFlags.Proofs.Text.Octets

/-!
**A text in quotes is read back.**

Between the quotes of a string stand octets for themselves and escapes, and a reader that looks for
the closing quote takes exactly that. Of a text some characters are escaped; no escaped character has
a quote or a lone backslash in it, and the escapes resolve to the characters that they were written
for.

* `Document.IsStringBody`: what may stand between two quotes.
* `Document.takeString_of_body`, `Document.body_of_takeString`: a reader takes that and nothing else.
* `escaped`: what stands between the quotes of a text, and `Document.body_escaped`.
* `Document.stringText?_escaped`: it stands for the text.
-/

namespace FeatureFlags

/-- What stands between the quotes of a text. -/
def escaped (text : String) : Octets :=
  octetsOf (String.ofList (text.toList.flatMap Json.escapeChar))

theorem octetsOf_quote (text : String) :
    octetsOf (Json.quote text) = 34 :: (escaped text ++ [34]) := by
  have quoteMark : String.utf8EncodeChar '"' = [34] := by decide
  rw [Json.quote, escaped, octetsOf_ofList, octetsOf_ofList]
  simp [quoteMark]

namespace Document

/-! ### Where a string ends -/

/-- What may stand between two quotes: octets that stand for themselves, and escapes. -/
inductive IsStringBody : Octets → Prop
  | nil : IsStringBody []
  | plain {octet : UInt8} {rest : Octets} (printed : 32 ≤ octet.toNat) (unquoted : octet ≠ 34)
      (unescaped : octet ≠ 92) (body : IsStringBody rest) : IsStringBody (octet :: rest)
  | short {kind : UInt8} {rest : Octets} (known : shortEscapes.contains kind)
      (body : IsStringBody rest) : IsStringBody (92 :: kind :: rest)
  | hex {a b c d : UInt8} {rest : Octets} (digits : [a, b, c, d].all isHexDigit)
      (body : IsStringBody rest) : IsStringBody (92 :: 117 :: a :: b :: c :: d :: rest)

/-- **A reader takes a string that is spelled.** -/
theorem takeString_of_body {raw : Octets} (body : IsStringBody raw) (rest : Octets) :
    takeString (raw ++ 34 :: rest) = some (raw, rest) := by
  induction body with
  | nil =>
    rw [List.nil_append, takeString.eq_def]
    simp
  | @plain octet raw printed unquoted unescaped _ ih =>
    have above : ¬octet < 32 := by
      rw [UInt8.lt_iff_toNat_lt]
      exact Nat.not_lt.mpr printed
    rw [List.cons_append, takeString.eq_def]
    simp [above, unquoted, unescaped, ih]
  | @short kind raw known _ ih =>
    have listed : kind ∈ shortEscapes := by simpa using known
    rw [List.cons_append, List.cons_append, takeString.eq_def]
    simp [listed, ih]
  | @hex a b c d raw digits _ ih =>
    have long : 117 ∉ shortEscapes := by decide
    simp only [List.cons_append]
    rw [takeString.eq_def]
    simp [long, digits, ih]

/-- **Whatever a reader takes as a string is spelled.** -/
theorem body_of_takeString {input raw rest : Octets}
    (taken : takeString input = some (raw, rest)) :
    IsStringBody raw ∧ input = raw ++ 34 :: rest := by
  fun_induction takeString input generalizing raw with
  | case2 after =>
    cases taken
    exact ⟨.nil, rfl⟩
  | case4 kind after known _ ih =>
    obtain ⟨⟨inner, _⟩, isTaken, same⟩ := Option.map_eq_some_iff.mp taken
    cases same
    obtain ⟨body, rfl⟩ := ih isTaken
    exact ⟨.short known body, rfl⟩
  | case5 a b c d after digits _ long ih =>
    obtain ⟨⟨inner, _⟩, isTaken, same⟩ := Option.map_eq_some_iff.mp taken
    cases same
    obtain ⟨body, rfl⟩ := ih isTaken
    exact ⟨.hex digits body, rfl⟩
  | case10 octet after unquoted unescaped printed ih =>
    obtain ⟨⟨inner, _⟩, isTaken, same⟩ := Option.map_eq_some_iff.mp taken
    cases same
    obtain ⟨body, rfl⟩ := ih isTaken
    refine ⟨.plain ?_ unquoted unescaped body, rfl⟩
    rw [UInt8.lt_iff_toNat_lt] at printed
    exact Nat.not_lt.mp printed
  | _ => cases taken

theorem IsStringBody.append {first second : Octets} (before : IsStringBody first)
    (after : IsStringBody second) : IsStringBody (first ++ second) := by
  induction before with
  | nil => exact after
  | plain printed unquoted unescaped _ ih => exact .plain printed unquoted unescaped ih
  | short known _ ih => exact .short known ih
  | hex digits _ ih => exact .hex digits ih

/-! ### The strings of texts -/

theorem body_of_forall {octets : Octets} (each : ∀ octet ∈ octets, IsStringBody [octet]) :
    IsStringBody octets := by
  induction octets with
  | nil => exact .nil
  | cons octet rest ih =>
    obtain ⟨first, others⟩ := List.forall_mem_cons.mp each
    exact first.append (ih others)

/-- The four digits after the escape of a control character. -/
theorem isHexDigit_control {n : Nat} (control : n < 32) :
    [48, 48, UInt8.ofNat (Nat.digitChar (n / 16)).toNat,
      UInt8.ofNat (Nat.digitChar (n % 16)).toNat].all isHexDigit := by
  revert n
  decide

theorem digitChar_lt {n : Nat} (digit : n < 16) : (Nat.digitChar n).toNat < 128 := by
  revert n
  decide

theorem body_escapeChar (c : Char) :
    IsStringBody ((Json.escapeChar c).flatMap String.utf8EncodeChar) := by
  unfold Json.escapeChar
  split
  case h_8 unquoted unescaped _ _ _ _ _ =>
    split
    · rename_i control
      have first : (Nat.digitChar (c.toNat / 16)).toNat < 128 := digitChar_lt (by omega)
      have second : (Nat.digitChar (c.toNat % 16)).toNat < 128 := digitChar_lt (by omega)
      have start : ['\\', 'u', '0', '0'].flatMap String.utf8EncodeChar = [92, 117, 48, 48] := by
        decide
      have whole : (['\\', 'u', '0', '0'] ++
          [Nat.digitChar (c.toNat / 16), Nat.digitChar (c.toNat % 16)]).flatMap
            String.utf8EncodeChar =
          [92, 117, 48, 48, UInt8.ofNat (Nat.digitChar (c.toNat / 16)).toNat,
            UInt8.ofNat (Nat.digitChar (c.toNat % 16)).toNat] := by
        rw [List.flatMap_append, start]
        simp [utf8EncodeChar_of_lt first, utf8EncodeChar_of_lt second]
      exact whole ▸ .hex (isHexDigit_control control) .nil
    · rename_i printed
      rw [List.flatMap_singleton]
      rcases Nat.lt_or_ge c.toNat 128 with narrow | wide
      · rw [utf8EncodeChar_of_lt narrow]
        have value : (UInt8.ofNat c.toNat).toNat = c.toNat :=
          UInt8.toNat_ofNat_of_lt (Nat.lt_trans narrow (by decide))
        refine .plain (by omega) (fun same => ?_) (fun same => ?_) .nil
        · exact unquoted (Char.toNat_inj.mp (value.symm.trans (congrArg UInt8.toNat same)))
        · exact unescaped (Char.toNat_inj.mp (value.symm.trans (congrArg UInt8.toNat same)))
      · refine body_of_forall fun octet member => ?_
        have large := le_of_mem_utf8EncodeChar wide member
        refine .plain (by omega) ?_ ?_ .nil <;> rintro rfl <;> simp at large
  all_goals exact .short (by decide) .nil

/-- **What stands between the quotes of a text may stand there.** -/
theorem body_escaped (text : String) : IsStringBody (escaped text) := by
  rw [escaped, octetsOf_ofList, List.flatMap_assoc]
  induction text.toList with
  | nil => exact .nil
  | cons c characters ih => exact (body_escapeChar c).append ih

/-! ### What a string stands for -/

/-- The number that the four digits after the escape of a control character spell. -/
theorem hexValue_control {n : Nat} (control : n < 32) :
    hexValue '0' '0' (Nat.digitChar (n / 16)) (Nat.digitChar (n % 16)) = n := by
  revert n
  decide

theorem unescape?_short {kind c : Char} (short : shortEscape? kind = some c) (rest : List Char) :
    unescape? ('\\' :: kind :: rest) = (unescape? rest).map (c :: ·) := by
  rw [unescape?, short]
  · cases unescape? rest <;> rfl
  · rintro _ _ _ _ _ rfl
    cases short

theorem unescape?_escapeChar (c : Char) (rest : List Char) :
    unescape? (Json.escapeChar c ++ rest) = (unescape? rest).map (c :: ·) := by
  unfold Json.escapeChar
  split
  case h_8 unquoted unescaped _ _ _ _ _ =>
    split
    · rename_i control
      simp only [List.cons_append, List.nil_append]
      rw [unescape?.eq_def]
      have high : ¬56320 ≤ c.toNat := by omega
      have low : ¬55296 ≤ c.toNat := by omega
      simp [hexValue_control control, high, low]
    · rw [List.singleton_append, unescape?]
      · exact fun _ _ _ _ _ backslash => absurd backslash unescaped
      · exact fun _ _ backslash => absurd backslash unescaped
  all_goals exact unescape?_short rfl rest

/-- **What stands between the quotes of a text stands for the text.** -/
theorem stringText?_escaped (text : String) : stringText? (escaped text) = some text := by
  have resolved (characters : List Char) :
      unescape? (characters.flatMap Json.escapeChar) = some characters := by
    induction characters with
    | nil => rfl
    | cons c characters ih =>
      rw [List.flatMap_cons, unescape?_escapeChar, ih]
      rfl
  simp [stringText?, escaped, resolved]

end Document

end FeatureFlags
