import FeatureFlags.Proofs.Precomputed.Fields
import FeatureFlags.Proofs.Precomputed.Obfuscation

/-!
**Extra logging decodes entry by entry, and no entry is lost to another.**

A hidden text has one spelling, so two entries of a written map whose keys decode never decode to
one key. The decoded map has therefore an entry for each entry of the written map that decodes, in
whatever order the written map is walked.

* `Codec.get?_decodeExtraLogging_obfuscated`: the entries of the decoded map.
* `Codec.size_decodeExtraLogging`: how many there are.
* `Codec.ofList_decoded_of_perm`: another walk over the written map gives the same.
* `extra_logging_never_collides`: all of this, with what base64 forms there are.
-/

namespace FeatureFlags

namespace Codec

variable {salt : Octets} {written : Dict String}

/-- **The decoded map has what stands in base64 in the written map.** -/
theorem get?_decodeExtraLogging_obfuscated {name value : String} :
    ((obfuscated salt).decodeExtraLogging written).get? name = some value ↔
      written.get? (Base64.encodeText name) = some (Base64.encodeText value) := by
  have isKey : (obfuscated salt).decodeText? (Base64.encodeText name) = some name :=
    decodeText?_encodeText salt name
  rw [get?_decodeExtraLogging isKey, Option.bind_eq_some_iff]
  simp only [decodeText?, Base64.decodeText?_eq_some_iff, exists_eq_right]

/-- An entry decodes if its key and its value do. -/
theorem isSome_decodePair? (codec : Codec) (entry : String × String) :
    (codec.decodePair? entry).isSome =
      ((codec.decodeText? entry.1).isSome && (codec.decodeText? entry.2).isSome) := by
  rw [decodePair?]
  cases codec.decodeText? entry.1 with
  | none => rfl
  | some key => cases codec.decodeText? entry.2 <;> rfl

/-- **The decoded map has one entry for each entry that decodes.** -/
theorem size_decodeExtraLogging (codec : Codec) (written : Dict String) :
    (codec.decodeExtraLogging written).size =
      written.entries.countP fun entry =>
        (codec.decodeText? entry.1).isSome && (codec.decodeText? entry.2).isSome := by
  have listed := Dict.entries_ofList_perm (nodup_decoded_keys codec written)
  calc (codec.decodeExtraLogging written).size
      = (written.entries.filterMap codec.decodePair?).length := listed.length_eq
    _ = written.entries.countP fun entry => (codec.decodePair? entry).isSome :=
        List.length_filterMap_eq_countP
    _ = _ := by simp only [isSome_decodePair?]

/-- Entries of a map whose keys decode alike are the same entry. -/
theorem entry_of_decodeText? {codec : Codec} {first second : String × String} {name : String}
    (isFirst : first ∈ written.entries) (isSecond : second ∈ written.entries)
    (decoded : codec.decodeText? first.1 = some name)
    (again : codec.decodeText? second.1 = some name) : first = second :=
  List.inj_on_of_nodup_map written.keys_nodup isFirst isSecond (decodeText?_inj decoded again)

/-- **A walk over the written map in another order decodes to the same map.** -/
theorem ofList_decoded_of_perm (codec : Codec) {visited : List (String × String)}
    (walk : visited.Perm written.entries) :
    Dict.ofList (visited.filterMap codec.decodePair?) = codec.decodeExtraLogging written := by
  have listed := Dict.entries_ofList_perm (nodup_decoded_keys codec written)
  exact Dict.ofList_eq_of_perm ((walk.filterMap codec.decodePair?).trans listed.symm)

end Codec

/-- **A text in base64 has one spelling, so extra logging never collides.** A text is read from its
base64 form and from nothing else: a form that has other octets than UTF-8 gives nothing, and one
that is read has whole groups of characters of the alphabet. The map that a hidden map decodes to has
exactly what stands there in base64, as many entries as decode, none in the place of another, and
the same for every walk over the hidden map. A plain map stays as it is. -/
theorem extra_logging_never_collides :
    (∀ encoded text : String,
      Base64.decodeText? encoded = some text ↔ encoded = Base64.encodeText text) ∧
    (∀ octets : Octets, Base64.decodeText? (Base64.encode octets) = octets.text?) ∧
    (∀ encoded text : String, Base64.decodeText? encoded = some text →
      4 ∣ encoded.toList.length ∧
        ∀ c ∈ encoded.toList, (Base64.valueOf? c).isSome ∨ c = '=') ∧
    (∀ (salt : Octets) (written : Dict String),
      (∀ name value : String,
        ((Codec.obfuscated salt).decodeExtraLogging written).get? name = some value ↔
          written.get? (Base64.encodeText name) = some (Base64.encodeText value)) ∧
      ((Codec.obfuscated salt).decodeExtraLogging written).size =
        written.entries.countP (fun entry =>
          (Base64.decodeText? entry.1).isSome && (Base64.decodeText? entry.2).isSome) ∧
      (∀ first ∈ written.entries, ∀ second ∈ written.entries, ∀ name : String,
        Base64.decodeText? first.1 = some name → Base64.decodeText? second.1 = some name →
          first = second) ∧
      ∀ visited : List (String × String), visited.Perm written.entries →
        Dict.ofList (visited.filterMap (Codec.obfuscated salt).decodePair?) =
          (Codec.obfuscated salt).decodeExtraLogging written) ∧
    ∀ written : Dict String, Codec.plain.decodeExtraLogging written = written := by
  refine ⟨fun _ _ => Base64.decodeText?_eq_some_iff, Base64.decodeText?_encode, ?_,
    fun salt written => ⟨fun _ _ => Codec.get?_decodeExtraLogging_obfuscated,
      Codec.size_decodeExtraLogging _ written, ?_,
      fun _ walk => Codec.ofList_decoded_of_perm _ walk⟩,
    Codec.decodeExtraLogging_plain⟩
  · intro encoded text isText
    rw [Base64.decodeText?_eq_some_iff] at isText
    rw [isText, Base64.encodeText, Base64.encode, String.toList_ofList]
    exact ⟨Base64.four_dvd_length_encodeChars _, fun _ inside => Base64.mem_encodeChars inside⟩
  · intro first isFirst second isSecond name decoded again
    have isName : (Codec.obfuscated salt).decodeText? first.1 = some name := decoded
    exact Codec.entry_of_decodeText? isFirst isSecond isName again

/-- Padding that is missing, bits that stand for nothing, a blank and octets that are no UTF-8 are
all rejected. -/
example : ["aGk=", "aGk", "aGl=", "aGk= ", "/w=="].map Base64.decodeText? =
    [some "hi", none, none, none, none] := by decide +kernel

/-- A hidden map with an entry that decodes, one with a key and one with a value that do not. -/
def Dict.damagedTexts : Dict String :=
  Dict.ofList [("aG9sZG91dEtleQ==", "YWN0aXZlSG9sZG91dA=="), ("%%%", "YWN0aXZlSG9sZG91dA=="),
    ("aG9sZG91dFZhcmlhdGlvbg==", "%%%")]

theorem extra_logging_never_collides_damaged :
    Base64.decodeText? "aG9sZG91dEtleQ==" = some "holdoutKey" ∧
    ((Codec.obfuscated []).decodeExtraLogging Dict.damagedTexts).size = 1 ∧
    ((Codec.obfuscated []).decodeExtraLogging Dict.damagedTexts).get? "holdoutKey" =
      some "activeHoldout" ∧
    Dict.ofList (Dict.damagedTexts.entries.reverse.filterMap (Codec.obfuscated []).decodePair?) =
      (Codec.obfuscated []).decodeExtraLogging Dict.damagedTexts := by
  obtain ⟨spelled, -, -, maps, -⟩ := extra_logging_never_collides
  obtain ⟨entries, size, -, walks⟩ := maps [] Dict.damagedTexts
  refine ⟨(spelled _ _).mpr (by decide +kernel), size.trans (by decide +kernel),
    (entries _ _).mpr (by decide +kernel), walks _ (List.reverse_perm _)⟩

end FeatureFlags
