import FeatureFlags.Proofs.Catalog.Agreement
import FeatureFlags.Proofs.Precomputed.Restoring

/-!
**What is restored from disk serves what was served before.**

The form on disk keeps the octets of a catalog as they came, in base64, next to the name of their
format. So the same catalog is taken apart again, and since a lookup gives what the catalog gives,
it does not matter what a decoder had kept before, nor when the new one decodes flags. Decoded
assignments are written and read one container deeper than alone.

* `Configuration.ofOctets_toOctets`: what the form on disk restores.
* `Configuration.restored_flags_assign_the_same`: a catalog of flags.
* `Configuration.restored_precomputed_iff`: decoded assignments, and `restored_precomputed_differs`
  what is lost of them.
-/

namespace FeatureFlags

open Document

/-! ### Catalogs -/

@[simp] theorem WireFormat.ofName?_name (format : WireFormat) :
    ofName? format.name = some format := by
  cases format <;> rfl

/-- A catalog keeps its format and the octets it was taken from. -/
theorem Catalog.source_of_ofOctets {format : WireFormat} {octets : Octets} {catalog : Catalog}
    (found : ofOctets format octets = .ok catalog) :
    catalog.format = format ∧ catalog.octets = octets := by
  cases format with
  | json =>
    rw [ofOctets, ofJson] at found
    split at found
    · rename_i made isMade
      cases found
      obtain ⟨document, _, isMade⟩ := Option.bind_eq_some_iff.mp isMade
      obtain ⟨record, _, isMade⟩ := Option.bind_eq_some_iff.mp isMade
      obtain ⟨createdAt, _, isMade⟩ := Option.bind_eq_some_iff.mp isMade
      obtain ⟨environment, _, isMade⟩ := Option.bind_eq_some_iff.mp isMade
      obtain ⟨flags, _, isMade⟩ := Option.bind_eq_some_iff.mp isMade
      cases isMade
      exact ⟨rfl, rfl⟩
    · cases found
  | protobuf =>
    rw [ofOctets, ofProtobuf] at found
    split at found
    · cases found
    · obtain ⟨createdAt, _, made⟩ := Except.bind_eq_ok found
      cases made
      exact ⟨rfl, rfl⟩
  | flatbuffer =>
    rw [ofOctets, ofFlatbuffer] at found
    split at found
    · obtain ⟨createdAt, _, found⟩ := Except.bind_eq_ok found
      obtain ⟨environment, _, found⟩ := Except.bind_eq_ok found
      obtain ⟨index, _, found⟩ := Except.bind_eq_ok found
      cases found
      exact ⟨rfl, rfl⟩
    · cases found

/-- A catalog is what the octets hold that it keeps. -/
def Catalog.IsSound (catalog : Catalog) : Prop :=
  ofOctets catalog.format catalog.octets = .ok catalog

theorem Catalog.isSound_of_ofOctets {format : WireFormat} {octets : Octets} {catalog : Catalog}
    (found : ofOctets format octets = .ok catalog) : catalog.IsSound := by
  obtain ⟨rfl, rfl⟩ := source_of_ofOctets found
  exact found

/-- A decoder is made from the catalog that octets hold. -/
theorem Decoder.exists_catalog_of_ofOctets {format : WireFormat} {octets : Octets}
    {materialization : Materialization} {made : Decoder × List Notice}
    (accepted : ofOctets format octets materialization = .ok made) :
    ∃ catalog, Catalog.ofOctets format octets = .ok catalog ∧
      ofCatalog catalog materialization = made := by
  unfold ofOctets at accepted
  cases found : Catalog.ofOctets format octets with
  | error cause =>
    rw [found] at accepted
    cases accepted
  | ok catalog =>
    rw [found] at accepted
    cases accepted
    exact ⟨catalog, rfl, rfl⟩

namespace Configuration

theorem readFlags?_document (level : Nat) (inside : level < nestingLimit) (decoder : Decoder) :
    readFlags? level (flagsJson decoder).document =
      some (decoder.catalog.format, decoder.catalog.octets) := by
  rw [readFlags?, flagsJson, readRecord?_document inside (by simp) (by simp)]
  simp [Record.require, List.lookup_cons, readBase64?_document]

/-- What a reader finds in the document of a configuration. -/
theorem readParts?_document {configuration : Configuration}
    (valid : configuration.fetchedAt.IsValid) :
    readParts? configuration.toJson.document =
      (configuration.precomputed.mapM fun precomputed : Precomputed =>
          Precomputed.read? 1 precomputed.toJson.document).map fun precomputed =>
        (configuration.fetchedAt, configuration.flags.map fun decoder : Decoder =>
          (decoder.catalog.format, decoder.catalog.octets), precomputed) := by
  obtain ⟨fetchedAt, flags, precomputed⟩ := configuration
  have fetched := read?_instant valid
  have inside : 0 < nestingLimit := by decide
  have flags_read (decoder : Decoder) : (flagsJson decoder).document.readNullable? (readFlags? 1) =
      some (some (decoder.catalog.format, decoder.catalog.octets)) := by
    rw [flagsJson, readNullable?_object, ← flagsJson, readFlags?_document 1 (by decide)]
    rfl
  have precomputed_read (precomputed : Precomputed) :
      precomputed.toJson.document.readNullable? (Precomputed.read? 1) =
        (Precomputed.read? 1 precomputed.toJson.document).map some :=
    readNullable?_object _ _
  rw [readParts?, toJson]
  cases flags with
  | none =>
    cases precomputed with
    | none =>
      rw [readRecord?_document inside (by simp) (by simp)]
      simp [Record.require, Record.nullable, Record.optional, List.lookup_cons, fetched]
    | some precomputed =>
      rw [readRecord?_document inside (by simp) (by simp)]
      simp [Record.require, Record.nullable, Record.optional, List.lookup_cons, fetched,
        precomputed_read]
      cases Precomputed.read? 1 precomputed.toJson.document <;> rfl
  | some decoder =>
    cases precomputed with
    | none =>
      rw [readRecord?_document inside (by simp) (by simp)]
      simp [Record.require, Record.nullable, Record.optional, List.lookup_cons, fetched, flags_read]
    | some precomputed =>
      rw [readRecord?_document inside (by simp) (by simp)]
      simp [Record.require, Record.nullable, Record.optional, List.lookup_cons, fetched, flags_read,
        precomputed_read]
      cases Precomputed.read? 1 precomputed.toJson.document <;> rfl

/-- What the form on disk restores, once the assignments in it are read. -/
def restored (configuration : Configuration) (precomputed : Option Precomputed)
    (materialization : Materialization) : Configuration × List Notice :=
  match configuration.flags with
  | none => (⟨configuration.fetchedAt, none, precomputed⟩, [])
  | some decoder =>
    let (decoder, notices) := Decoder.ofCatalog decoder.catalog materialization
    (⟨configuration.fetchedAt, some decoder, precomputed⟩, notices)

theorem precomputed_restored (configuration : Configuration) (precomputed : Option Precomputed)
    (materialization : Materialization) :
    (configuration.restored precomputed materialization).1.precomputed = precomputed := by
  unfold restored
  split <;> rfl

/-- **The form on disk restores the catalog**, and the assignments if they are read. -/
theorem ofOctets_toOctets {configuration : Configuration}
    (valid : configuration.fetchedAt.IsValid)
    (sound : ∀ decoder ∈ configuration.flags, decoder.catalog.IsSound)
    (materialization : Materialization) :
    ofOctets configuration.toOctets materialization =
      match configuration.precomputed.mapM fun precomputed : Precomputed =>
          Precomputed.read? 1 precomputed.toJson.document with
      | none => .error .invalidJson
      | some precomputed => .ok (configuration.restored precomputed materialization) := by
  rw [ofOctets, toOctets, read?_toOctets, Option.bind_some, readParts?_document valid]
  cases configuration.precomputed.mapM fun precomputed : Precomputed =>
      Precomputed.read? 1 precomputed.toJson.document with
  | none => rfl
  | some precomputed =>
    obtain ⟨fetchedAt, flags, written⟩ := configuration
    cases flags with
    | none => rfl
    | some decoder =>
      have isCatalog := sound decoder rfl
      unfold Catalog.IsSound at isCatalog
      simp only [Option.map_some, Decoder.ofOctets, isCatalog]
      rfl

/-! ### Flags -/

/-- **A catalog of flags is restored as it was fetched, and assigns the same.** It does not matter
what was looked up before it was written, nor what is looked up once it is restored. -/
theorem restored_flags_assign_the_same {format : WireFormat} {octets : Octets}
    {first : Materialization} {made : Decoder × List Notice}
    (accepted : Decoder.ofOctets format octets first = .ok made) (asked : List String)
    {fetchedAt : Instant} (valid : fetchedAt.IsValid) (materialization : Materialization) :
    ∃ decoder notices,
      ofOctets (ofFlags (made.1.findAll asked).2.1 fetchedAt).toOctets materialization =
        .ok (ofFlags decoder fetchedAt, notices) ∧
      decoder.catalog.format = format ∧ decoder.catalog.octets = octets ∧
      ∀ (later : List String) (query : Query) (subject : Subject),
        assign (some (ofFlags (decoder.findAll later).2.1 fetchedAt)) query subject =
          assign (some (ofFlags (made.1.findAll asked).2.1 fetchedAt)) query subject := by
  obtain ⟨catalog, isCatalog, rfl⟩ := Decoder.exists_catalog_of_ofOctets accepted
  obtain ⟨sameFormat, sameOctets⟩ := Catalog.source_of_ofOctets isCatalog
  have kept : ((Decoder.ofCatalog catalog first).1.findAll asked).2.1.catalog = catalog :=
    ((Decoder.Tallied.ofCatalog catalog first).findAll asked).1.source
  have source : (Decoder.ofCatalog catalog materialization).1.catalog = catalog :=
    (Decoder.Tallied.ofCatalog catalog materialization).source
  refine ⟨(Decoder.ofCatalog catalog materialization).1,
    (Decoder.ofCatalog catalog materialization).2, ?_, ?_, ?_, ?_⟩
  · rw [ofOctets_toOctets valid]
    · show Except.ok (restored _ _ _) = _
      rw [restored, ofFlags]
      simp only [kept]
      rfl
    · rintro _ ⟨⟩
      rw [kept]
      exact Catalog.isSound_of_ofOctets isCatalog
  · rw [source, sameFormat]
  · rw [source, sameOctets]
  · intro later query subject
    refine assign_of_answer ?_ fetchedAt fetchedAt subject
    rw [Decoder.answer?_findAll, Decoder.answer?_findAll]

/-- A document with a flag and with what is no flag. -/
def mixedDocument : Octets :=
  (Json.object [("flags", .object [("banner", Flag.banner.toJson), ("broken", .null)])]).toOctets

theorem restored_flags_assign_the_same_mixed :
    ∃ made, Decoder.ofOctets .json mixedDocument .lazy = .ok made ∧
      (⟨1700000000, 500000000⟩ : Instant).IsValid ∧
      ∃ decoder notices,
        ofOctets (ofFlags (made.1.findAll ["broken"]).2.1 ⟨1700000000, 500000000⟩).toOctets
          .prewarmed = .ok (ofFlags decoder ⟨1700000000, 500000000⟩, notices) ∧
        ((assign (some (ofFlags (decoder.findAll []).2.1 ⟨1700000000, 500000000⟩))
          (.of "banner" ⟨1700000001, 0⟩) .visitor).map fun found => found.map Assignment.value) =
            .ok (some (.string "yes")) ∧
        assign (some (ofFlags (decoder.findAll []).2.1 ⟨1700000000, 500000000⟩))
          (.of "broken" ⟨1700000001, 0⟩) .visitor = .error .undecodableFlag := by
  have evaluated : ∃ made, Decoder.ofOctets .json mixedDocument .lazy = .ok made ∧
      ((assign (some (ofFlags (made.1.findAll ["broken"]).2.1 ⟨1700000000, 500000000⟩))
        (.of "banner" ⟨1700000001, 0⟩) .visitor).map fun found => found.map Assignment.value) =
          .ok (some (.string "yes")) ∧
      assign (some (ofFlags (made.1.findAll ["broken"]).2.1 ⟨1700000000, 500000000⟩))
        (.of "broken" ⟨1700000001, 0⟩) .visitor = .error .undecodableFlag := by
    decide +kernel
  obtain ⟨made, accepted, banner, broken⟩ := evaluated
  have valid : (⟨1700000000, 500000000⟩ : Instant).IsValid :=
    ⟨by decide, by decide, by decide, by decide⟩
  obtain ⟨decoder, notices, isRestored, _, _, same⟩ :=
    restored_flags_assign_the_same accepted ["broken"] valid .prewarmed
  refine ⟨made, accepted, valid, decoder, notices, isRestored, ?_, ?_⟩
  · rw [same, banner]
  · rw [same, broken]

/-! ### Assignments that were made elsewhere -/

/-- An assignment that was made elsewhere depends on the decoded assignments alone. -/
theorem assignPrecomputed_of_precomputed {first second : Configuration}
    (same : first.precomputed = second.precomputed) (query : Query) :
    assignPrecomputed (some first) query = assignPrecomputed (some second) query := by
  unfold assignPrecomputed evaluatePrecomputed
  rw [Option.bind_some, Option.bind_some, same]

/-- **Decoded assignments are restored exactly if each double and each document in them is kept**,
alone, and one container deeper in a configuration. Then all assignments are the same. -/
theorem restored_precomputed_iff {octets : Octets} {response : PrecomputedResponse}
    (isResponse : PrecomputedResponse.ofOctets? octets = some response) (subject : Subject)
    {fetchedAt : Instant} (valid : fetchedAt.IsValid) {precomputed : Precomputed}
    (decoded : response.decode subject fetchedAt = precomputed) (configuration : Configuration)
    (holds : configuration.precomputed = some precomputed)
    (timely : configuration.fetchedAt.IsValid)
    (sound : ∀ decoder ∈ configuration.flags, decoder.catalog.IsSound)
    (materialization : Materialization) :
    (Precomputed.ofOctets? precomputed.toJson.toOctets = some precomputed ↔
      precomputed.IsKept 0) ∧
    ((∃ restored notices,
        ofOctets configuration.toOctets materialization = .ok (restored, notices) ∧
        restored.precomputed = some precomputed ∧
        ∀ query, assignPrecomputed (some restored) query =
          assignPrecomputed (some configuration) query) ↔
      precomputed.IsKept 1) := by
  have normal : precomputed.IsNormal :=
    decoded ▸ PrecomputedResponse.isNormal_decode isResponse subject valid
  have inside : 1 + 3 < nestingLimit := by decide
  refine ⟨Precomputed.ofOctets?_toOctets normal, ?_⟩
  rw [ofOctets_toOctets timely sound, holds, ← Precomputed.read?_document normal inside]
  simp only [Option.mapM_some]
  constructor
  · rintro ⟨restored, notices, made, kept, _⟩
    cases found : Precomputed.read? 1 precomputed.toJson.document with
    | none =>
      rw [found] at made
      cases made
    | some other =>
      rw [found] at made
      have outcome : configuration.restored (some other) materialization = (restored, notices) :=
        Except.ok.inj made
      rw [← kept, ← precomputed_restored configuration (some other) materialization, outcome]
  · intro found
    rw [found]
    have whole := precomputed_restored configuration (some precomputed) materialization
    refine ⟨(configuration.restored (some precomputed) materialization).1,
      (configuration.restored (some precomputed) materialization).2, rfl, whole, ?_⟩
    intro query
    exact assignPrecomputed_of_precomputed (whole.trans holds.symm) query

/-- A response with one open flag, given the type of its value and how the value is written. -/
def responseOf (type : VariationType) (written : Json) : Octets :=
  (Json.object
    [("flags", .object [("flag", .object
      [("variationType", .string type.name), ("variationValue", written)])]),
      ("format", .string "PRECOMPUTED"), ("obfuscated", .bool false)]).toOctets

theorem restored_precomputed_iff_document :
    ∃ response ∈ PrecomputedResponse.ofOctets?
        (responseOf .json (.object [("sizes", .array [.int 1, .null])])),
      ∃ precomputed, response.decode .visitor default = precomputed ∧
        Precomputed.ofOctets? precomputed.toJson.toOctets = some precomputed ∧
        ∃ restored notices,
          ofOctets (ofPrecomputed precomputed).toOctets .lazy = .ok (restored, notices) ∧
          restored.precomputed = some precomputed ∧
          ∀ query, assignPrecomputed (some restored) query =
            assignPrecomputed (some (ofPrecomputed precomputed)) query := by
  have kept : ∃ response ∈ PrecomputedResponse.ofOctets?
      (responseOf .json (.object [("sizes", .array [.int 1, .null])])),
      ∀ entry ∈ (response.decode .visitor default).flags.entries,
        entry.2.value.isKept 4 ∧ entry.2.value.isKept 5 := by
    decide +kernel
  obtain ⟨response, isResponse, values⟩ := kept
  have epoch : (default : Instant).IsValid := ⟨by decide, by decide, by decide, by decide⟩
  have same := restored_precomputed_iff isResponse .visitor epoch rfl
    (ofPrecomputed (response.decode .visitor default)) rfl epoch (by simp [ofPrecomputed]) .lazy
  have nobody : Subject.visitor.IsKept := by simp [Subject.IsKept, Subject.visitor, Dict.empty]
  exact ⟨response, isResponse, _, rfl,
    same.1.mpr ⟨fun entry member => (values entry member).1, nobody⟩,
    same.2.mpr ⟨fun entry member => (values entry member).2, nobody⟩⟩

/-- Whether a response can be decoded, and yet what it is decoded to is not restored. -/
def IsLost (octets : Octets) : Prop :=
  ∃ response ∈ PrecomputedResponse.ofOctets? octets,
    Precomputed.ofOctets? (response.decode .visitor default).toJson.toOctets ≠
      some (response.decode .visitor default)

theorem isLost_of_not_kept {octets : Octets}
    (lost : ∃ response ∈ PrecomputedResponse.ofOctets? octets,
      ∃ entry ∈ (response.decode .visitor default).flags.entries, ¬entry.2.value.isKept 4) :
    IsLost octets := by
  obtain ⟨response, isResponse, entry, member, not_kept⟩ := lost
  have epoch : (default : Instant).IsValid := ⟨by decide, by decide, by decide, by decide⟩
  have normal := PrecomputedResponse.isNormal_decode isResponse .visitor epoch
  refine ⟨response, isResponse, fun same => not_kept ?_⟩
  exact ((Precomputed.ofOctets?_toOctets normal).mp same).values entry member

/-- **Not all is kept**: a double whose digits are read as its neighbour, a document that lies too
deep, and an object whose least key is kept for texts but was not written first. -/
theorem restored_precomputed_differs :
    IsLost (responseOf .numeric (.string "9.881584986060327")) ∧
    IsLost (responseOf .json (Nat.repeat (fun inner => .array [inner]) 124 .null)) ∧
    IsLost (responseOf .json
      (.string "\x7b\"a\":1,\"$serde_json::private::RawValue\":\"x\"\x7d")) := by
  refine ⟨isLost_of_not_kept ?_, isLost_of_not_kept ?_, isLost_of_not_kept ?_⟩
  · decide +kernel
  · decide +kernel
  · decide +kernel

end Configuration

end FeatureFlags
