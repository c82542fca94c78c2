import FeatureFlags.Catalog.Basic
import FeatureFlags.Proofs.Flag.Restoring

/-!
**A configuration of flags is read back from its JSON text.**

The text of a configuration is an object with the flags under their keys, and perhaps with the time
and the environment that it was made for. The catalog of the text keeps the text of each flag as it
stands there, and decodes it when the flag is asked for. So each flag comes back under the key that
it was put under, which need not be its own, whatever order its members and those of its maps are
written in.

* `Catalog.written`: the JSON form of a configuration.
* `Catalog.exists_rawFlags_of_hasForm`: the flags, not decoded yet.
* `flags_survive_json`: what a catalog of the text gives.
-/

namespace FeatureFlags

open Document

namespace Catalog

/-- The JSON form of a configuration, with the time and the environment that it was made for, if
there are such. -/
def written (createdAt : Option Instant) (environment : Option String) (flags : Dict Flag) : Json :=
  .object ((createdAt.map fun instant => ("createdAt", instant.toJson)).toList ++
    (environment.map fun name => ("environment", Environment.toJson ⟨name⟩)).toList ++
    [("flags", flags.toJson Flag.toJson)])

/-- The text of a value is UTF-8, so that it may be kept as it stands. -/
theorem rawDocument?_document (value : Json) :
    rawDocument? value.document = some (.document value.document) :=
  if_pos (SpellsPadded.isText (Json.padded_of_spells value.spells_document) ⟨value.render, rfl⟩)

/-- A flag whose form is kept decodes to the flag. -/
theorem decode_of_hasForm {flag : Flag} (kept : flag.IsKept) {form : Json}
    (isForm : flag.toJson.HasForm form) :
    (RawFlag.document form.document).decode = .ok flag := by
  rw [RawFlag.decode, Flag.restores kept (by decide) form isForm]

/-- **Each flag of a map is kept under its key as it is written, and decodes to the flag.** -/
theorem exists_rawFlags_of_hasForm {level : Nat} (inside : level < nestingLimit) {flags : Dict Flag}
    (kept : ∀ key flag, flags.get? key = some flag → flag.IsKept) {form : Json}
    (isForm : (flags.toJson Flag.toJson).HasForm form) :
    ∃ raw, form.document.readDict? level (fun _ => rawDocument?) = some raw ∧
      ∀ key, (raw.get? key).map RawFlag.decode = (flags.get? key).map .ok := by
  obtain ⟨walk, others, rfl, walked, forms⟩ := Json.exists_walk_of_hasForm isForm
  have read : (Json.memberDocuments others).mapM (readMember? level fun _ => rawDocument?) =
      some (others.map fun other => (other.1, RawFlag.document other.2.document)) := by
    refine Json.mapM_readMember?_memberDocuments ?_
    rw [List.forall₂_map_left_iff, List.forall₂_same]
    exact fun other _ => ⟨rfl, rawDocument?_document other.2⟩
  refine ⟨_, Json.readDict?_object inside read, fun key => ?_⟩
  have distinct : ((others.map fun other =>
      (other.1, RawFlag.document other.2.document)).map Prod.fst).Nodup := by
    have keys : others.map Prod.fst = walk.map Prod.fst := by
      rw [← List.forall₂_eq_eq_eq, List.forall₂_map_left_iff, List.forall₂_map_right_iff]
      exact forms.flip.imp fun other entry paired => paired.1
    rw [List.map_map]
    exact keys ▸ (walked.map Prod.fst).nodup_iff.mpr flags.keys_nodup
  cases found : flags.get? key with
  | some flag =>
    have inWalk : (key, flag) ∈ walk := walked.mem_iff.mpr (Dict.get?_eq_some_iff.mp found)
    obtain ⟨⟨_, form⟩, isOther, rfl, isForm⟩ := Json.exists_paired forms inWalk
    rw [(Dict.get?_ofList_eq_some_iff distinct).mpr
      (List.mem_map.mpr ⟨_, isOther, rfl⟩), Option.map_some, Option.map_some,
      decode_of_hasForm (kept _ flag found) isForm]
  | none =>
    rw [Option.map_none, Option.map_eq_none_iff, Option.eq_none_iff_forall_ne_some]
    intro raw isRaw
    obtain ⟨other, isOther, same⟩ := List.mem_map.mp (Dict.mem_of_get?_ofList isRaw)
    obtain ⟨entry, inWalk, named, _⟩ := Json.exists_paired forms.flip isOther
    have present := Dict.get?_eq_some_iff.mpr (walked.mem_iff.mp inWalk)
    cases same
    rw [← named, found] at present
    cases present

/-- An environment is read back as its name. -/
theorem restores_environment {level : Nat} (inside : level < nestingLimit)
    (environment : Environment) :
    environment.toJson.Restores (Environment.read? level) environment := by
  intro form isForm
  obtain ⟨record, isRecord, holds⟩ : ∃ record,
      form.document.readRecord? ["name"] level = some record ∧ record.Holds (level + 1) _ :=
    Json.exists_record_of_hasForm inside (by simp) (by simp) isForm
  have name : record.require "name" (fun _ => readString?) = some environment.name :=
    holds.require (by simp) (Json.restores_string _)
  rw [Environment.read?, isRecord]
  simp only [Option.bind_eq_bind, Option.bind_some, name, Option.pure_def]

end Catalog

open Catalog in
/-- **Flags survive their JSON text.** The text of a configuration, with or without a time and an
environment, and with the members of each object in any order, holds a catalog with the keys of the
flags. At each key it gives the flag that was put there, if each double of the flag is read as it is
written. -/
theorem flags_survive_json {flags : Dict Flag}
    (kept : ∀ key flag, flags.get? key = some flag → flag.IsKept) {createdAt : Option Instant}
    (valid : ∀ instant ∈ createdAt, instant.IsValid) (environment : Option String) {form : Json}
    (isForm : (written createdAt environment flags).HasForm form) :
    ∃ catalog, ofOctets .json form.toOctets = .ok catalog ∧ catalog.keys = flags.keys ∧
      catalog.createdAt = createdAt ∧ catalog.environment = environment ∧
      ∀ key, catalog.flag? key = (flags.get? key).map .ok := by
  obtain ⟨record, isRecord, holds⟩ : ∃ record,
      form.document.readRecord? ["createdAt", "environment", "flags"] 0 = some record ∧
        record.Holds 1 _ := by
    refine Json.exists_record_of_hasForm (by decide) ?_ ?_ isForm
    · cases createdAt <;> cases environment <;> simp
    · cases createdAt <;> cases environment <;> simp
  have isCreatedAt : record.nullable "createdAt" (fun _ => Instant.read?) = some createdAt := by
    cases createdAt with
    | none => exact holds.nullable_of_absent (by cases environment <;> simp) _
    | some instant =>
      have restored : instant.toJson.Restores Instant.read? instant :=
        Json.restores_of_alone (fun _ same => same) (read?_instant (valid instant rfl))
      exact holds.nullable (by simp) (restored.nullable rfl)
  have isEnvironment : record.nullable "environment" Environment.read? =
      some (environment.map Environment.mk) := by
    cases environment with
    | none => exact holds.nullable_of_absent (by cases createdAt <;> simp) _
    | some name =>
      have restored := restores_environment (show 1 < nestingLimit by decide) ⟨name⟩
      exact holds.nullable (by simp) (restored.nullable rfl)
  obtain ⟨flagsForm, isFlagsForm, found⟩ :=
    holds.present "flags" (flags.toJson Flag.toJson) (by simp)
  obtain ⟨raw, areFlags, decoded⟩ :=
    exists_rawFlags_of_hasForm (show 1 < nestingLimit by decide) kept isFlagsForm
  have areFlags : (record.require "flags" fun level => readDict? level fun _ => rawDocument?) =
      some raw := by
    rw [Record.require_of_lookup found, holds.level, areFlags]
  refine ⟨⟨.json, form.toOctets, createdAt, environment, raw⟩, ?_, ?_, rfl, rfl, decoded⟩
  · rw [ofOctets, ofJson, readDocument?, read?_toOctets]
    simp only [Option.bind_eq_bind, Option.bind_some, isRecord, isCreatedAt, isEnvironment,
      areFlags, Option.pure_def, Option.map_map]
    cases environment <;> rfl
  · refine Dict.keys_eq_of_isSome fun key => ?_
    have same := congrArg Option.isSome (decoded key)
    rwa [Option.isSome_map, Option.isSome_map] at same

/-- A flag with a number, an operator that is not known and extra logging. -/
def Flag.logged : Flag where
  key := "limit \"\n\""
  enabled := true
  variationType := .numeric
  variations := Dict.ofList [("on", ⟨"on", .number (Double.ofInt 3)⟩), ("off", ⟨"", .boolean false⟩)]
  allocations := [⟨"all", [⟨[⟨.unrecognized, "plan", .multiple ["a", "b"]⟩]⟩], some ⟨0, 0⟩, none,
    [⟨[⟨"salt", [⟨0, 5⟩]⟩], "on", Dict.ofList [("a", "1"), ("b", "2")]⟩], false⟩]
  totalShards := 10
  entityId := some (-7)

theorem Flag.isKept_logged : Flag.logged.IsKept where
  variations := by decide +kernel
  allocations := by
    intro allocation member
    obtain rfl := List.mem_singleton.mp member
    refine ⟨by decide, fun instant present => ?_, fun instant absent => by cases absent⟩
    obtain rfl := Option.some.inj present
    exact ⟨by decide, by decide, by decide, by decide⟩

theorem flags_survive_json_renamed :
    ∃ catalog, Catalog.ofOctets .json (Catalog.written (some ⟨0, 0⟩) (some "Production")
        (Dict.ofList [("limits", Flag.logged)])).toOctets = .ok catalog ∧
      catalog.keys = ["limits"] ∧ catalog.environment = some "Production" ∧
      catalog.flag? "limits" = some (.ok Flag.logged) := by
  have entries : (Dict.ofList [("limits", Flag.logged)]).entries = [("limits", Flag.logged)] := rfl
  have kept : ∀ key flag, (Dict.ofList [("limits", Flag.logged)]).get? key = some flag →
      flag.IsKept := fun key flag found => by
    have member := Dict.get?_eq_some_iff.mp found
    rw [entries, List.mem_singleton] at member
    cases member
    exact Flag.isKept_logged
  have valid : ∀ instant ∈ some (⟨0, 0⟩ : Instant), instant.IsValid := fun instant present =>
    Option.some.inj present ▸ ⟨by decide, by decide, by decide, by decide⟩
  obtain ⟨catalog, isCatalog, keys, _, environment, found⟩ :=
    flags_survive_json kept valid (some "Production") (Json.HasForm.refl _)
  exact ⟨catalog, isCatalog, keys, environment, found "limits"⟩

end FeatureFlags
