import FeatureFlags.Catalog.Basic
import FeatureFlags.Proofs.Dict
import FeatureFlags.Proofs.Flatbuffer.Verified

/-!
**Flags of a buffer that was verified once are read without looking again.**

Every reader of a table asks for slots that the schema of the table has, and for what the schema
says lies there. So it never leaves a buffer that keeps to the schema, and what may still go wrong
are matters of the flag: its type is unknown, an instant is not on the calendar, or something is
missing that the schema does not require.

* `DecodeError.Tame`: what may still go wrong.
* `Buffer.HoldsTable.scalar` to `Buffer.HoldsTable.flag`: the readers, from the inside out.
* `Buffer.HoldsTable.flagIndex`: the flags of a configuration by their keys.
* `Catalog.ofFlatbuffer_reads_inside`: all that is read of a buffer that was verified.
-/

namespace FeatureFlags

open Decoded (Ends)

/-! ### Matters of a flag -/

/-- A cause that says something of a flag, and not that the buffer is damaged. -/
def DecodeError.Tame : DecodeError → Prop
  | unknownVariationType _ | invalidTimestamp _ => True
  | missingField field => field ≠ "flag.key"
  | invalidJson | invalidProtobuf | invalidFlatbuffer => False

/-- A result that is a value, or an error that says something of a flag. -/
def Decoded.Tame {α : Type} (result : Decoded α) : Prop :=
  Ends DecodeError.Tame (fun _ => True) result

namespace Decoded

variable {α β : Type} {result : Decoded α}

theorem Tame.map {f : α → β} (tame : result.Tame) : Decoded.Tame (Except.map f result) :=
  Ends.map tame

theorem tame_mapM {read : α → Decoded β} {items : List α}
    (each : ∀ item ∈ items, (read item).Tame) : Decoded.Tame (items.mapM read) := by
  have ends : Ends DecodeError.Tame (List.Forall₂ (fun _ _ => True) items) (items.mapM read) :=
    Ends.mapM each
  exact ends.weaken fun _ _ => trivial

theorem tame_requireField {field : String} (other : field ≠ "flag.key") (found : Option α) :
    Ends DecodeError.Tame (fun value => found = some value) (requireField field found) := by
  cases found with
  | none => exact other
  | some value => rfl

end Decoded

theorem VariationType.tame_ofWire (id : Int) : (VariationType.ofWire id).Tame := by
  unfold ofWire
  split <;> trivial

namespace Buffer

variable {buffer : Buffer} {slots inner : Slots} {table slot : Nat} {required : Bool}
  {causes : DecodeError → Prop}

/-! ### Fields -/

theorem HoldsTable.int64? (holds : buffer.HoldsTable slots table)
    (has : slots.at? slot = some (required, .number 8)) :
    Ends causes (fun _ => True) (buffer.int64? table slot) :=
  Ends.map ((holds.number? has).weaken fun _ _ => trivial)

theorem HoldsTable.word32 (holds : buffer.HoldsTable slots table)
    (has : slots.at? slot = some (required, .number 4)) :
    Ends causes (fun _ => True) (buffer.word32 table slot) :=
  (holds.number has).map

theorem HoldsTable.instant? (holds : buffer.HoldsTable slots table)
    (has : slots.at? slot = some (required, .number 8))
    (known : ∀ millis, causes (.invalidTimestamp millis)) :
    Ends causes (fun _ => True) (buffer.instant? table slot) := by
  refine (holds.int64? has).bind fun found _ => ?_
  cases found with
  | none => trivial
  | some millis =>
    refine Ends.map ?_
    unfold Instant.ofWireMillis
    split
    case h_1 => trivial
    case h_2 => exact known _

/-- A required text is there. -/
theorem HoldsTable.requiredText (holds : buffer.HoldsTable slots table)
    (has : slots.at? slot = some (true, .text)) (field : String) :
    Ends causes (fun text => buffer.text? table slot = .ok (some text))
      (buffer.requiredText field table slot) := by
  have ends : Ends (fun _ => False) (Found true fun _ => True) (buffer.text? table slot) :=
    holds.text? has
  obtain ⟨found, read, isFound⟩ := ends.exists_ok
  obtain ⟨text, rfl⟩ := Option.isSome_iff_exists.1 (isFound.present rfl)
  rw [Buffer.requiredText, read]
  rfl

/-- A text that is not required may be missing. -/
theorem HoldsTable.tame_requiredText {field : String} (holds : buffer.HoldsTable slots table)
    (has : slots.at? slot = some (required, .text)) (other : field ≠ "flag.key") :
    (buffer.requiredText field table slot).Tame :=
  (holds.text? has).bind fun found _ =>
    (Decoded.tame_requireField other found).weaken fun _ _ => trivial

/-! ### Records -/

theorem HoldsTable.scalar (holds : buffer.HoldsTable .value table) :
    (buffer.scalar table).Tame := by
  refine (holds.number rfl).bind fun kind _ => ?_
  split
  case h_1 => exact (holds.bool rfl).map
  case h_2 => exact (holds.number rfl).map
  case h_3 => exact (holds.tame_requiredText rfl (by decide)).map
  case h_4 => exact (by decide : "value.kind" ≠ "flag.key")

theorem HoldsTable.variation (holds : buffer.HoldsTable .variation table) :
    (buffer.variation table).Tame := by
  refine (holds.tame_requiredText rfl (by decide)).bind fun key _ => ?_
  refine (holds.table? rfl).bind fun value isValue => ?_
  refine (Decoded.tame_requireField (by decide) value).bind fun value isFound => ?_
  refine (isValue.each value isFound).scalar.bind fun value _ => ?_
  trivial

theorem HoldsTable.conditionValue (holds : buffer.HoldsTable .conditionValue table) :
    (buffer.conditionValue table).Tame := by
  refine (holds.table? rfl).bind fun single isSingle => ?_
  cases single with
  | some single => exact (isSingle.each single rfl).scalar.map
  | none =>
    refine (holds.texts? rfl).bind fun texts _ => ?_
    cases texts with
    | some texts => trivial
    | none => exact (by decide : "condition.value" ≠ "flag.key")

theorem HoldsTable.condition (holds : buffer.HoldsTable .condition table) :
    (buffer.condition table).Tame := by
  refine (holds.table? rfl).bind fun value isValue => ?_
  refine (Decoded.tame_requireField (by decide) value).bind fun value isFound => ?_
  refine (isValue.each value isFound).conditionValue.bind fun value _ => ?_
  refine (holds.tame_requiredText rfl (by decide)).bind fun name _ => ?_
  refine (holds.number rfl).bind fun operator _ => ?_
  trivial

theorem HoldsTable.rule (holds : buffer.HoldsTable .rule table) : (buffer.rule table).Tame := by
  refine (holds.tables rfl).bind fun conditions areConditions => ?_
  exact (Decoded.tame_mapM fun target member => (areConditions target member).condition).map

theorem HoldsTable.shardRange (holds : buffer.HoldsTable .shardRange table) :
    (buffer.shardRange table).Tame := by
  refine (holds.word32 rfl).bind fun start _ => ?_
  refine (holds.word32 rfl).bind fun stop _ => ?_
  trivial

theorem HoldsTable.shard (holds : buffer.HoldsTable .shard table) : (buffer.shard table).Tame := by
  refine (holds.tame_requiredText rfl (by decide)).bind fun salt _ => ?_
  refine (holds.tables rfl).bind fun ranges areRanges => ?_
  refine (Decoded.tame_mapM fun target member => (areRanges target member).shardRange).bind
    fun ranges _ => ?_
  trivial

theorem HoldsTable.pair? (holds : buffer.HoldsTable .entry table) : (buffer.pair? table).Tame := by
  refine (holds.text? rfl).bind fun key _ => ?_
  refine (holds.text? rfl).bind fun value _ => ?_
  trivial

theorem HoldsTable.split (holds : buffer.HoldsTable .split table) : (buffer.split table).Tame := by
  refine (holds.tables rfl).bind fun shards areShards => ?_
  refine (Decoded.tame_mapM fun target member => (areShards target member).shard).bind
    fun shards _ => ?_
  refine (holds.tables rfl).bind fun entries areEntries => ?_
  refine (Decoded.tame_mapM fun target member => (areEntries target member).pair?).bind
    fun entries _ => ?_
  refine (holds.tame_requiredText rfl (by decide)).bind fun variationKey _ => ?_
  trivial

theorem HoldsTable.allocation (holds : buffer.HoldsTable .allocation table) :
    (buffer.allocation table).Tame := by
  refine (holds.tables rfl).bind fun rules areRules => ?_
  refine (Decoded.tame_mapM fun target member => (areRules target member).rule).bind
    fun rules _ => ?_
  refine (holds.tables rfl).bind fun splits areSplits => ?_
  refine (Decoded.tame_mapM fun target member => (areSplits target member).split).bind
    fun splits _ => ?_
  refine (holds.tame_requiredText rfl (by decide)).bind fun key _ => ?_
  refine (holds.instant? rfl fun _ => trivial).bind fun startAt _ => ?_
  refine (holds.instant? rfl fun _ => trivial).bind fun endAt _ => ?_
  refine (holds.bool rfl).bind fun doLog _ => ?_
  trivial

/-- **A flag of a buffer that keeps to the schema is read without leaving the buffer.** -/
theorem HoldsTable.flag (holds : buffer.HoldsTable .flag table) : (buffer.flag table).Tame := by
  refine (holds.number rfl).bind fun typeId _ => ?_
  refine (VariationType.tame_ofWire typeId).bind fun variationType _ => ?_
  refine (holds.tables rfl).bind fun variations areVariations => ?_
  refine (Decoded.tame_mapM fun target member => (areVariations target member).variation).bind
    fun variations _ => ?_
  refine (holds.tables rfl).bind fun allocations areAllocations => ?_
  refine (Decoded.tame_mapM fun target member => (areAllocations target member).allocation).bind
    fun allocations _ => ?_
  refine (holds.requiredText rfl "flag.key").bind fun key _ => ?_
  refine (holds.bool rfl).bind fun enabled _ => ?_
  refine (holds.word32 rfl).bind fun totalShards _ => ?_
  refine (holds.int64? rfl).bind fun entityId _ => ?_
  trivial

/-! ### Configurations -/

/-- A buffer that keeps to a schema begins with an offset to a table that lies in it. -/
theorem exists_root_of_keepsTo (verified : buffer.keepsTo slots) :
    ∃ root, buffer.root = .ok root ∧ buffer.HoldsTable slots root := by
  obtain ⟨rest, visited⟩ := Option.isSome_iff_exists.1 verified
  have holds := holds_of_visitShape (.table slots) visited
  rw [Holds] at holds
  have ends : Ends (fun _ => False) (buffer.HoldsTable slots) buffer.root := holds.follow
  exact ends.exists_ok

theorem createdAt_of_holds {root : Nat} (isRoot : buffer.root = .ok root)
    (holds : buffer.HoldsTable .config root) :
    Ends (fun cause => ∃ millis, cause = .invalidTimestamp millis) (fun _ => True)
      buffer.createdAt := by
  rw [createdAt, isRoot]
  exact holds.instant? rfl fun millis => ⟨millis, rfl⟩

theorem environment_of_holds {root : Nat} (isRoot : buffer.root = .ok root)
    (holds : buffer.HoldsTable .config root) :
    ∃ environment, buffer.environment = .ok environment := by
  have ends : Ends (fun _ => False) (fun _ => True) buffer.environment := by
    rw [environment, isRoot]
    exact (holds.text? rfl).weaken fun _ _ => trivial
  obtain ⟨environment, read, _⟩ := ends.exists_ok
  exact ⟨environment, read⟩

/-- **The index lists the flags of the configuration, each with its key.** -/
theorem flagIndex_of_holds {root : Nat} (isRoot : buffer.root = .ok root)
    (holds : buffer.HoldsTable .config root) :
    ∃ flags index, buffer.tables root 8 = .ok flags ∧
      (∀ flag ∈ flags, buffer.HoldsTable .flag flag) ∧ buffer.flagIndex = .ok index ∧
      List.Forall₂ (fun flag entry => entry.2 = flag ∧
        buffer.text? flag 4 = .ok (some entry.1)) flags index := by
  have tables : Ends (fun _ => False)
      (fun flags => ∀ flag ∈ flags, buffer.HoldsTable .flag flag) (buffer.tables root 8) :=
    holds.tables rfl
  obtain ⟨flags, isFlags, areFlags⟩ := tables.exists_ok
  have ends : Ends (fun _ => False) (List.Forall₂ (fun flag entry => entry.2 = flag ∧
      buffer.text? flag 4 = .ok (some entry.1)) flags) buffer.flagIndex := by
    rw [flagIndex, isRoot]
    simp only [bind, Except.bind, isFlags]
    refine Ends.mapM fun flag member => ?_
    refine ((areFlags flag member).requiredText rfl "flag.key").bind fun key isKey => ?_
    exact ⟨rfl, isKey⟩
  obtain ⟨index, isIndex, lists⟩ := ends.exists_ok
  exact ⟨flags, index, isFlags, areFlags, isIndex, lists⟩

end Buffer

/-! ### Catalogs -/

namespace Catalog

/-- The catalog of a buffer has the keys of its index, and at each key a flag of the index. -/
theorem ofFlatbuffer_of_index {octets : Octets} {createdAt : Option Instant}
    {environment : Option String} {index : List (String × Nat)}
    (verified : (Buffer.ofOctets octets).keepsTo .config)
    (isCreatedAt : (Buffer.ofOctets octets).createdAt = .ok createdAt)
    (isEnvironment : (Buffer.ofOctets octets).environment = .ok environment)
    (isIndex : (Buffer.ofOctets octets).flagIndex = .ok index) :
    ∃ catalog, ofFlatbuffer octets = .ok catalog ∧
      (∀ key, key ∈ catalog.keys ↔ ∃ entry ∈ index, entry.1 = key) ∧
      ∀ key ∈ catalog.keys, ∃ flag, (key, flag) ∈ index ∧
        catalog.flag? key = some ((Buffer.ofOctets octets).flag flag) := by
  refine ⟨⟨.flatbuffer, octets, createdAt, environment, Dict.ofList (index.map fun entry =>
    (entry.1, .table (Buffer.ofOctets octets) entry.2))⟩, ?_, fun key => ?_, fun key present => ?_⟩
  · simp only [ofFlatbuffer, verified, if_true, isCreatedAt, isEnvironment, isIndex, bind,
      Except.bind]
    rfl
  · unfold keys
    rw [Dict.mem_keys_ofList]
    simp
  · obtain ⟨raw, found⟩ := Option.isSome_iff_exists.1 (Dict.mem_keys_iff.1 present)
    obtain ⟨entry, member, same⟩ := List.mem_map.1 (Dict.mem_of_get?_ofList found)
    cases same
    refine ⟨entry.2, member, ?_⟩
    rw [flag?, found]
    rfl

/-- **A buffer that was verified is read without looking again.** All that its tables lead to lies
inside of it, the index lists the flags of its vector, and the flag at each key of the index is
read, or is none for reasons of its own. -/
theorem ofFlatbuffer_reads_inside (octets : Octets)
    (verified : (Buffer.ofOctets octets).keepsTo .config) :
    let buffer := Buffer.ofOctets octets
    ∃ root flags index, buffer.root = .ok root ∧ buffer.HoldsTable .config root ∧
      buffer.tables root 8 = .ok flags ∧ buffer.flagIndex = .ok index ∧
      index.map Prod.snd = flags ∧
      (∀ entry ∈ index, buffer.text? entry.2 4 = .ok (some entry.1)) ∧
      (∃ environment, buffer.environment = .ok environment) ∧
      (∀ flag ∈ flags, (buffer.flag flag).Tame) ∧
      ((∃ millis, buffer.createdAt = .error (.invalidTimestamp millis) ∧
          ofFlatbuffer octets = .error (.invalidTimestamp millis)) ∨
        ∃ catalog, ofFlatbuffer octets = .ok catalog ∧
          (∀ key, key ∈ catalog.keys ↔ ∃ entry ∈ index, entry.1 = key) ∧
          ∀ key ∈ catalog.keys, ∃ flag, (key, flag) ∈ index ∧
            catalog.flag? key = some (buffer.flag flag) ∧ (buffer.flag flag).Tame) := by
  intro buffer
  obtain ⟨root, isRoot, holds⟩ := Buffer.exists_root_of_keepsTo verified
  obtain ⟨flags, index, isFlags, areFlags, isIndex, lists⟩ := Buffer.flagIndex_of_holds isRoot holds
  obtain ⟨environment, isEnvironment⟩ := Buffer.environment_of_holds isRoot holds
  have positions : index.map Prod.snd = flags := by
    rw [eq_comm, ← List.forall₂_eq_eq_eq, List.forall₂_map_right_iff]
    exact lists.imp fun flag entry isEntry => isEntry.1.symm
  have keys : ∀ entry ∈ index, buffer.text? entry.2 4 = .ok (some entry.1) :=
    Decoded.forall_of_forall₂ (lists.imp fun flag entry isEntry => isEntry.1 ▸ isEntry.2)
  have tame : ∀ flag ∈ flags, (buffer.flag flag).Tame := fun flag member =>
    (areFlags flag member).flag
  refine ⟨root, flags, index, isRoot, holds, isFlags, isIndex, positions, keys,
    ⟨environment, isEnvironment⟩, tame, ?_⟩
  have created := Buffer.createdAt_of_holds isRoot holds
  cases isCreatedAt : (Buffer.ofOctets octets).createdAt with
  | error cause =>
    rw [isCreatedAt] at created
    obtain ⟨millis, rfl⟩ := created
    refine .inl ⟨millis, rfl, ?_⟩
    simp only [ofFlatbuffer, verified, if_true, isCreatedAt, bind, Except.bind]
  | ok createdAt =>
    obtain ⟨catalog, isCatalog, listed, found⟩ :=
      ofFlatbuffer_of_index verified isCreatedAt isEnvironment isIndex
    refine .inr ⟨catalog, isCatalog, listed, fun key present => ?_⟩
    obtain ⟨flag, member, isFlag⟩ := found key present
    refine ⟨flag, member, isFlag, tame flag ?_⟩
    rw [← positions]
    exact List.mem_map_of_mem member

/-- A configuration of which two offsets lead to one flag that has nothing but a key. -/
def sharedFlag : Octets :=
  [16, 0, 0, 0, 10, 0, 8, 0, 0, 0, 0, 0, 4, 0, 0, 0, 12, 0, 0, 0, 4, 0, 0, 0, 2, 0, 0, 0,
    16, 0, 0, 0, 12, 0, 0, 0, 6, 0, 8, 0, 4, 0, 0, 0, 8, 0, 0, 0, 4, 0, 0, 0, 1, 0, 0, 0, 107, 0]

theorem ofFlatbuffer_reads_inside_shared :
    (Buffer.ofOctets sharedFlag).keepsTo .config = true ∧
    ∃ flags index, (Buffer.ofOctets sharedFlag).flagIndex = .ok index ∧
      index.map Prod.snd = flags ∧
      ∀ flag ∈ flags, ((Buffer.ofOctets sharedFlag).flag flag).Tame := by
  have verified : (Buffer.ofOctets sharedFlag).keepsTo .config = true := by decide +kernel
  obtain ⟨_, flags, index, _, _, _, isIndex, positions, _, _, tame, _⟩ :=
    ofFlatbuffer_reads_inside sharedFlag verified
  exact ⟨verified, flags, index, isIndex, positions, tame⟩

end Catalog

end FeatureFlags
