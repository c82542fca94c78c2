import FeatureFlags.Proofs.Flatbuffer.Verified
import FeatureFlags.Flatbuffer.Flag

/-!
**What a table makes depends on its fields alone.**

Two tables, of one buffer or of two, agree by a schema if each slot of the schema is absent in both
or leads to the same in both: the same number, the same text, or tables that agree in turn. Where
the tables and their parts lie does not matter, nor what else the buffers hold. The readers then
give the same for both tables, errors included.

* `Decoded.Alike`: results that are related values or the same error.
* `Buffer.Agree`, `Buffer.AgreeTable`: what two buffers hold by a schema is the same.
* `Buffer.AgreeTable.flag`: flags whose tables agree are the same.
-/

namespace FeatureFlags

/-! ### Results -/

namespace Decoded

variable {α β γ δ : Type} {related : α → β → Prop} {first : Decoded α} {second : Decoded β}

/-- Both results are values that are related, or both are the same error. -/
def Alike (related : α → β → Prop) : Decoded α → Decoded β → Prop
  | .ok value, .ok other => related value other
  | .error cause, .error other => cause = other
  | .ok _, .error _ => False
  | .error _, .ok _ => False

theorem Alike.weaken {weaker : α → β → Prop} (alike : Alike related first second)
    (weaken : ∀ value other, related value other → weaker value other) :
    Alike weaker first second := by
  cases first with
  | ok value =>
    cases second with
    | ok other => exact weaken value other alike
    | error cause => exact alike
  | error cause =>
    cases second with
    | ok other => exact alike
    | error cause => exact alike

theorem Alike.bind {next : γ → δ → Prop} {further : α → Decoded γ} {after : β → Decoded δ}
    (alike : Alike related first second)
    (each : ∀ value other, related value other → Alike next (further value) (after other)) :
    Alike next (first >>= further) (second >>= after) := by
  cases first with
  | ok value =>
    cases second with
    | ok other => exact each value other alike
    | error cause => exact alike.elim
  | error cause =>
    cases second with
    | ok other => exact alike.elim
    | error cause => exact alike

theorem Alike.map {next : γ → δ → Prop} {f : α → γ} {g : β → δ}
    (alike : Alike (fun value other => next (f value) (g other)) first second) :
    Alike next (Except.map f first) (Except.map g second) := by
  cases first <;> cases second <;> exact alike

theorem alike_eq_iff {other result : Decoded α} : Alike Eq result other ↔ result = other := by
  cases result <;> cases other <;> simp [Alike]

/-- Results that are alike and go on in the same way are the same. -/
theorem Alike.bind_eq {further : α → Decoded γ} {after : β → Decoded γ}
    (alike : Alike related first second)
    (each : ∀ value other, related value other → further value = after other) :
    first >>= further = second >>= after :=
  alike_eq_iff.mp (alike.bind fun value other same => alike_eq_iff.mpr (each value other same))

theorem bind_eq {result other : Decoded α} {further after : α → Decoded γ}
    (same : result = other) (each : ∀ value, further value = after value) :
    result >>= further = other >>= after := by
  rw [same, funext each]

theorem alike_mapM {next : γ → δ → Prop} {read : α → Decoded γ} {again : β → Decoded δ}
    {items : List α} {others : List β} (items_related : List.Forall₂ related items others)
    (each : ∀ item other, related item other → Alike next (read item) (again other)) :
    Alike (List.Forall₂ next) (items.mapM read) (others.mapM again) := by
  induction items_related with
  | nil => exact .nil
  | cons head _ ih =>
    rw [List.mapM_cons, List.mapM_cons]
    exact (each _ _ head).bind fun _ _ first => ih.bind fun _ _ rest => .cons first rest

theorem mapM_eq {read : α → Decoded γ} {again : β → Decoded γ} {items : List α}
    {others : List β} (items_related : List.Forall₂ related items others)
    (each : ∀ item other, related item other → read item = again other) :
    items.mapM read = others.mapM again := by
  refine alike_eq_iff.mp ((alike_mapM items_related fun item other same =>
    alike_eq_iff.mpr (each item other same)).weaken fun values results same => ?_)
  rwa [List.forall₂_eq_eq_eq] at same

end Decoded

namespace Buffer

open Decoded

/-! ### Tables that agree -/

mutual

/-- What lies at a position of a buffer by a shape is the same as at a position of another. -/
def Agree (first second : Buffer) : Shape → Nat → Nat → Prop
  | .number count => fun position place => first.word count position = second.word count place
  | .text => fun position place =>
    (first.follow position >>= first.textAt) = (second.follow place >>= second.textAt)
  | .texts => fun position place =>
    (first.follow position >>= first.targets >>= (·.mapM first.textAt)) =
      (second.follow place >>= second.targets >>= (·.mapM second.textAt))
  | .table slots => fun position place =>
    Alike (AgreeTable first second slots) (first.follow position) (second.follow place)
  | .tables slots => fun position place =>
    Alike (List.Forall₂ (AgreeTable first second slots))
      (first.follow position >>= first.targets) (second.follow place >>= second.targets)

/-- Each slot of a schema is absent in both tables or leads to the same. -/
def AgreeTable (first second : Buffer) : Slots → Nat → Nat → Prop
  | .none => fun _ _ => True
  | .also rest slot _ shape => fun table other =>
    AgreeTable first second rest table other ∧
      Alike (Option.Rel (Agree first second shape)) (first.fieldPosition table slot)
        (second.fieldPosition other slot)

end

variable {first second : Buffer} {slots inner : Slots} {table other slot : Nat} {required : Bool}
  {shape : Shape}

/-! ### Fields -/

theorem AgreeTable.fieldPosition : {slots : Slots} → AgreeTable first second slots table other →
    slots.at? slot = some (required, shape) →
      Alike (Option.Rel (Agree first second shape)) (first.fieldPosition table slot)
        (second.fieldPosition other slot)
  | .none, _, has => by cases has
  | .also rest here _ _, agree, has => by
    rw [AgreeTable] at agree
    rw [Slots.at?] at has
    split at has
    case isTrue same =>
      cases has
      subst same
      exact agree.2
    case isFalse => exact agree.1.fieldPosition has

theorem AgreeTable.field? {α β : Type} {related : α → β → Prop} {read : Nat → Decoded α}
    {again : Nat → Decoded β} (agree : AgreeTable first second slots table other)
    (has : slots.at? slot = some (required, shape))
    (reads : ∀ position place, Agree first second shape position place →
      Alike related (read position) (again place)) :
    Alike (Option.Rel related) (first.field? table slot read) (second.field? other slot again) := by
  refine (agree.fieldPosition has).bind fun found place same => ?_
  cases same with
  | none => exact .none
  | some same =>
    exact Alike.map ((reads _ _ same).weaken fun value other related => .some related)

/-- A field that is read alike is read the same. -/
theorem AgreeTable.field?_eq {α : Type} {read again : Nat → Decoded α}
    (agree : AgreeTable first second slots table other)
    (has : slots.at? slot = some (required, shape))
    (reads : ∀ position place, Agree first second shape position place →
      read position = again place) :
    first.field? table slot read = second.field? other slot again := by
  refine alike_eq_iff.mp ((agree.field? has fun position place same =>
    alike_eq_iff.mpr (reads position place same)).weaken fun found result same => ?_)
  cases same with
  | none => rfl
  | some same => rw [same]

theorem AgreeTable.number? {count : Nat} (agree : AgreeTable first second slots table other)
    (has : slots.at? slot = some (required, .number count)) :
    first.number? count table slot = second.number? count other slot :=
  agree.field?_eq has fun position place same => by rwa [Agree] at same

theorem AgreeTable.number {count default : Nat} (agree : AgreeTable first second slots table other)
    (has : slots.at? slot = some (required, .number count)) :
    first.number count default table slot = second.number count default other slot := by
  rw [Buffer.number, Buffer.number, agree.number? has]

theorem AgreeTable.bool {default : Bool} (agree : AgreeTable first second slots table other)
    (has : slots.at? slot = some (required, .number 1)) :
    first.bool default table slot = second.bool default other slot := by
  rw [Buffer.bool, Buffer.bool, agree.number? has]

theorem AgreeTable.int64? (agree : AgreeTable first second slots table other)
    (has : slots.at? slot = some (required, .number 8)) :
    first.int64? table slot = second.int64? other slot := by
  rw [Buffer.int64?, Buffer.int64?, agree.number? has]

theorem AgreeTable.word32 (agree : AgreeTable first second slots table other)
    (has : slots.at? slot = some (required, .number 4)) :
    first.word32 table slot = second.word32 other slot := by
  rw [Buffer.word32, Buffer.word32, agree.number has]

theorem AgreeTable.instant? (agree : AgreeTable first second slots table other)
    (has : slots.at? slot = some (required, .number 8)) :
    first.instant? table slot = second.instant? other slot := by
  rw [Buffer.instant?, Buffer.instant?, agree.int64? has]

theorem AgreeTable.text? (agree : AgreeTable first second slots table other)
    (has : slots.at? slot = some (required, .text)) :
    first.text? table slot = second.text? other slot :=
  agree.field?_eq has fun position place same => by rwa [Agree] at same

theorem AgreeTable.requiredText {field : String}
    (agree : AgreeTable first second slots table other)
    (has : slots.at? slot = some (required, .text)) :
    first.requiredText field table slot = second.requiredText field other slot := by
  rw [Buffer.requiredText, Buffer.requiredText, agree.text? has]

theorem AgreeTable.texts? (agree : AgreeTable first second slots table other)
    (has : slots.at? slot = some (required, .texts)) :
    first.texts? table slot = second.texts? other slot :=
  agree.field?_eq has fun position place same => by
    rw [Agree] at same
    simpa only [bind_assoc] using same

theorem AgreeTable.table? (agree : AgreeTable first second slots table other)
    (has : slots.at? slot = some (required, .table inner)) :
    Alike (Option.Rel (AgreeTable first second inner)) (first.table? table slot)
      (second.table? other slot) :=
  agree.field? has fun position place same => by rwa [Agree] at same

theorem AgreeTable.tables (agree : AgreeTable first second slots table other)
    (has : slots.at? slot = some (required, .tables inner)) :
    Alike (List.Forall₂ (AgreeTable first second inner)) (first.tables table slot)
      (second.tables other slot) := by
  have targets : ∀ position place, Agree first second (.tables inner) position place →
      Alike (List.Forall₂ (AgreeTable first second inner))
        (first.follow position >>= first.targets) (second.follow place >>= second.targets) :=
    fun position place same => by rwa [Agree] at same
  refine (agree.field? has targets).bind fun found result same => ?_
  cases same with
  | none => exact .nil
  | some same => exact same

/-! ### Records -/

theorem AgreeTable.scalar (agree : AgreeTable first second .value table other) :
    first.scalar table = second.scalar other := by
  refine bind_eq (agree.number rfl) fun kind => ?_
  split
  case h_1 => exact congrArg _ (agree.bool rfl)
  case h_2 => exact congrArg _ (agree.number rfl)
  case h_3 => exact congrArg _ (agree.requiredText rfl)
  case h_4 => rfl

theorem AgreeTable.variation (agree : AgreeTable first second .variation table other) :
    first.variation table = second.variation other := by
  refine bind_eq (agree.requiredText rfl) fun key => ?_
  refine (agree.table? rfl).bind_eq fun found result same => ?_
  cases same with
  | none => rfl
  | @some value place same =>
    show (first.scalar value >>= _) = (second.scalar place >>= _)
    exact bind_eq same.scalar fun _ => rfl

theorem AgreeTable.conditionValue (agree : AgreeTable first second .conditionValue table other) :
    first.conditionValue table = second.conditionValue other := by
  refine (agree.table? rfl).bind_eq fun found result same => ?_
  cases same with
  | none => exact bind_eq (agree.texts? rfl) fun _ => rfl
  | @some value place same =>
    show Except.map _ (first.scalar value) = Except.map _ (second.scalar place)
    rw [same.scalar]

theorem AgreeTable.condition (agree : AgreeTable first second .condition table other) :
    first.condition table = second.condition other := by
  refine (agree.table? rfl).bind_eq fun found result same => ?_
  cases same with
  | none => rfl
  | @some value place same =>
    show (first.conditionValue value >>= _) = (second.conditionValue place >>= _)
    refine bind_eq same.conditionValue fun value => ?_
    exact bind_eq (agree.requiredText rfl) fun name => bind_eq (agree.number rfl) fun _ => rfl

theorem AgreeTable.rule (agree : AgreeTable first second .rule table other) :
    first.rule table = second.rule other :=
  (agree.tables rfl).bind_eq fun _ _ same =>
    congrArg _ (mapM_eq same fun _ _ => AgreeTable.condition)

theorem AgreeTable.shardRange (agree : AgreeTable first second .shardRange table other) :
    first.shardRange table = second.shardRange other :=
  bind_eq (agree.word32 rfl) fun _ => bind_eq (agree.word32 rfl) fun _ => rfl

theorem AgreeTable.shard (agree : AgreeTable first second .shard table other) :
    first.shard table = second.shard other := by
  refine bind_eq (agree.requiredText rfl) fun salt => ?_
  refine (agree.tables rfl).bind_eq fun _ _ same => ?_
  exact bind_eq (mapM_eq same fun _ _ => AgreeTable.shardRange) fun _ => rfl

theorem AgreeTable.pair? (agree : AgreeTable first second .entry table other) :
    first.pair? table = second.pair? other :=
  bind_eq (agree.text? rfl) fun _ => bind_eq (agree.text? rfl) fun _ => rfl

theorem AgreeTable.split (agree : AgreeTable first second .split table other) :
    first.split table = second.split other := by
  refine (agree.tables rfl).bind_eq fun _ _ same => ?_
  refine bind_eq (mapM_eq same fun _ _ => AgreeTable.shard) fun shards => ?_
  refine (agree.tables rfl).bind_eq fun _ _ same => ?_
  refine bind_eq (mapM_eq same fun _ _ => AgreeTable.pair?) fun entries => ?_
  exact bind_eq (agree.requiredText rfl) fun _ => rfl

theorem AgreeTable.allocation (agree : AgreeTable first second .allocation table other) :
    first.allocation table = second.allocation other := by
  refine (agree.tables rfl).bind_eq fun _ _ same => ?_
  refine bind_eq (mapM_eq same fun _ _ => AgreeTable.rule) fun rules => ?_
  refine (agree.tables rfl).bind_eq fun _ _ same => ?_
  refine bind_eq (mapM_eq same fun _ _ => AgreeTable.split) fun splits => ?_
  refine bind_eq (agree.requiredText rfl) fun key => ?_
  refine bind_eq (agree.instant? rfl) fun startAt => ?_
  refine bind_eq (agree.instant? rfl) fun endAt => ?_
  exact bind_eq (agree.bool rfl) fun doLog => rfl

/-- **Flags whose tables agree are the same**, or fail for the same reason. -/
theorem AgreeTable.flag (agree : AgreeTable first second .flag table other) :
    first.flag table = second.flag other := by
  refine bind_eq (agree.number rfl) fun typeId => ?_
  refine bind_eq rfl fun variationType => ?_
  refine (agree.tables rfl).bind_eq fun _ _ same => ?_
  refine bind_eq (mapM_eq same fun _ _ => AgreeTable.variation) fun variations => ?_
  refine (agree.tables rfl).bind_eq fun _ _ same => ?_
  refine bind_eq (mapM_eq same fun _ _ => AgreeTable.allocation) fun allocations => ?_
  refine bind_eq (agree.requiredText rfl) fun key => ?_
  refine bind_eq (agree.bool rfl) fun enabled => ?_
  refine bind_eq (agree.word32 rfl) fun totalShards => ?_
  exact bind_eq (agree.int64? rfl) fun entityId => rfl

end Buffer

end FeatureFlags
