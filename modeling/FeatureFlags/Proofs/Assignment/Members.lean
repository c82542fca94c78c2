import FeatureFlags.Assignment
import FeatureFlags.Proofs.Flag.FirstMatch
import FeatureFlags.Proofs.Json.Members
import FeatureFlags.Proofs.Json.Restoring

/-!
**The members of a report.**

A report lists its fields and then the entries of extra logging, whatever their names and in
whatever order a walk meets them. An entry that has the name of a field comes as a second member of
that name, and where an object has one member of a name, the entry stays and the field is lost. So a
report tells its fields, each once, exactly if no entry has the name of a field; as an object it
also does if the entry repeats the field.

* `Json.valuesAt`: the values that stand under a name.
* `AssignmentEvent.IsReport`: members that tell the fields of a report.
* `AssignmentEvent.reports_up_to_extra_logging`: what the members of every report tell.
* `AssignmentEvent.extra_logging_displaces_fields`: the report of an evaluation that tells of
  another flag.
-/

namespace FeatureFlags

/-! ### Members under a name -/

namespace Json

/-- The values that stand under a name, in order. -/
def valuesAt (members : List (String × Json)) (name : String) : List Json :=
  (members.filter fun member => member.1 == name).map Prod.snd

theorem valuesAt_append (first second : List (String × Json)) (name : String) :
    valuesAt (first ++ second) name = valuesAt first name ++ valuesAt second name := by
  rw [valuesAt, List.filter_append, List.map_append]
  rfl

theorem valuesAt_cons (key name : String) (value : Json) (rest : List (String × Json)) :
    valuesAt ((key, value) :: rest) name =
      if key = name then value :: valuesAt rest name else valuesAt rest name := by
  rw [valuesAt, List.filter_cons, valuesAt]
  by_cases same : key = name
  · rw [if_pos (beq_iff_eq.2 same), if_pos same, List.map_cons]
  · rw [if_neg fun equal => same (beq_iff_eq.1 equal), if_neg same]

theorem mem_valuesAt_iff {members : List (String × Json)} {name : String} {value : Json} :
    value ∈ valuesAt members name ↔ (name, value) ∈ members := by
  rw [valuesAt, List.mem_map]
  constructor
  · rintro ⟨⟨key, value⟩, inside, rfl⟩
    obtain ⟨isMember, same⟩ := List.mem_filter.1 inside
    exact beq_iff_eq.1 same ▸ isMember
  · intro isMember
    exact ⟨_, List.mem_filter.2 ⟨isMember, beq_self_eq_true name⟩, rfl⟩

/-- Without a repeated name at most one value stands under a name. -/
theorem valuesAt_of_nodup {members : List (String × Json)}
    (distinct : (members.map Prod.fst).Nodup) (name : String) :
    valuesAt members name = (members.lookup name).toList := by
  induction members with
  | nil => rfl
  | cons member rest ih =>
    obtain ⟨key, value⟩ := member
    obtain ⟨new, restDistinct⟩ := List.nodup_cons.1 distinct
    rw [valuesAt_cons, Document.lookup_cons_ite]
    by_cases same : key = name
    · subst same
      have absent : valuesAt rest key = [] := List.eq_nil_iff_forall_not_mem.2 fun other isOther =>
        new (List.mem_map.2 ⟨(key, other), mem_valuesAt_iff.1 isOther, rfl⟩)
      rw [if_pos rfl, if_pos rfl, absent]
      rfl
    · rw [if_neg same, if_neg fun equal => same equal.symm]
      exact ih restDistinct

/-- An object that has one member of each name has the last one. -/
theorem get?_ofList_members (members : List (String × Json)) (name : String) :
    (Dict.ofList members).get? name = (valuesAt members name).getLast? := by
  rw [Dict.get?_ofList, Dict.latest?, valuesAt, List.getLast?_map]

/-- Whatever the order in which the entries of a map are met, its value stands under each key. -/
theorem valuesAt_walk {dict : Dict Json} (walk : dict.Walk) (name : String) :
    valuesAt walk.entries name = (dict.get? name).toList := by
  have distinct : (walk.entries.map Prod.fst).Nodup :=
    (walk.complete.map Prod.fst).nodup_iff.2 dict.keys_nodup
  have alone := valuesAt_of_nodup distinct name
  have found := get?_ofList_members walk.entries name
  rw [Dict.ofList_eq_of_perm walk.complete, alone] at found
  rw [alone, found]
  cases walk.entries.lookup name <;> rfl

theorem valuesAt_entries (dict : Dict Json) (name : String) :
    valuesAt dict.entries name = (dict.get? name).toList := valuesAt_walk (.inOrder dict) name

/-- The text of an object has the same values under each name. -/
theorem under_memberDocuments (members : List (String × Json)) (name : String) :
    Document.under (memberDocuments members) name = (valuesAt members name).map document := by
  induction members with
  | nil => rfl
  | cons member rest ih =>
    obtain ⟨key, value⟩ := member
    rw [memberDocuments, Document.under_cons (Document.stringText?_escaped key), ih, valuesAt_cons]
    by_cases same : key = name
    · rw [if_pos same, if_pos same, List.map_cons]
    · rw [if_neg same, if_neg same]

end Json

namespace AssignmentEvent

variable {event : AssignmentEvent}

/-! ### Fields and extra logging -/

/-- The names of the fields of a report. -/
def fieldNames : List String :=
  ["featureFlag", "allocation", "experiment", "variation", "subject", "subjectAttributes",
    "timestamp", "metaData"]

/-- The fields of a report, as members. -/
def fields (event : AssignmentEvent) : List (String × Json) :=
  [("featureFlag", .string event.featureFlag), ("allocation", Json.text? event.allocation),
    ("experiment", Json.text? event.experiment), ("variation", Json.text? event.variation),
    ("subject", .string event.subject), ("subjectAttributes", event.subjectAttributes.toJson),
    ("timestamp", event.timestamp.toJson), ("metaData", event.metaData)]

/-- The entries of extra logging, as members. -/
def extras (event : AssignmentEvent) : Dict Json :=
  event.extraLogging.map fun _ text => .string text

/-- A walk over extra logging is a walk over its members. -/
def extrasAlong (walk : event.extraLogging.Walk) : event.extras.Walk :=
  ⟨walk.entries.map fun entry => (entry.1, .string entry.2), walk.complete.map _⟩

theorem members_eq (walk : event.extraLogging.Walk) :
    event.members walk = event.fields ++ (extrasAlong walk).entries := rfl

theorem map_fst_fields (event : AssignmentEvent) : event.fields.map Prod.fst = fieldNames := rfl

theorem mem_fieldNames_of_mem {field : String × Json} (isField : field ∈ event.fields) :
    field.1 ∈ fieldNames := List.mem_map_of_mem isField

theorem fields_nodup (event : AssignmentEvent) : (event.fields.map Prod.fst).Nodup := by
  rw [map_fst_fields]
  decide

/-- Members tell the fields of a report if each stands under its name, alone, and every other member
is an entry of extra logging. -/
structure IsReport (event : AssignmentEvent) (members : List (String × Json)) : Prop where
  field : ∀ field ∈ event.fields, Json.valuesAt members field.1 = [field.2]
  other : ∀ member ∈ members, member.1 ∉ fieldNames →
    ∃ text, event.extraLogging.get? member.1 = some text ∧ member.2 = .string text

theorem get?_extras (event : AssignmentEvent) (name : String) :
    event.extras.get? name = (event.extraLogging.get? name).map Json.string :=
  Dict.get?_map _ event.extraLogging name

/-- **Under each name stands the field, and after it the entry of extra logging.** -/
theorem valuesAt_members (walk : event.extraLogging.Walk) (name : String) :
    Json.valuesAt (event.members walk) name = (event.fields.lookup name).toList ++
      ((event.extraLogging.get? name).map Json.string).toList := by
  rw [members_eq, Json.valuesAt_append, Json.valuesAt_of_nodup event.fields_nodup,
    Json.valuesAt_walk, get?_extras]

/-- Of the two, an object with one member of each name has the entry of extra logging. -/
theorem get?_ofList_members (walk : event.extraLogging.Walk) (name : String) :
    (Dict.ofList (event.members walk)).get? name =
      ((event.extraLogging.get? name).map Json.string).or (event.fields.lookup name) := by
  rw [Json.get?_ofList_members, valuesAt_members]
  cases event.extraLogging.get? name <;> cases event.fields.lookup name <;> rfl

/-- What stands under a field's name among the fields is that field. -/
theorem lookup_fields {field : String × Json} (isField : field ∈ event.fields) :
    event.fields.lookup field.1 = some field.2 := by
  have listed : field.2 ∈ Json.valuesAt event.fields field.1 := Json.mem_valuesAt_iff.2 isField
  rw [Json.valuesAt_of_nodup event.fields_nodup, Option.mem_toList] at listed
  exact listed

theorem exists_extraLogging_of_mem {walk : event.extraLogging.Walk} {member : String × Json}
    (isMember : member ∈ event.members walk) (noField : member.1 ∉ fieldNames) :
    ∃ text, event.extraLogging.get? member.1 = some text ∧ member.2 = .string text := by
  rw [members_eq, List.mem_append] at isMember
  rcases isMember with isField | isExtra
  · exact absurd (mem_fieldNames_of_mem isField) noField
  · have found := Dict.get?_eq_some_iff.2 ((extrasAlong walk).complete.mem_iff.1 isExtra)
    obtain ⟨text, isText, same⟩ := Option.map_eq_some_iff.1 ((get?_extras event _).symm.trans found)
    exact ⟨text, isText, same.symm⟩

/-! ### Reports -/

/-- The members as they are written tell the fields exactly if no entry has the name of one. -/
theorem isReport_members_iff {walk : event.extraLogging.Walk} :
    event.IsReport (event.members walk) ↔
      ∀ name ∈ fieldNames, event.extraLogging.get? name = none := by
  constructor
  · intro isReport name isName
    obtain ⟨field, isField, rfl⟩ := List.mem_map.1 (event.map_fst_fields ▸ isName)
    have alone := isReport.field field isField
    rw [valuesAt_members, lookup_fields isField] at alone
    cases extra : event.extraLogging.get? field.1 with
    | none => rfl
    | some text =>
      rw [extra] at alone
      cases alone
  · intro clear
    refine ⟨fun field isField => ?_, fun member => exists_extraLogging_of_mem⟩
    rw [valuesAt_members, lookup_fields isField, clear _ (mem_fieldNames_of_mem isField)]
    rfl

/-- An object with one member of each name tells the fields exactly if an entry that has the name of
a field repeats it. -/
theorem isReport_ofList_iff {walk : event.extraLogging.Walk} :
    event.IsReport (Dict.ofList (event.members walk)).entries ↔
      ∀ field ∈ event.fields, ∀ text, event.extraLogging.get? field.1 = some text →
        field.2 = .string text := by
  constructor
  · intro isReport field isField text found
    have alone := isReport.field field isField
    rw [Json.valuesAt_entries, get?_ofList_members, found] at alone
    exact (List.head_eq_of_cons_eq alone).symm
  · intro repeats
    refine ⟨fun field isField => ?_, fun member inside =>
      exists_extraLogging_of_mem (Dict.mem_of_mem_ofList inside)⟩
    rw [Json.valuesAt_entries, get?_ofList_members, lookup_fields isField]
    cases found : event.extraLogging.get? field.1 with
    | none => rfl
    | some text =>
      rw [repeats field isField text found]
      rfl

/-- **What the members of a report tell, whatever its extra logging**, and whatever the order in
which its entries are met.

The text of a report has under each name the field, if there is one, and then the entry of extra
logging; the object has the entry if there is one, and the field otherwise. The text tells the
fields, each once, exactly if no entry has the name of a field, and the object exactly if each entry
that has the name of a field repeats it. -/
theorem reports_up_to_extra_logging (event : AssignmentEvent) (walk : event.extraLogging.Walk) :
    (∃ members, Document.read? (event.toJson walk).toOctets = some (.object members) ∧
      ∀ name, Document.under members name =
        ((event.fields.lookup name).toList ++
          ((event.extraLogging.get? name).map Json.string).toList).map Json.document) ∧
    (∃ kept : Dict Json, Json.objectOf (event.members walk) = .object kept.entries ∧
      ∀ name, kept.get? name =
        ((event.extraLogging.get? name).map Json.string).or (event.fields.lookup name)) ∧
    (event.IsReport (event.members walk) ↔
      ∀ name ∈ fieldNames, event.extraLogging.get? name = none) ∧
    (event.IsReport (Dict.ofList (event.members walk)).entries ↔
      ∀ field ∈ event.fields, ∀ text, event.extraLogging.get? field.1 = some text →
        field.2 = .string text) := by
  refine ⟨⟨Json.memberDocuments (event.members walk), ?text, fun name => ?_⟩,
    ⟨Dict.ofList (event.members walk), ?object, get?_ofList_members walk⟩, isReport_members_iff,
    isReport_ofList_iff⟩
  case text => exact Document.read?_toOctets (event.toJson walk)
  case object => exact congrArg Json.object (Document.foldl_placeMember (event.members walk))
  rw [Json.under_memberDocuments, valuesAt_members]

/-! ### A clash -/

/-- A split that logs another flag. -/
def otherFlag : Split := ⟨[], "on", ⟨[("featureFlag", "checkout")], by decide⟩⟩

/-- The launch, with that split. -/
def renamed : Flag :=
  { Flag.launch with allocations := [⟨"today", [], none, none, [otherFlag], true⟩] }

/-- What it serves. -/
def renamedAnswer : Evaluation :=
  ⟨.string "yes", "on", "today", true, otherFlag.extraLogging, .static⟩

/-- The report of what it serves. -/
def renamedEvent : AssignmentEvent :=
  Configuration.eventOf ⟨"launch", none, Flag.earlyVisit.now, .own⟩ Flag.earlyVisit renamed
    renamedAnswer

/-- **A report need not tell its fields**: the one of this evaluation tells of another flag, as a
text besides its own and as an object in its place. -/
theorem extra_logging_displaces_fields :
    renamed.evaluate Flag.earlyVisit = .ok renamedAnswer ∧
    ∀ walk : renamedEvent.extraLogging.Walk,
      ¬ renamedEvent.IsReport (renamedEvent.members walk) ∧
        ¬ renamedEvent.IsReport (Dict.ofList (renamedEvent.members walk)).entries := by
  have clash : renamedEvent.extraLogging.get? "featureFlag" = some "checkout" := by decide
  refine ⟨by decide +kernel, fun walk => ⟨fun asText => ?_, fun asObject => ?_⟩⟩
  · have clear := isReport_members_iff.1 asText "featureFlag" (by decide)
    rw [clash] at clear
    cases clear
  · have repeats := isReport_ofList_iff.1 asObject ("featureFlag", .string "launch")
      List.mem_cons_self "checkout" clash
    exact absurd repeats (by decide)

end AssignmentEvent

end FeatureFlags
