import CapabilityGateway.Audit.Entry
import CapabilityGateway.Dictionary
import CapabilityGateway.Proofs.Json.Compact

/-!
# Reading audit entries back

An audit entry is written as one JSON object. Its members are the moment, the kind of the event, and
then what the event says, which is different for each kind. Reading the line gives that object, and
from the object the event can be told: the kind says which members to look for.

So nothing that an event says can be mistaken for another part of the line, whatever quotes, line
breaks or JSON texts there are in it.

* `AuditEntry.datum`: the object that an entry is written as.
* `AuditEvent.ofDatum?`: the event that an object tells of.
* `AuditEntry.jsonLine_decodes`: from the line back to the event.
-/

namespace CapabilityGateway

open Json (Datum)

namespace Json.Datum

/-! ## Objects and strings -/

/-- The value of an object's member. -/
def member? (name : String) : Datum → Option Datum
  | .object ms => Dictionary.get? name ms
  | _ => none

/-- The text of a string. -/
def text? : Datum → Option String
  | .string s => some s
  | _ => none

/-- The texts of an array of strings. -/
def strings? : Datum → Option (List String)
  | .array ds => ds.mapM text?
  | _ => none

theorem strings?_array (ss : List String) : strings? (.array (ss.map .string)) = some ss := by
  rw [strings?]
  induction ss with
  | nil => rfl
  | cons s ss ih => simp [text?, ih]

theorem texts_strings (ss : List String) :
    texts (ss.map .string) = ss.map fun s => quote s.toList := by
  induction ss with
  | nil => rfl
  | cons s ss ih => rw [List.map_cons, texts, ih, text, List.map_cons]

theorem namesDistinct_strings (ss : List String) :
    NamesDistinct (.array (ss.map .string)) := by
  refine .array fun d hd => ?_
  obtain ⟨s, -, rfl⟩ := List.mem_map.mp hd
  exact .string s

end Json.Datum

namespace AuditEvent

/-- What the event says, as the members of an object, in their order. -/
def fields : AuditEvent → List (String × Datum)
  | .contextCreated context capabilities =>
    [("context_id", .string context), ("capabilities", .array (capabilities.map .string))]
  | .contextDestroyed context => [("context_id", .string context)]
  | .capabilityInstalled name => [("name", .string name)]
  | .capabilityCollision name => [("name", .string name)]
  | .hostFunctionMissing key => [("key", .string key)]

/-- The event that an object tells of. The member `event` says which others there are. -/
def ofDatum? (d : Datum) : Option AuditEvent := do
  let text? (name : String) : Option String := (d.member? name).bind Datum.text?
  match ← text? "event" with
  | "context_created" =>
    return .contextCreated (← text? "context_id") (← (← d.member? "capabilities").strings?)
  | "context_destroyed" => return .contextDestroyed (← text? "context_id")
  | "capability_installed" => return .capabilityInstalled (← text? "name")
  | "capability_collision" => return .capabilityCollision (← text? "name")
  | "host_function_missing" => return .hostFunctionMissing (← text? "key")
  | _ => none

theorem memberTexts_fields (event : AuditEvent) :
    Datum.memberTexts event.fields = event.members := by
  cases event with
  | contextCreated context capabilities =>
    simp only [fields, Datum.memberTexts, Datum.text, Datum.texts_strings]
    rfl
  | _ => rfl

end AuditEvent

namespace AuditEntry

/-- The object that an entry is written as. -/
def datum (e : AuditEntry) : Datum :=
  .object (("timestamp", .string (String.ofList e.timestamp.exactText)) ::
    ("event", .string e.event.kind) :: e.event.fields)

theorem toList_jsonLine (e : AuditEntry) : e.jsonLine.toList = e.datum.text := by
  rw [jsonLine, String.toList_ofList, datum, Datum.text, Datum.memberTexts, Datum.memberTexts,
    e.event.memberTexts_fields]
  rfl

theorem read?_jsonLine (e : AuditEntry) : Json.read? e.jsonLine.toList = some e.datum := by
  rw [toList_jsonLine, Datum.read?_text]

theorem namesDistinct_datum (e : AuditEntry) : e.datum.NamesDistinct := by
  obtain ⟨timestamp, event⟩ := e
  refine .object ?_ ?_
  · cases event <;> simp [AuditEvent.fields]
  · refine List.forall_mem_cons.mpr ⟨.string _, List.forall_mem_cons.mpr ⟨.string _, ?_⟩⟩
    cases event with
    | contextCreated context capabilities =>
      exact List.forall_mem_cons.mpr ⟨.string _, List.forall_mem_cons.mpr
        ⟨Datum.namesDistinct_strings capabilities, by simp⟩⟩
    | _ => exact List.forall_mem_cons.mpr ⟨.string _, by simp⟩

/-- The kind tells which members to look for, and these say all that the event says. -/
theorem ofDatum?_datum (e : AuditEntry) : AuditEvent.ofDatum? e.datum = some e.event := by
  obtain ⟨timestamp, event⟩ := e
  cases event with
  | contextCreated context capabilities =>
    have hcapabilities := Datum.strings?_array capabilities
    simp [AuditEvent.ofDatum?, datum, AuditEvent.kind, AuditEvent.fields, Datum.member?,
      Dictionary.get?, Datum.text?, hcapabilities]
  | _ => rfl

/-- A line is determined by the moment as it is written and by the event, and determines both. -/
theorem jsonLine_eq_iff {a b : AuditEntry} :
    a.jsonLine = b.jsonLine ↔
      a.timestamp.exactText = b.timestamp.exactText ∧ a.event = b.event := by
  constructor
  · intro h
    have hdatum : a.datum = b.datum := by
      rw [← Option.some_inj, ← read?_jsonLine, h, read?_jsonLine]
    have hevent : a.event = b.event := by
      rw [← Option.some_inj, ← ofDatum?_datum, hdatum, ofDatum?_datum]
    have hmoment : a.datum.member? "timestamp" = b.datum.member? "timestamp" := by rw [hdatum]
    have htext : Datum.string (String.ofList a.timestamp.exactText) =
        .string (String.ofList b.timestamp.exactText) := Option.some.inj hmoment
    exact ⟨String.ofList_injective (Datum.string.inj htext), hevent⟩
  · rintro ⟨htimestamp, hevent⟩
    rw [jsonLine, htimestamp, hevent, jsonLine]

/-- The JSON line of an entry is one line without control characters. It reads as an object with
distinct names, namely the moment, the kind of the event and what the event says, in this order. The
object tells the event, and entries with the same line agree in the event and in the moment as it is
written. -/
theorem jsonLine_decodes (e : AuditEntry) :
    (∀ c ∈ e.jsonLine.toList, 0x20 ≤ c.toNat) ∧
    ∃ d, Json.read? e.jsonLine.toList = some d ∧ d.NamesDistinct ∧
      d = .object (("timestamp", .string (String.ofList e.timestamp.exactText)) ::
        ("event", .string e.event.kind) :: e.event.fields) ∧
      AuditEvent.ofDatum? d = some e.event ∧
      ∀ other : AuditEntry, other.jsonLine = e.jsonLine ↔
        other.timestamp.exactText = e.timestamp.exactText ∧ other.event = e.event := by
  have hcompact := e.datum.compact_text
  rw [← toList_jsonLine] at hcompact
  exact ⟨hcompact.noControl, e.datum, e.read?_jsonLine, e.namesDistinct_datum, rfl,
    e.ofDatum?_datum, fun _ => jsonLine_eq_iff⟩

end AuditEntry

end CapabilityGateway
