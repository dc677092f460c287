import CapabilityGateway.Audit.Entry
import CapabilityGateway.Capability.Name
import CapabilityGateway.Proofs.Number.Layout
import CapabilityGateway.Proofs.Text.LowerCase

/-!
# Control characters in log lines

A log line shows the texts of its event as they are, without quotes and without escapes. The rest of
a line, its moment included, is printable, so whether a line has a control character is a matter of
those texts alone.

* `Text.Clean`: no control character.
* `CapabilityName.clean_of_isValid`: a capability name has none.
* `AuditEntry.clean_logLine_iff`: which log lines have none.
-/

namespace CapabilityGateway

namespace Text

/-- A control character of Unicode: U+0000 to U+001F or U+007F to U+009F. -/
def isControl (c : Char) : Bool := c.toNat < 0x20 || (0x7F ≤ c.toNat && c.toNat ≤ 0x9F)

/-- There is no control character in the text. -/
def Clean (s : List Char) : Prop := ∀ c ∈ s, isControl c = false

instance (s : List Char) : Decidable (Clean s) :=
  List.decidableBAll (isControl · = false) s

@[simp] theorem clean_append {s t : List Char} : Clean (s ++ t) ↔ Clean s ∧ Clean t :=
  List.forall_mem_append

@[simp] theorem clean_cons {c : Char} {s : List Char} :
    Clean (c :: s) ↔ isControl c = false ∧ Clean s :=
  List.forall_mem_cons

@[simp] theorem clean_nil : Clean [] := nofun

/-- Of a text with separators, the parts have to be looked at. -/
theorem clean_intercalate {separator : String} (h : Clean separator.toList)
    {parts : List String} :
    Clean (String.intercalate separator parts).toList ↔ ∀ s ∈ parts, Clean s.toList := by
  induction parts with
  | nil => simp
  | cons s rest ih =>
    cases rest with
    | nil => simp
    | cons t rest =>
      rw [String.intercalate_cons_cons, String.toList_append, String.toList_append, clean_append,
        clean_append, ih, List.forall_mem_cons]
      simp [h]

theorem isControl_of_isDigit {c : Char} (h : c.isDigit = true) : isControl c = false :=
  forall_ascii (P := fun c => c.isDigit = true → isControl c = false) (by decide +kernel)
    (toNat_lt_of_isAlphanum (by simp [Char.isAlphanum, h])) h

end Text

namespace CapabilityName

open Text (Clean)

theorem toNat_lt_of_isTail {c : Char} (h : isTail c = true) : c.toNat < 0x80 := by
  simp only [isTail, isHead, Bool.or_eq_true, beq_iff_eq] at h
  rcases h with ((halpha | rfl) | rfl) | hdigit
  · exact Text.toNat_lt_of_isAlphanum (by simp [Char.isAlphanum, halpha])
  · decide
  · decide
  · exact Text.toNat_lt_of_isAlphanum (by simp [Char.isAlphanum, hdigit])

theorem isControl_of_isTail {c : Char} (h : isTail c = true) : Text.isControl c = false :=
  Text.forall_ascii (P := fun c => isTail c = true → Text.isControl c = false) (by decide +kernel)
    (toNat_lt_of_isTail h) h

theorem clean_of_isValid {name : String} (h : isValid name = true) : Clean name.toList := by
  rw [isValid] at h
  cases hname : name.toList with
  | nil => exact Text.clean_nil
  | cons c cs =>
    simp only [hname, Bool.and_eq_true, List.all_eq_true] at h
    obtain ⟨⟨hhead, htail⟩, -⟩ := h
    refine Text.clean_cons.mpr ⟨isControl_of_isTail ?_, fun d hd => ?_⟩
    · rw [isTail, hhead, Bool.true_or]
    · exact isControl_of_isTail (htail d hd)

end CapabilityName

namespace Timestamp

open Text (Clean isControl_of_isDigit)

/-! ## The moment -/

theorem clean_padded (width n : Nat) : Clean (padded width n) := by
  refine Text.clean_append.mpr ⟨fun c hc => ?_, fun c hc => ?_⟩
  · exact isControl_of_isDigit (Decimal.isDigit_zeros _ c hc)
  · exact isControl_of_isDigit (Decimal.isDigit_digits n c hc)

theorem clean_yearText (year : Int) : Clean (yearText year) := by
  unfold yearText
  split
  · exact clean_padded 4 _
  · refine Text.clean_cons.mpr ⟨?_, clean_padded 4 _⟩
    split <;> decide

theorem clean_millisText (t : Timestamp) : Clean t.millisText := by
  have hmarks : Text.isControl '-' = false ∧ Text.isControl 'T' = false ∧
      Text.isControl ':' = false ∧ Text.isControl '.' = false ∧ Text.isControl 'Z' = false := by
    decide
  simp [millisText, wholeText, clean_padded, clean_yearText, hmarks]

end Timestamp

/-! ## The line -/

/-- The texts that a log line of the event shows as they are. -/
def AuditEvent.texts : AuditEvent → List String
  | .contextCreated context names => context :: names
  | .contextDestroyed context => [context]
  | .capabilityInstalled name | .capabilityCollision name => [name]
  | .hostFunctionMissing key => [key]

namespace AuditEntry

open Text (Clean clean_append clean_intercalate)

theorem clean_labelled {label : String} (h : Clean label.toList) (text : String) :
    Clean (label ++ text).toList ↔ ∀ s ∈ [text], Clean s.toList := by
  simp [h]

theorem clean_sentence_iff (event : AuditEvent) :
    Clean event.sentence.toList ↔ ∀ s ∈ event.texts, Clean s.toList := by
  cases event with
  | contextCreated context names =>
    have hcomma : Clean ", ".toList := by decide +kernel
    have hframe : Clean "Context created: ".toList ∧ Clean " (capabilities: ".toList ∧
        Clean ")".toList := by
      decide +kernel
    change Clean ("Context created: " ++ context ++ " (capabilities: " ++
        String.intercalate ", " names ++ ")").toList ↔ ∀ s ∈ context :: names, Clean s.toList
    simp only [String.toList_append, clean_append, clean_intercalate hcomma, hframe, true_and,
      and_true, List.forall_mem_cons]
  | contextDestroyed context => exact clean_labelled (by decide +kernel) context
  | capabilityInstalled name => exact clean_labelled (by decide +kernel) name
  | capabilityCollision name => exact clean_labelled (by decide +kernel) name
  | hostFunctionMissing key => exact clean_labelled (by decide +kernel) key

/-- A log line has a control character only where a text of its event has one. -/
theorem clean_logLine_iff (e : AuditEntry) :
    Clean e.logLine.toList ↔ ∀ s ∈ e.event.texts, Clean s.toList := by
  have hframe : Clean "[".toList ∧ Clean "] ".toList := by decide +kernel
  rw [← clean_sentence_iff]
  simp only [logLine, String.toList_append, clean_append, String.toList_ofList, hframe,
    e.timestamp.clean_millisText, true_and]

end AuditEntry

end CapabilityGateway
