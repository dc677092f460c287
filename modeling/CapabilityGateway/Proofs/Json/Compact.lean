import CapabilityGateway.Proofs.Json.Roundtrip
import CapabilityGateway.Text.Blank

/-!
# What stands outside of strings

A scanner that follows a JSON text knows at each character whether it stands in a quoted string, and
there whether a backslash precedes it. The texts that are written here are compact: they end outside
of every string, have no blank there, and no control character anywhere.

* `Json.unquoted`: the characters outside of strings.
* `Json.Compact`: no blank among them, and no control character.
* `Json.Datum.compact_text`: the text of every value is compact.
-/

namespace CapabilityGateway

namespace Json

/-- Where the next character of a text stands. -/
inductive Place where
  | outside
  | inside
  /-- In a string, after a backslash. -/
  | escaped
  deriving DecidableEq

namespace Place

/-- The place after a character. -/
def next : Place → Char → Place
  | .outside, c => if c = '"' then .inside else .outside
  | .inside, c => if c = '"' then .outside else if c = '\\' then .escaped else .inside
  | .escaped, _ => .inside

/-- The place after a text. -/
def after (p : Place) (cs : List Char) : Place := cs.foldl next p

theorem after_append (p : Place) (s t : List Char) : p.after (s ++ t) = (p.after s).after t :=
  List.foldl_append

end Place

/-- The characters outside of strings, with the quotes that open them. -/
def unquoted : Place → List Char → List Char
  | _, [] => []
  | .outside, c :: cs => c :: unquoted (Place.outside.next c) cs
  | .inside, c :: cs => unquoted (Place.inside.next c) cs
  | .escaped, _ :: cs => unquoted .inside cs

theorem unquoted_append (p : Place) (s t : List Char) :
    unquoted p (s ++ t) = unquoted p s ++ unquoted (p.after s) t := by
  induction s generalizing p with
  | nil => simp [unquoted, Place.after]
  | cons c s ih =>
    cases p with
    | outside => simp only [List.cons_append, unquoted, ih]; rfl
    | inside => simp only [List.cons_append, unquoted, ih]; rfl
    | escaped => simp only [List.cons_append, unquoted, ih]; rfl

/-- A text without a blank outside of its strings and without control characters. -/
structure Compact (t : List Char) : Prop where
  closed : Place.outside.after t = .outside
  noBlank : ∀ c ∈ unquoted .outside t, Text.isBlank c = false
  noControl : ∀ c ∈ t, 0x20 ≤ c.toNat

theorem compact_nil : Compact [] := ⟨rfl, by simp [unquoted], by simp⟩

theorem Compact.append {s t : List Char} (hs : Compact s) (ht : Compact t) : Compact (s ++ t) where
  closed := by rw [Place.after_append, hs.closed, ht.closed]
  noBlank := by
    rw [unquoted_append, hs.closed]
    exact List.forall_mem_append.mpr ⟨hs.noBlank, ht.noBlank⟩
  noControl := List.forall_mem_append.mpr ⟨hs.noControl, ht.noControl⟩

/-- A character that may stand outside of strings, and does not open one. -/
structure Plain (c : Char) : Prop where
  noQuote : c ≠ '"'
  noBlank : Text.isBlank c = false
  noControl : 0x20 ≤ c.toNat

instance (c : Char) : Decidable (Plain c) :=
  decidable_of_iff (c ≠ '"' ∧ Text.isBlank c = false ∧ 0x20 ≤ c.toNat)
    ⟨fun ⟨h₁, h₂, h₃⟩ => ⟨h₁, h₂, h₃⟩, fun ⟨h₁, h₂, h₃⟩ => ⟨h₁, h₂, h₃⟩⟩

theorem Plain.compact {c : Char} (h : Plain c) : Compact [c] where
  closed := by simp [Place.after, Place.next, h.noQuote]
  noBlank := by simpa [unquoted] using h.noBlank
  noControl := by simpa using h.noControl

theorem compact_of_plain {t : List Char} (h : ∀ c ∈ t, Plain c) : Compact t := by
  induction t with
  | nil => exact compact_nil
  | cons c t ih =>
    obtain ⟨hc, ht⟩ := List.forall_mem_cons.mp h
    exact hc.compact.append (ih ht)

theorem compact_word {t : List Char} (h : t.all (fun c => Plain c) = true) : Compact t :=
  compact_of_plain fun c hc => of_decide_eq_true (List.all_eq_true.mp h c hc)

/-! ## Strings -/

/-- A text that keeps the scanner in the string it is in. -/
structure Quotable (t : List Char) : Prop where
  kept : Place.inside.after t = .inside
  silent : unquoted .inside t = []
  noControl : ∀ c ∈ t, 0x20 ≤ c.toNat

theorem Quotable.append {s t : List Char} (hs : Quotable s) (ht : Quotable t) :
    Quotable (s ++ t) where
  kept := by rw [Place.after_append, hs.kept, ht.kept]
  silent := by rw [unquoted_append, hs.kept, hs.silent, ht.silent, List.append_nil]
  noControl := List.forall_mem_append.mpr ⟨hs.noControl, ht.noControl⟩

theorem quotable_hexPair {n : Nat} (h : n < 0x20) :
    Quotable (['\\', 'u', '0', '0'] ++ hexPair n) := by
  have hall : ∀ m : Fin 0x20,
      Place.inside.after (['\\', 'u', '0', '0'] ++ hexPair m) = .inside ∧
      unquoted .inside (['\\', 'u', '0', '0'] ++ hexPair m) = [] ∧
      (['\\', 'u', '0', '0'] ++ hexPair m).all (fun c => 0x20 ≤ c.toNat) = true := by decide
  obtain ⟨hkept, hsilent, hcontrol⟩ := hall ⟨n, h⟩
  exact ⟨hkept, hsilent, by simpa using hcontrol⟩

theorem quotable_escape (c : Char) : Quotable (escape c) := by
  rcases escape_cases c with ⟨e, hescape, -, he⟩ | ⟨hescape, hcontrol⟩ |
    ⟨hescape, hquote, hbackslash, hcontrol⟩
  · rw [hescape]
    exact ⟨rfl, rfl, by simpa using he⟩
  · rw [hescape]
    exact quotable_hexPair hcontrol
  · rw [hescape]
    refine ⟨by simp [Place.after, Place.next, hquote, hbackslash], by simp [unquoted], ?_⟩
    simpa using hcontrol

theorem quotable_escapes (s : List Char) : Quotable (s.flatMap escape) := by
  induction s with
  | nil => exact ⟨rfl, rfl, by simp⟩
  | cons c s ih => exact (quotable_escape c).append ih

theorem compact_quote (s : List Char) : Compact (quote s) := by
  have hs := quotable_escapes s
  have hend : Place.inside.after (s.flatMap escape ++ ['"']) = .outside := by
    rw [Place.after_append, hs.kept]
    rfl
  have hsilent : unquoted .inside (s.flatMap escape ++ ['"']) = [] := by
    rw [unquoted_append, hs.silent, hs.kept]
    rfl
  constructor
  case closed => exact hend
  case noBlank =>
    intro c hc
    have hquote : c ∈ '"' :: unquoted .inside (s.flatMap escape ++ ['"']) := hc
    rw [hsilent, List.mem_singleton] at hquote
    rw [hquote]
    rfl
  case noControl =>
    have hrest : ∀ c ∈ s.flatMap escape ++ ['"'], 0x20 ≤ c.toNat :=
      List.forall_mem_append.mpr ⟨hs.noControl, by simp⟩
    exact List.forall_mem_cons.mpr ⟨by decide, hrest⟩

/-! ## Arrays and objects -/

theorem compact_separated {ts : List (List Char)} (h : ∀ t ∈ ts, Compact t) :
    Compact (separated ',' ts) := by
  induction ts with
  | nil => exact compact_nil
  | cons t ts ih =>
    obtain ⟨ht, hts⟩ := List.forall_mem_cons.mp h
    cases ts with
    | nil => exact ht
    | cons u ts =>
      have hcomma : Compact [','] := Plain.compact (by decide)
      exact ht.append (hcomma.append (ih hts))

theorem compact_array {ts : List (List Char)} (h : ∀ t ∈ ts, Compact t) : Compact (array ts) := by
  have hopen : Compact ['['] := Plain.compact (by decide)
  have hclose : Compact [']'] := Plain.compact (by decide)
  exact hopen.append ((compact_separated h).append hclose)

theorem compact_object {ts : List (List Char)} (h : ∀ t ∈ ts, Compact t) : Compact (object ts) := by
  have hopen : Compact ['\x7b'] := Plain.compact (by decide)
  have hclose : Compact ['\x7d'] := Plain.compact (by decide)
  exact hopen.append ((compact_separated h).append hclose)

theorem compact_member (name : List Char) {value : List Char} (h : Compact value) :
    Compact (member name value) := by
  have hcolon : Compact [':'] := Plain.compact (by decide)
  exact (compact_quote name).append (hcolon.append h)

/-! ## Values -/

theorem plain_of_isDigit {c : Char} (h : c.isDigit = true) : Plain c := by
  have hrange : 48 ≤ c.toNat ∧ c.toNat ≤ 57 := by
    simpa [Char.isDigit, UInt32.le_iff_toNat_le] using h
  refine ⟨?_, ?_, by omega⟩
  · rintro rfl
    cases h
  · simp only [Text.isBlank, CodePoints.contains, List.any_eq_false, decide_eq_true_eq]
    have hranges : ∀ r ∈ Text.whiteSpace, r.2 < 48 ∨ 57 < r.1 := by decide
    intro r hr
    have := hranges r hr
    omega

theorem plain_of_isNumberChar {c : Char} (h : isNumberChar c = true) : Plain c := by
  rcases Bool.or_eq_true_iff.mp h with hdigit | hmark
  · exact plain_of_isDigit hdigit
  · have hmarks : ['-', '+', '.', 'e', 'E'].all (fun a => Plain a) = true := by decide
    exact of_decide_eq_true (List.all_eq_true.mp hmarks c (by simpa using hmark))

namespace Datum

mutual

theorem compact_text : ∀ d : Datum, Compact d.text
  | .null => compact_word (by decide)
  | .bool b => by cases b <;> exact compact_word (by decide)
  | .number t =>
    compact_of_plain fun c hc => plain_of_isNumberChar (numberChars_of_isNumber t.valid c hc)
  | .string s => compact_quote s.toList
  | .array ds => compact_array (compact_texts ds)
  | .object ms => compact_object (compact_memberTexts ms)

theorem compact_texts : ∀ ds : List Datum, ∀ t ∈ texts ds, Compact t
  | [] => by simp [texts]
  | d :: ds => List.forall_mem_cons.mpr ⟨compact_text d, compact_texts ds⟩

theorem compact_memberTexts : ∀ ms : List (String × Datum), ∀ t ∈ memberTexts ms, Compact t
  | [] => by simp [memberTexts]
  | (name, d) :: ms =>
    List.forall_mem_cons.mpr ⟨compact_member name.toList (compact_text d), compact_memberTexts ms⟩

end

end Datum

end Json

end CapabilityGateway
